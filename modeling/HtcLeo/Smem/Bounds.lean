import HtcLeo.Smem.Alloc
import HtcLeo.Smem.RamTable
import HtcLeo.Smem.Versions

/-!
# The entries of the RAM partition table

The tables of the modem and of the driver have 32 entries.  Here the functions that use
entries fail at an index that no entry has; up to that they do what they did before.  The
indices come from the length in the table of the modem, which nothing compares with 32.
-/

namespace HtcLeo.Smem

open Packed Memory

/-! ## Accesses to entries -/

/-- Why a run has no result: an entry that no table has, a table of a caller that is written past
its end, a loop that does not end, a string without an end. -/
inductive Fault where
  | outOfBounds
  | full
  | endless
  | overrun
  deriving DecidableEq, Repr

/-- Use an entry of a table that has `capacity` of them. -/
def part (capacity i : Nat) : Except Fault Unit :=
  if i < capacity then .ok () else .error .outOfBounds

theorem ok_ne_error {α : Type} (value : α) (fault : Fault) :
    (.ok value : Except Fault α) ≠ .error fault := by
  intro same
  cases same

theorem bind_eq_ok_iff {α β : Type} {first : Except Fault α} {next : α → Except Fault β}
    {result : β} : first >>= next = .ok result ↔
      ∃ value, first = .ok value ∧ next value = .ok result := by
  cases first with
  | error fault => simp [bind, Except.bind]
  | ok value => simp [bind, Except.bind]

/-- A fault is that of the first part, or of the second. -/
theorem bind_eq_error_iff {α β : Type} {first : Except Fault α} {next : α → Except Fault β}
    {fault : Fault} : first >>= next = .error fault ↔
      first = .error fault ∨ ∃ value, first = .ok value ∧ next value = .error fault := by
  cases first with
  | error other => simp [bind, Except.bind]
  | ok value => simp [bind, Except.bind]

theorem part_eq_ok_iff {capacity i : Nat} {used : Unit} :
    part capacity i = .ok used ↔ i < capacity := by
  rw [part]
  split
  · rename_i inside
    exact iff_of_true rfl inside
  · rename_i outside
    exact iff_of_false (ok_ne_error _ _).symm outside

/-- The loop of `smem_copy_ram_ptable`; each round uses an entry of both tables. -/
def copyPartsChecked (s : Struct PtnField) (parts : Nat) (buf : Bytes) :
    Nat → Bytes → Except Fault Bytes
  | 0, ptable => .ok ptable
  | pentry + 1, ptable => do
      let ptable ← copyPartsChecked s parts buf pentry ptable
      part RAM_NUM_PART_ENTRIES pentry
      return smemRamPtnV2.assign (partsOffsetAligned + pentry * smemRamPtnV2.size)
        (s.get buf (parts + pentry * s.size)) copiedFields ptable

/-- `smem_copy_ram_ptable`, which stops where it would leave an array. -/
def smemCopyRamPtableChecked (buf ptable : Bytes) : Except Fault Bytes :=
  let ptable := copyRange buf ptable 0 0 smemRamPtableHdr.size
  let version := smemRamPtableHdr.get ptable 0 .version
  let len := smemRamPtableHdr.get buf 0 .len
  if version = SMEM_RAM_PTABLE_VERSION_2 then
    .ok (copyRange buf ptable 0 0 ramPartitionTableSize)
  else if version = SMEM_RAM_PTABLE_VERSION_1 then
    copyPartsChecked smemRamPtnV1 partsOffsetAligned buf len ptable
  else if version = SMEM_RAM_PTABLE_VERSION_0 then
    copyPartsChecked smemRamPtn partsOffset buf len ptable
  else .ok ptable

/-- `smem_get_ram_ptable_entry`, which stops where it would leave the table. -/
def smemGetRamPtableEntryChecked (ptable ptn : Bytes) (entry : Nat) : Except Fault Bytes := do
  part RAM_NUM_PART_ENTRIES entry
  return smemGetRamPtableEntry ptable ptn entry

/-- The search with checked entries. -/
def ddrSearchChecked (ptable : Bytes) : Nat → Nat → Bytes → Except Fault U32
  | 0, _, _ => .ok 0
  | left + 1, i, ptn => do
      let ptn ← smemGetRamPtableEntryChecked ptable ptn i
      let entry := ramPartition ptn
      if entry.type = SYS_MEMORY ∧ (entry.category = SDRAM ∨ entry.category = IMEM) then
        .ok (entry.start.setWidth 32)
      else ddrSearchChecked ptable left (i + 1) ptn

/-- `get_ddr_start` with checked entries. -/
def getDdrStartChecked (ptable ptn : Bytes) : Except Fault U32 :=
  ddrSearchChecked ptable (smemGetRamPtableLen ptable) 0 ptn

/-! ## Reading the table -/

def SMEM_RAM_PTABLE_MAGIC_1 : Nat := 0x9DA5E0A8
def SMEM_RAM_PTABLE_MAGIC_2 : Nat := 0xAF9EC4E2
def SMEM_RAM_PTABLE_VERSION_OFFSET : U32 := 8

/-- The bytes of a buffer to whose start words were copied. -/
def fill (words : List Copied) (buffer : Bytes) : Bytes := fun i =>
  match words[i / 4]? with
  | some word => byteAt (fun _ => word.2) i
  | none => buffer i

/-- The size of the table of a version; it stays 0 after the failed assertion on another one. -/
def smemRamPtableSize (version : Nat) : U32 :=
  if version = SMEM_RAM_PTABLE_VERSION_2 then
    BitVec.ofNat 32 (partsOffsetAligned + RAM_NUM_PART_ENTRIES * smemRamPtnV2.size)
  else if version = SMEM_RAM_PTABLE_VERSION_1 then
    BitVec.ofNat 32 (partsOffsetAligned + RAM_NUM_PART_ENTRIES * smemRamPtnV1.size)
  else if version = SMEM_RAM_PTABLE_VERSION_0 then
    BitVec.ofNat 32 (partsOffset + 32 * smemRamPtn.size + 4)
  else 0

/-- The return value and `ptable`.  The two variables that are read to begin with words. -/
def smemRamPtableInitV1 (shared : Shared) (buffer ptable : Bytes) :
    Except Fault (U32 × Bytes) :=
  match smemReadAllocEntryOffset shared SMEM_USABLE_RAM_PARTITION_TABLE 0 4
      SMEM_RAM_PTABLE_VERSION_OFFSET with
  | none => .error .endless
  | some (ret, words) =>
      if ret ≠ 0 then .ok (0, ptable)
      else
        match smemReadAllocEntry shared SMEM_USABLE_RAM_PARTITION_TABLE 0
            (smemRamPtableSize (load (fill words fun _ => 0) 0 4)) with
        | none => .error .endless
        | some (i, words) =>
            if i ≠ 0 then .ok (0, ptable)
            else
              let buffer := fill words buffer
              if smemRamPtableHdr.get buffer 0 .magic0 ≠ SMEM_RAM_PTABLE_MAGIC_1 ∨
                  smemRamPtableHdr.get buffer 0 .magic1 ≠ SMEM_RAM_PTABLE_MAGIC_2 then
                .ok (0, ptable)
              else (smemCopyRamPtableChecked buffer ptable).map (1, ·)

/-! ## Up to 32 entries -/

section Copy

variable {s : Struct PtnField} {parts count : Nat} {buf ptable : Bytes}

theorem copyPartsChecked_eq : copyPartsChecked s parts buf count ptable =
    if count ≤ RAM_NUM_PART_ENTRIES then .ok (copyParts s parts buf count ptable)
    else .error .outOfBounds := by
  induction count with
  | zero => rfl
  | succ count ih =>
      rw [copyPartsChecked, ih]
      by_cases few : count + 1 ≤ RAM_NUM_PART_ENTRIES
      · rw [if_pos (Nat.le_of_succ_le few), if_pos few]
        have inside : part RAM_NUM_PART_ENTRIES count = .ok () := if_pos few
        simp only [bind, Except.bind, inside]
        rfl
      · rw [if_neg few]
        split
        · have outside : part RAM_NUM_PART_ENTRIES count = .error .outOfBounds :=
            if_neg few
          simp only [bind, Except.bind, outside]
        · rfl

/-- The checked copy does what the copy does as long as the tables have the entries. -/
theorem smemCopyRamPtableChecked_of_few
    (few : smemRamPtableHdr.get buf 0 .len ≤ RAM_NUM_PART_ENTRIES) :
    smemCopyRamPtableChecked buf ptable = .ok (smemCopyRamPtable buf ptable) := by
  simp only [smemCopyRamPtableChecked, smemCopyRamPtable, copyPartsChecked_eq, if_pos few]
  split
  · rfl
  · split
    · rfl
    · split <;> rfl

/-- A table is copied with its length, or an access is out of bounds because of its length. -/
theorem smemCopyRamPtableChecked_cases :
    (∃ after, smemCopyRamPtableChecked buf ptable = .ok after ∧
      smemGetRamPtableLen after = smemRamPtableHdr.get buf 0 .len) ∨
    (smemCopyRamPtableChecked buf ptable = .error .outOfBounds ∧
      RAM_NUM_PART_ENTRIES < smemRamPtableHdr.get buf 0 .len) := by
  have looped (s : Struct PtnField) (parts : Nat) :
      (∃ after, copyPartsChecked s parts buf (smemRamPtableHdr.get buf 0 .len)
          (copyRange buf ptable 0 0 smemRamPtableHdr.size) = .ok after ∧
        smemGetRamPtableLen after = smemRamPtableHdr.get buf 0 .len) ∨
      (copyPartsChecked s parts buf (smemRamPtableHdr.get buf 0 .len)
          (copyRange buf ptable 0 0 smemRamPtableHdr.size) = .error .outOfBounds ∧
        RAM_NUM_PART_ENTRIES < smemRamPtableHdr.get buf 0 .len) := by
    rw [copyPartsChecked_eq]
    split
    · refine .inl ⟨_, rfl, ?_⟩
      rw [smemGetRamPtableLen_copyParts, smemGetRamPtableLen_copyRange (Nat.le_refl _)]
    · rename_i many
      exact .inr ⟨rfl, Nat.not_le.mp many⟩
  simp only [smemCopyRamPtableChecked]
  split
  · exact .inl ⟨_, rfl, smemGetRamPtableLen_copyRange (by decide)⟩
  · split
    · exact looped _ _
    · split
      · exact looped _ _
      · exact .inl ⟨_, rfl, smemGetRamPtableLen_copyRange (Nat.le_refl _)⟩

/-- An entry is in bounds exactly when the tables have it. -/
theorem smemGetRamPtableEntryChecked_eq (ptn : Bytes) (entry : Nat) :
    smemGetRamPtableEntryChecked ptable ptn entry =
      if entry < RAM_NUM_PART_ENTRIES then .ok (smemGetRamPtableEntry ptable ptn entry)
      else .error .outOfBounds := by
  rw [smemGetRamPtableEntryChecked, part]
  split <;> rfl

/-- So is the search up to there, which then finds what it did before. -/
theorem ddrSearchChecked_of_few {left i : Nat} (few : left + i ≤ RAM_NUM_PART_ENTRIES)
    (ptn : Bytes) :
    ddrSearchChecked ptable left i ptn = .ok (ddrSearch ptable left i ptn) := by
  induction left generalizing i ptn with
  | zero => rfl
  | succ left ih =>
      rw [ddrSearchChecked, smemGetRamPtableEntryChecked_eq, if_pos (by omega), ddrSearch]
      simp only [bind, Except.bind]
      split
      · rfl
      · exact ih (by omega) _

end Copy

/-! ## What is read -/

section Reading

variable {shared : Shared} {count k : Nat} {src : U32} {buffer : Bytes}

/-- The number in four bytes of a buffer is the word copied there. -/
theorem load_fill (inside : k < count) :
    load (fill (wordsFrom shared count src) buffer) (4 * k) 4 =
      (shared (src + BitVec.ofNat 32 (4 * k))).toNat := by
  have byte (j : Nat) (small : j < 4) :
      (fill (wordsFrom shared count src) buffer (4 * k + j)).toNat =
        (shared (src + BitVec.ofNat 32 (4 * k))).toNat / 2 ^ (8 * j) % 256 := by
    have place : (4 * k + j) / 4 = k := by omega
    have rest : (4 * k + j) % 4 = j := by omega
    simp only [fill, place, getElem?_wordsFrom inside, byteAt, rest]
    rw [BitVec.toNat_setWidth, BitVec.toNat_ushiftRight, Nat.shiftRight_eq_div_pow]
  have word := (shared (src + BitVec.ofNat 32 (4 * k))).isLt
  have first := byte 0 (by decide)
  have second := byte 1 (by decide)
  have third := byte 2 (by decide)
  have fourth := byte 3 (by decide)
  simp only [load, Nat.add_assoc]
  rw [Nat.add_zero] at first
  rw [first, second, third, fourth]
  omega

/-- A member of a structure that was read is the word at its place. -/
theorem get_fill {F : Type} [DecidableEq F] {s : Struct F} {f : F} (inside : k < count)
    (member : s.offset f = 4 * k ∧ s.width f = 4) :
    s.get (fill (wordsFrom shared count src) buffer) 0 f =
      (shared (src + BitVec.ofNat 32 (4 * k))).toNat := by
  rw [Struct.get, member.1, member.2, Nat.zero_add, load_fill inside]

/-- A word of the modem's table. -/
def tableWord (shared : Shared) (k : Nat) : U32 :=
  shared (itemStart shared SMEM_USABLE_RAM_PARTITION_TABLE + BitVec.ofNat 32 (4 * k))

/-- A word of the buffer after the second read: a word of the modem's table, or of what an earlier
call has left there if the version is unknown. -/
def readWord (shared : Shared) (buffer : Bytes) (k : Nat) : Nat :=
  if smemRamPtableSize (tableWord shared 2).toNat = 0 then load buffer (4 * k) 4
  else (tableWord shared k).toNat

/-- There is a table that is copied: the item is large enough for its version, and the magic is
right. -/
structure Copies (shared : Shared) (buffer : Bytes) : Prop where
  found : Found shared SMEM_USABLE_RAM_PARTITION_TABLE
  whole : ¬ itemSize shared SMEM_USABLE_RAM_PARTITION_TABLE <
    smemRamPtableSize (tableWord shared 2).toNat
  magic : readWord shared buffer 0 = SMEM_RAM_PTABLE_MAGIC_1 ∧
    readWord shared buffer 1 = SMEM_RAM_PTABLE_MAGIC_2

/-- The sizes are multiples of 8, and more than the header for a known version. -/
theorem smemRamPtableSize_spec (version : Nat) :
    Aligned 0 (smemRamPtableSize version) ∧
      rounded (smemRamPtableSize version) = smemRamPtableSize version ∧
      (smemRamPtableSize version ≠ 0 → 5 ≤ signedRounds (smemRamPtableSize version)) := by
  unfold smemRamPtableSize
  split
  · decide
  · split
    · decide
    · split <;> decide

/-- The first word that is read is the version. -/
theorem read_version (found : Found shared SMEM_USABLE_RAM_PARTITION_TABLE) :
    smemReadAllocEntryOffset shared SMEM_USABLE_RAM_PARTITION_TABLE 0 4
        SMEM_RAM_PTABLE_VERSION_OFFSET =
      some (0, wordsFrom shared 1
        (itemStart shared SMEM_USABLE_RAM_PARTITION_TABLE + SMEM_RAM_PTABLE_VERSION_OFFSET)) ∧
    load (fill (wordsFrom shared 1
        (itemStart shared SMEM_USABLE_RAM_PARTITION_TABLE + SMEM_RAM_PTABLE_VERSION_OFFSET))
        fun _ => 0) 0 4 = (tableWord shared 2).toNat := by
  constructor
  · rw [smemReadAllocEntryOffset_eq, if_pos ⟨by decide, found⟩]
    rfl
  · have version := @load_fill shared 1 0
      (itemStart shared SMEM_USABLE_RAM_PARTITION_TABLE + SMEM_RAM_PTABLE_VERSION_OFFSET)
      (fun _ => 0) (by decide)
    rw [Nat.mul_zero, BitVec.add_zero] at version
    exact version

/-- The whole table is read if the item is large enough. -/
theorem read_table (found : Found shared SMEM_USABLE_RAM_PARTITION_TABLE) (version : Nat) :
    smemReadAllocEntry shared SMEM_USABLE_RAM_PARTITION_TABLE 0 (smemRamPtableSize version) =
      some (if ¬ itemSize shared SMEM_USABLE_RAM_PARTITION_TABLE < smemRamPtableSize version then
        (0, wordsFrom shared (signedRounds (smemRamPtableSize version))
          (itemStart shared SMEM_USABLE_RAM_PARTITION_TABLE)) else (1, [])) := by
  obtain ⟨aligned, whole, -⟩ := smemRamPtableSize_spec version
  rw [smemReadAllocEntry_eq, whole]
  simp only [aligned, found, true_and]

/-- The buffer after the second read. -/
def tableRead (shared : Shared) (buffer : Bytes) : Bytes :=
  fill (wordsFrom shared (signedRounds (smemRamPtableSize (tableWord shared 2).toNat))
    (itemStart shared SMEM_USABLE_RAM_PARTITION_TABLE)) buffer

theorem get_tableRead {f : HdrField} (inside : k < 5)
    (member : smemRamPtableHdr.offset f = 4 * k ∧ smemRamPtableHdr.width f = 4) :
    smemRamPtableHdr.get (tableRead shared buffer) 0 f = readWord shared buffer k := by
  obtain ⟨-, -, header⟩ := smemRamPtableSize_spec (tableWord shared 2).toNat
  by_cases unknown : smemRamPtableSize (tableWord shared 2).toNat = 0
  · have same : tableRead shared buffer = buffer := by
      rw [tableRead, unknown]
      rfl
    rw [same, readWord, if_pos unknown, Struct.get, member.1, member.2, Nat.zero_add]
  · rw [readWord, if_neg unknown]
    exact get_fill (Nat.lt_of_lt_of_le inside (header unknown)) member

/-- An item is copied if it is large enough and the magic is right then. -/
theorem smemRamPtableInitV1_eq (found : Found shared SMEM_USABLE_RAM_PARTITION_TABLE)
    (ptable : Bytes) :
    smemRamPtableInitV1 shared buffer ptable =
      if ¬ itemSize shared SMEM_USABLE_RAM_PARTITION_TABLE <
          smemRamPtableSize (tableWord shared 2).toNat then
        if readWord shared buffer 0 ≠ SMEM_RAM_PTABLE_MAGIC_1 ∨
            readWord shared buffer 1 ≠ SMEM_RAM_PTABLE_MAGIC_2 then .ok (0, ptable)
        else (smemCopyRamPtableChecked (tableRead shared buffer) ptable).map (1, ·)
      else .ok (0, ptable) := by
  obtain ⟨version, value⟩ := read_version found
  have magic0 := @get_tableRead shared 0 buffer .magic0 (by decide) (by decide)
  have magic1 := @get_tableRead shared 1 buffer .magic1 (by decide) (by decide)
  have words : fill (wordsFrom shared
      (signedRounds (smemRamPtableSize (tableWord shared 2).toNat))
      (itemStart shared SMEM_USABLE_RAM_PARTITION_TABLE)) buffer =
    tableRead shared buffer := rfl
  simp only [smemRamPtableInitV1, version, value, read_table found, ne_eq,
    not_true_eq_false, if_false]
  split
  · simp only [words, magic0, magic1, not_true_eq_false, if_false]
  · rfl

/-- A table that is copied keeps its length, or is copied out of bounds. -/
theorem Copies.cases (copies : Copies shared buffer) (ptable : Bytes) :
    (∃ after, smemRamPtableInitV1 shared buffer ptable = .ok (1, after) ∧
      smemGetRamPtableLen after = readWord shared buffer 4) ∨
    smemRamPtableInitV1 shared buffer ptable = .error .outOfBounds ∧
      RAM_NUM_PART_ENTRIES < readWord shared buffer 4 := by
  have len := @get_tableRead shared 4 buffer .len (by decide) (by decide)
  rw [smemRamPtableInitV1_eq copies.found, if_pos copies.whole,
    if_neg (not_or.mpr ⟨not_not.mpr copies.magic.1, not_not.mpr copies.magic.2⟩), ← len]
  rcases @smemCopyRamPtableChecked_cases (tableRead shared buffer) ptable with
    ⟨after, copied, same⟩ | ⟨fault, many⟩
  · rw [copied]
    exact .inl ⟨after, rfl, same⟩
  · rw [fault]
    exact .inr ⟨rfl, many⟩

/-- Otherwise the driver's table stays as it is. -/
theorem smemRamPtableInitV1_of_not (leaves : ¬ Copies shared buffer) (ptable : Bytes) :
    smemRamPtableInitV1 shared buffer ptable = .ok (0, ptable) := by
  by_cases found : Found shared SMEM_USABLE_RAM_PARTITION_TABLE
  · rw [smemRamPtableInitV1_eq found]
    split
    · rename_i whole
      split
      · rfl
      · rename_i magic
        obtain ⟨magic0, magic1⟩ := not_or.mp magic
        exact absurd ⟨found, whole, not_not.mp magic0, not_not.mp magic1⟩ leaves
    · rfl
  · rw [smemRamPtableInitV1, smemReadAllocEntryOffset_eq, if_neg fun reads => found reads.2]
    rfl

end Reading

/-! ## The length of the table -/

/-- No access to an entry is out of bounds, in the copy or in anything that is asked of it
later. -/
structure TablesSafe (shared : Shared) (buffer ptable : Bytes) : Prop where
  copy : smemRamPtableInitV1 shared buffer ptable ≠ .error .outOfBounds
  entries (ret : U32) (after : Bytes)
    (copied : smemRamPtableInitV1 shared buffer ptable = .ok (ret, after)) (entry : Nat)
    (below : entry < smemGetRamPtableLen after) (ptn : Bytes) :
    smemGetRamPtableEntryChecked after ptn entry ≠ .error .outOfBounds
  search (ret : U32) (after : Bytes)
    (copied : smemRamPtableInitV1 shared buffer ptable = .ok (ret, after)) (ptn : Bytes) :
    getDdrStartChecked after ptn ≠ .error .outOfBounds

section Length

variable {shared : Shared}

/-- A table of at most 32 entries is safe. -/
theorem later_safe {after : Bytes} (few : smemGetRamPtableLen after ≤ RAM_NUM_PART_ENTRIES)
    (ptn : Bytes) :
    (∀ entry < smemGetRamPtableLen after,
      smemGetRamPtableEntryChecked after ptn entry ≠ .error .outOfBounds) ∧
    getDdrStartChecked after ptn ≠ .error .outOfBounds := by
  constructor
  · intro entry below
    rw [smemGetRamPtableEntryChecked_eq, if_pos (Nat.lt_of_lt_of_le below few)]
    exact ok_ne_error _ _
  · rw [getDdrStartChecked, @ddrSearchChecked_of_few after (smemGetRamPtableLen after) 0 few]
    exact ok_ne_error _ _

theorem tablesSafe_of_ok {buffer ptable after : Bytes} {ret : U32}
    (ready : smemRamPtableInitV1 shared buffer ptable = .ok (ret, after))
    (few : smemGetRamPtableLen after ≤ RAM_NUM_PART_ENTRIES) :
    TablesSafe shared buffer ptable := by
  have only {ret' : U32} {after' : Bytes}
      (copied : smemRamPtableInitV1 shared buffer ptable = .ok (ret', after')) :
      after' = after :=
    (Prod.mk.inj (Except.ok.inj (copied.symm.trans ready))).2
  refine ⟨?_, fun _ _ copied entry below ptn => ?_, fun _ _ copied ptn => ?_⟩
  · rw [ready]
    exact ok_ne_error _ _
  · rw [only copied] at below ⊢
    exact (later_safe few ptn).1 entry below
  · rw [only copied]
    exact (later_safe few ptn).2

theorem tablesSafe_of_few {buffer : Bytes}
    (few : Copies shared buffer → readWord shared buffer 4 ≤ RAM_NUM_PART_ENTRIES) :
    TablesSafe shared buffer fun _ => 0 := by
  by_cases copies : Copies shared buffer
  · rcases copies.cases fun _ => 0 with ⟨after, ready, same⟩ | ⟨-, many⟩
    · exact tablesSafe_of_ok ready (same ▸ few copies)
    · exact absurd (few copies) (Nat.not_le.mpr many)
  · exact tablesSafe_of_ok (smemRamPtableInitV1_of_not copies fun _ => 0) (by decide)

theorem not_tablesSafe_of_many {buffer : Bytes} (copies : Copies shared buffer)
    (many : RAM_NUM_PART_ENTRIES < readWord shared buffer 4) :
    ¬ TablesSafe shared buffer fun _ => 0 := by
  intro safe
  rcases copies.cases fun _ => 0 with ⟨after, ready, same⟩ | ⟨fault, -⟩
  · -- The entry after the last one can be asked for.
    apply safe.entries 1 after ready RAM_NUM_PART_ENTRIES (same ▸ many) fun _ => 0
    rw [smemGetRamPtableEntryChecked_eq, if_neg (Nat.lt_irrefl _)]
  · exact safe.copy fault

/-- Everything stays within the tables exactly when no table is copied, or one with at most
32 entries. -/
theorem tablesSafe_iff (shared : Shared) (buffer : Bytes) :
    (TablesSafe shared buffer fun _ => 0) ↔
      (Copies shared buffer → readWord shared buffer 4 ≤ RAM_NUM_PART_ENTRIES) := by
  constructor
  · intro safe copies
    by_contra many
    exact not_tablesSafe_of_many copies (Nat.not_le.mp many) safe
  · exact tablesSafe_of_few

end Length

/-- An item of 2328 bytes with a table of version 1 that claims 33 entries. -/
def tableOf33 : Shared := fun place =>
  if place = allocInfo SMEM_USABLE_RAM_PARTITION_TABLE then 1
  else if place = allocInfo SMEM_USABLE_RAM_PARTITION_TABLE + 4 then 0x1000
  else if place = allocInfo SMEM_USABLE_RAM_PARTITION_TABLE + 8 then 2328
  else if place = smemGetBaseAddr + 0x1000 then 0x9DA5E0A8
  else if place = smemGetBaseAddr + 0x1004 then 0xAF9EC4E2
  else if place = smemGetBaseAddr + 0x1008 then 1
  else if place = smemGetBaseAddr + 0x1010 then 33
  else 0

theorem entry_past_table :
    ¬ ∀ shared : Shared,
      Copies shared (fun _ => 0) → TablesSafe shared (fun _ => 0) fun _ => 0 := by
  intro claimed
  have copies : Copies tableOf33 fun _ => 0 := ⟨by decide, by decide, by decide, by decide⟩
  exact not_tablesSafe_of_many copies (by decide) (claimed tableOf33 copies)

end HtcLeo.Smem
