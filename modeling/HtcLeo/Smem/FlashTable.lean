import HtcLeo.Smem.ModemPartitions

/-!
# The flash partition table of the modem

The driver reads the table from shared memory twice: the header, which it checks, and then
everything, with the header again.  The length that it goes by from then on is the one of
the second read, or of the first one if the second fails.  An assertion that fails does not end
the function: nothing keeps a length above 32 from being used, in neither read.
-/

namespace HtcLeo.Smem

open Packed Memory Text

/-! ## Reading the table -/

def SMEM_PTABLE_HDR_LEN : U32 := 16
def SMEM_PTABLE_MAX_PARTS_V3 : Nat := 16
def SMEM_PTABLE_MAX_PARTS_V4 : Nat := 32

/-- The length of a table of a version; it stays 0 after the failed assertion on another one. -/
def smemPtableLen (version : Nat) : U32 :=
  if version ≤ 3 then
    SMEM_PTABLE_HDR_LEN + BitVec.ofNat 32 (SMEM_PTABLE_MAX_PARTS_V3 * smemPtn.size)
  else if version = 4 then
    SMEM_PTABLE_HDR_LEN + BitVec.ofNat 32 (SMEM_PTABLE_MAX_PARTS_V4 * smemPtn.size)
  else 0

/-- What `smem_ptable_init` leaves: whether it found a header with the right magic, the table and
`smem_apps_flash_start`. -/
structure Initialized where
  ready : Bool
  smemPtable : Bytes
  smemAppsFlashStart : U32

/-- The loop of `dump_smem_ptable`, without what it prints. -/
def dumpSmemPtable : Nat → Nat → Except Fault Unit
  | 0, _ => .ok ()
  | left + 1, i => do
      part SMEM_PTABLE_MAX_PARTS i
      dumpSmemPtable left (i + 1)

/-- `"0:APPS"`, with its end. -/
def apps : List U8 := [0x30, 0x3A, 0x41, 0x50, 0x50, 0x53, 0]

/-- The search for the apps partition. -/
def appsSearch (table : Bytes) : Nat → Nat → Except Fault (Option Nat)
  | 0, _ => .ok none
  | left + 1, i => do
      part SMEM_PTABLE_MAX_PARTS i
      if cells table (namePlace i) apps.length = apps then return some i
      else appsSearch table left (i + 1)

/-- `smem_ptable_init` after the second read. -/
def searchTable (table : Bytes) (start : U32) : Except Fault Initialized := do
  dumpSmemPtable (tableLen table) 0
  match ← appsSearch table (tableLen table) 0 with
  | none => return ⟨true, table, start⟩
  | some i =>
      part SMEM_PTABLE_MAX_PARTS i
      return ⟨true, table, BitVec.ofNat 32 (smemPtn.get table (partPlace i) .start)⟩

/-- The reads find shared memory as `first` and as `second`; the table is at the address
`buf`.  The assertions on the length, on the version and on the second read decide nothing. -/
def smemPtableInit (first second : Shared) (buf : U32) (table : Bytes) (start : U32) :
    Except Fault Initialized :=
  match smemReadAllocEntryOffset first SMEM_AARM_PARTITION_TABLE buf SMEM_PTABLE_HDR_LEN 0 with
  | none => .error .endless
  | some (ret, words) =>
      let table := fill words table
      if ret ≠ 0 then .ok ⟨false, table, start⟩
      else if ¬ RightMagic table then .ok ⟨false, table, start⟩
      else
        match smemReadAllocEntry second SMEM_AARM_PARTITION_TABLE buf
            (smemPtableLen (smemPtableHdr.get table 0 .version)) with
        | none => .error .endless
        | some (_, words) => searchTable (fill words table) start

/-- Calls of `smem_add_modem_partitions`, each with a table of its own. -/
def addCalls (strlcpy : List U8 → Nat → List U8 → List U8) :
    List (List Ptentry) → Statics → Except Fault Statics
  | [], statics => .ok statics
  | flashPtable :: calls, statics => do
      let (statics, _) ← smemAddModemPartitions strlcpy statics flashPtable
      addCalls strlcpy calls statics

/-! ## Tables with few entries -/

section Few

variable {strlcpy : List U8 → Nat → List U8 → List U8} {table : Bytes} {left i : Nat}

theorem dumpSmemPtable_of_few (few : left + i ≤ SMEM_PTABLE_MAX_PARTS) :
    dumpSmemPtable left i = .ok () := by
  induction left generalizing i with
  | zero => rfl
  | succ left ih =>
      have used : part SMEM_PTABLE_MAX_PARTS i = .ok () := if_pos (by omega)
      rw [dumpSmemPtable, used]
      exact ih (by omega)

theorem dumpSmemPtable_of_many (many : SMEM_PTABLE_MAX_PARTS < left + i) (nonempty : 0 < left) :
    dumpSmemPtable left i = .error .outOfBounds := by
  induction left generalizing i with
  | zero => exact absurd nonempty (Nat.lt_irrefl 0)
  | succ left ih =>
      rw [dumpSmemPtable, part]
      split
      · exact ih (by omega) (by omega)
      · rfl

theorem appsSearch_of_few (few : left + i ≤ SMEM_PTABLE_MAX_PARTS) :
    ∃ found, appsSearch table left i = .ok found ∧ ∀ k ∈ found, k < SMEM_PTABLE_MAX_PARTS := by
  induction left generalizing i with
  | zero => exact ⟨none, rfl, fun _ member => absurd member (Option.not_mem_none _)⟩
  | succ left ih =>
      have inside : i < SMEM_PTABLE_MAX_PARTS := by omega
      have used : part SMEM_PTABLE_MAX_PARTS i = .ok () := if_pos inside
      simp only [appsSearch, used, bind, Except.bind]
      split
      · refine ⟨some i, rfl, fun k member => ?_⟩
        cases member
        exact inside
      · exact ih (by omega)

/-- The table is searched if it has at most 32 entries, and otherwise an access is out of
bounds. -/
theorem searchTable_of_few (few : tableLen table ≤ SMEM_PTABLE_MAX_PARTS) (start : U32) :
    ∃ result, searchTable table start = .ok result ∧ result.smemPtable = table := by
  obtain ⟨found, searched, inside⟩ := @appsSearch_of_few table (tableLen table) 0 few
  have dumped := @dumpSmemPtable_of_few (tableLen table) 0 few
  simp only [searchTable, dumped, searched, bind, Except.bind]
  cases found with
  | none => exact ⟨_, rfl, rfl⟩
  | some i =>
      have used : part SMEM_PTABLE_MAX_PARTS i = .ok () := if_pos (inside i rfl)
      simp only [used]
      exact ⟨_, rfl, rfl⟩

theorem searchTable_of_many (many : SMEM_PTABLE_MAX_PARTS < tableLen table) (start : U32) :
    searchTable table start = .error .outOfBounds := by
  have dumped := @dumpSmemPtable_of_many (tableLen table) 0 many (Nat.zero_lt_of_lt many)
  rw [searchTable, dumped]
  rfl

/-- No number of calls leads out of bounds of a table with at most 32 entries. -/
theorem addCalls_ne_outOfBounds {calls : List (List Ptentry)} {statics : Statics}
    (few : tableLen statics.smemPtable ≤ SMEM_PTABLE_MAX_PARTS) :
    addCalls strlcpy calls statics ≠ .error .outOfBounds := by
  induction calls generalizing statics with
  | nil => exact ok_ne_error _ _
  | cons flashPtable calls ih =>
      intro failed
      rcases bind_eq_error_iff.mp failed with call | ⟨⟨middle, list⟩, call, rest⟩
      · rcases smemAddModemPartitions_faults call with ended | full | ⟨-, many⟩
        · cases ended
        · cases full
        · omega
      · have smaller : tableLen middle.smemPtable ≤ tableLen statics.smemPtable :=
          (smemAddModemPartitions_erased call).load_le _ _
        exact ih (Nat.le_trans smaller few) rest

end Few

/-! ## The two reads -/

section Reads

variable {first second : Shared} {buf : U32} {table : Bytes} {start : U32}

/-- A word of the table in shared memory. -/
def flashWord (shared : Shared) (k : Nat) : U32 :=
  shared (itemStart shared SMEM_AARM_PARTITION_TABLE + BitVec.ofNat 32 (4 * k))

/-- The first read gives a header with the right magic. -/
structure Passes (first : Shared) (buf : U32) : Prop where
  aligned : buf.toNat % 4 = 0
  found : Found first SMEM_AARM_PARTITION_TABLE
  magic : (flashWord first 0).toNat = SMEM_PTABLE_MAGIC_1 ∧
    (flashWord first 1).toNat = SMEM_PTABLE_MAGIC_2

/-- The second read gives a table of a version: the version is known, and the item is large enough
for it. -/
def Rereads (second : Shared) (version : Nat) : Prop :=
  smemPtableLen version ≠ 0 ∧ Found second SMEM_AARM_PARTITION_TABLE ∧
    ¬ itemSize second SMEM_AARM_PARTITION_TABLE < smemPtableLen version

instance (second : Shared) (version : Nat) : Decidable (Rereads second version) :=
  inferInstanceAs (Decidable (_ ∧ _ ∧ _))

/-- The length in the table after both reads. -/
def lengthRead (first second : Shared) : Nat :=
  if Rereads second (flashWord first 2).toNat then (flashWord second 3).toNat
  else (flashWord first 3).toNat

/-- The lengths are multiples of 8, and at least that of the header for a known version. -/
theorem smemPtableLen_spec (version : Nat) :
    (smemPtableLen version).toNat % 4 = 0 ∧
      rounded (smemPtableLen version) = smemPtableLen version ∧
      (smemPtableLen version ≠ 0 → 4 ≤ signedRounds (smemPtableLen version)) := by
  unfold smemPtableLen
  split
  · decide
  · split <;> decide

/-- The table after a read that copied `count` words. -/
def tableOf (shared : Shared) (count : Nat) (table : Bytes) : Bytes :=
  fill (wordsFrom shared count (itemStart shared SMEM_AARM_PARTITION_TABLE)) table

theorem get_tableOf {shared : Shared} {count k : Nat} {f : TableField} (inside : k < count)
    (member : smemPtableHdr.offset f = 4 * k ∧ smemPtableHdr.width f = 4) :
    smemPtableHdr.get (tableOf shared count table) 0 f = (flashWord shared k).toNat :=
  get_fill inside member

theorem tableLen_tableOf {shared : Shared} {count : Nat} (inside : 3 < count) :
    tableLen (tableOf shared count table) = (flashWord shared 3).toNat :=
  get_tableOf inside (by decide)

theorem rightMagic_tableOf {shared : Shared} {count : Nat} (inside : 1 < count) :
    RightMagic (tableOf shared count table) ↔
      (flashWord shared 0).toNat = SMEM_PTABLE_MAGIC_1 ∧
        (flashWord shared 1).toNat = SMEM_PTABLE_MAGIC_2 := by
  have magic0 := @get_tableOf table shared count 0 .magic0 (Nat.zero_lt_of_lt inside) (by decide)
  have magic1 := @get_tableOf table shared count 1 .magic1 inside (by decide)
  rw [RightMagic, magic0, magic1, not_or, not_not, not_not]

/-- The first read gives a header, or the table is as before. -/
theorem read_header : smemReadAllocEntryOffset first SMEM_AARM_PARTITION_TABLE buf
    SMEM_PTABLE_HDR_LEN 0 =
      some (if buf.toNat % 4 = 0 ∧ Found first SMEM_AARM_PARTITION_TABLE then
        (0, wordsFrom first 4 (itemStart first SMEM_AARM_PARTITION_TABLE)) else (1, [])) := by
  have words : SMEM_PTABLE_HDR_LEN.toNat = 4 * 4 := rfl
  rw [smemReadAllocEntryOffset_eq, BitVec.ofNat_eq_ofNat, BitVec.add_zero]
  simp only [Aligned, words, Nat.mul_mod_right, Nat.mul_div_right _ (Nat.succ_pos 3), true_and]

/-- The second read gives the whole table, if the item is large enough. -/
theorem read_flash (version : Nat) :
    smemReadAllocEntry second SMEM_AARM_PARTITION_TABLE buf (smemPtableLen version) =
      some (if buf.toNat % 4 = 0 ∧ Found second SMEM_AARM_PARTITION_TABLE ∧
          ¬ itemSize second SMEM_AARM_PARTITION_TABLE < smemPtableLen version then
        (0, wordsFrom second (signedRounds (smemPtableLen version))
          (itemStart second SMEM_AARM_PARTITION_TABLE))
      else (1, [])) := by
  obtain ⟨aligned, whole, -⟩ := smemPtableLen_spec version
  rw [smemReadAllocEntry_eq, whole]
  simp only [Aligned, aligned, true_and]

/-- The length after the second read, of which nothing may have come. -/
theorem tableLen_reread (aligned : buf.toNat % 4 = 0) (table : Bytes) :
    ∃ ret words, smemReadAllocEntry second SMEM_AARM_PARTITION_TABLE buf
        (smemPtableLen (flashWord first 2).toNat) = some (ret, words) ∧
      tableLen (fill words (tableOf first 4 table)) = lengthRead first second := by
  have unread := @tableLen_tableOf table first 4 (by decide)
  rw [read_flash]
  by_cases again : Found second SMEM_AARM_PARTITION_TABLE ∧
      ¬ itemSize second SMEM_AARM_PARTITION_TABLE < smemPtableLen (flashWord first 2).toNat
  · refine ⟨_, _, congrArg some (if_pos ⟨aligned, again⟩), ?_⟩
    obtain ⟨-, -, header⟩ := smemPtableLen_spec (flashWord first 2).toNat
    by_cases unknown : smemPtableLen (flashWord first 2).toNat = 0
    · rw [lengthRead, if_neg fun rereads => rereads.1 unknown, ← unread, unknown]
      rfl
    · rw [lengthRead, if_pos ⟨unknown, again⟩]
      exact tableLen_tableOf (header unknown)
  · refine ⟨_, _, congrArg some (if_neg fun both => again both.2), ?_⟩
    rw [lengthRead, if_neg fun rereads => again rereads.2, ← unread]
    rfl

/-- Everything that the two reads can lead to. -/
theorem smemPtableInit_cases (first second : Shared) (buf : U32) (table : Bytes) (start : U32) :
    (Passes first buf ∧ ∃ read, tableLen read = lengthRead first second ∧
      smemPtableInit first second buf table start = searchTable read start) ∨
    ¬ Passes first buf ∧
      ∃ result, smemPtableInit first second buf table start = .ok result ∧
        result.ready = false := by
  simp only [smemPtableInit, read_header]
  by_cases found : buf.toNat % 4 = 0 ∧ Found first SMEM_AARM_PARTITION_TABLE
  · have right := @rightMagic_tableOf table first 4 (by decide)
    have version := @get_tableOf table first 4 2 .version (by decide) (by decide)
    have words : fill (wordsFrom first 4 (itemStart first SMEM_AARM_PARTITION_TABLE)) table =
      tableOf first 4 table := rfl
    simp only [if_pos found, words, right, version, ne_eq, not_true_eq_false, if_false]
    split
    · rename_i wrong
      exact .inr ⟨fun passes => wrong passes.magic, _, rfl, rfl⟩
    · rename_i magic
      obtain ⟨ret, words, read, len⟩ := @tableLen_reread first second buf found.1 table
      rw [read]
      exact .inl ⟨⟨found.1, found.2, not_not.mp magic⟩, _, len, rfl⟩
  · simp only [if_neg found]
    exact .inr ⟨fun passes => found ⟨passes.aligned, passes.found⟩, _, rfl, rfl⟩

end Reads

/-! ## The length of the second read -/

/-- No index that is used has no entry, neither at the start nor, if there was a header, in any
later calls. -/
structure IndicesInside (strlcpy : List U8 → Nat → List U8 → List U8) (first second : Shared)
    (buf : U32) (table : Bytes) (start : U32) : Prop where
  init : smemPtableInit first second buf table start ≠ .error .outOfBounds
  adding (result : Initialized)
    (initialized : smemPtableInit first second buf table start = .ok result)
    (ready : result.ready = true) (calls : List (List Ptentry)) (last : Option Nat) :
    addCalls strlcpy calls ⟨result.smemPtable, last⟩ ≠ .error .outOfBounds

section Length

variable {strlcpy : List U8 → Nat → List U8 → List U8} {first second : Shared} {buf : U32}
  {table : Bytes} {start : U32}

theorem indicesInside_of_few
    (few : Passes first buf → lengthRead first second ≤ SMEM_PTABLE_MAX_PARTS) :
    IndicesInside strlcpy first second buf table start := by
  rcases smemPtableInit_cases first second buf table start with
    ⟨passes, read, len, searched⟩ | ⟨-, result, returned, idle⟩
  · have bound : tableLen read ≤ SMEM_PTABLE_MAX_PARTS := len ▸ few passes
    obtain ⟨result, returned, same⟩ := searchTable_of_few bound start
    have initialized := searched.trans returned
    constructor
    · rw [initialized]
      exact ok_ne_error _ _
    · intro other again _ calls last
      cases Except.ok.inj (again.symm.trans initialized)
      exact addCalls_ne_outOfBounds (by rwa [same])
  · constructor
    · rw [returned]
      exact ok_ne_error _ _
    · intro other again ready
      cases Except.ok.inj (again.symm.trans returned)
      rw [idle] at ready
      contradiction

theorem not_indicesInside_of_many (passes : Passes first buf)
    (many : SMEM_PTABLE_MAX_PARTS < lengthRead first second) :
    ¬ IndicesInside strlcpy first second buf table start := by
  intro inside
  rcases smemPtableInit_cases first second buf table start with
    ⟨-, read, len, searched⟩ | ⟨fails, -⟩
  · exact inside.init (searched.trans (searchTable_of_many (len ▸ many) start))
  · exact fails passes

/-- The indices stay inside exactly when the table after both reads, if it comes to that, has at
most 32 entries. -/
theorem indicesInside_iff (strlcpy : List U8 → Nat → List U8 → List U8) (first second : Shared)
    (buf : U32) (table : Bytes) (start : U32) :
    IndicesInside strlcpy first second buf table start ↔
      (Passes first buf → lengthRead first second ≤ SMEM_PTABLE_MAX_PARTS) := by
  constructor
  · intro inside passes
    by_contra many
    exact not_indicesInside_of_many passes (Nat.not_le.mp many) inside
  · exact indicesInside_of_few

end Length

/-- An item of 912 bytes with a table of version 4, of this length. -/
def flashTable (len : U32) : Shared := fun place =>
  if place = allocInfo SMEM_AARM_PARTITION_TABLE then 1
  else if place = allocInfo SMEM_AARM_PARTITION_TABLE + 4 then 0x1000
  else if place = allocInfo SMEM_AARM_PARTITION_TABLE + 8 then 912
  else if place = smemGetBaseAddr + 0x1000 then 0x55ee73aa
  else if place = smemGetBaseAddr + 0x1004 then 0xe35ebddb
  else if place = smemGetBaseAddr + 0x1008 then 4
  else if place = smemGetBaseAddr + 0x100C then len
  else 0

theorem length_not_checked_again :
    ¬ IndicesInside asciiStrCpyS (flashTable 32) (flashTable 33) 0 (fun _ => 0) 0xFFFFFFFF ∧
      ¬ IndicesInside asciiStrCpyS (flashTable 33) (flashTable 33) 0 (fun _ => 0) 0xFFFFFFFF := by
  constructor
  · have passes : Passes (flashTable 32) 0 := ⟨rfl, by decide, by decide⟩
    exact not_indicesInside_of_many passes (by decide)
  · have passes : Passes (flashTable 33) 0 := ⟨rfl, by decide, by decide⟩
    exact not_indicesInside_of_many passes (by decide)

end HtcLeo.Smem
