import HtcLeo.Smem.Alloc

/-!
# What the readers copy

One reader compares the length with the size of the item, the other one does not.  And
neither of them looks at the base that an item may have of its own.
-/

namespace HtcLeo.Smem

/-! ## Within the item -/

/-- A word at an address lies between the start of the item and its end. -/
def Inside (shared : Shared) (type place : U32) : Prop :=
  ∃ d, d + 4 ≤ (itemSize shared type).toNat ∧
    place = itemStart shared type + BitVec.ofNat 32 d

/-- A reader that succeeds has copied words of the item only. -/
def CopiesInside (shared : Shared) (type : U32) (result : Option (U32 × List Copied)) : Prop :=
  ∀ words, result = some (0, words) → ∀ word ∈ words, Inside shared type word.1

section Inside

variable (shared : Shared) (type buf len offset : U32)

theorem inside_iff (distance : U32) : Inside shared type (itemStart shared type + distance) ↔
    distance.toNat + 4 ≤ (itemSize shared type).toNat := by
  have size := (itemSize shared type).isLt
  constructor
  · rintro ⟨d, inside, same⟩
    have places := (BitVec.add_right_inj (itemStart shared type)).mp same
    rw [places, BitVec.toNat_ofNat]
    omega
  · intro inside
    exact ⟨distance.toNat, inside, by rw [BitVec.ofNat_toNat, BitVec.setWidth_eq]⟩

theorem wordsFrom_inside_iff (count : Nat) :
    (∀ word ∈ wordsFrom shared count (itemStart shared type + offset),
      Inside shared type word.1) ↔
        ∀ k < count, (offset.toNat + 4 * k) % 2 ^ 32 + 4 ≤ (itemSize shared type).toNat := by
  have place (k : Nat) : Inside shared type
      (itemStart shared type + offset + BitVec.ofNat 32 (4 * k)) ↔
        (offset.toNat + 4 * k) % 2 ^ 32 + 4 ≤ (itemSize shared type).toNat := by
    rw [BitVec.add_assoc, inside_iff, BitVec.toNat_add, BitVec.toNat_ofNat, Nat.add_mod_mod]
  constructor
  · intro inside k below
    exact (place k).mp (inside _ (mem_wordsFrom_iff.mpr ⟨k, below, rfl⟩))
  · intro bounded word copied
    obtain ⟨k, below, rfl⟩ := mem_wordsFrom_iff.mp copied
    exact (place k).mpr (bounded k below)

/-- The words from an offset on end where they reach the size, or wrap before that. -/
theorem words_bounded_iff {size : Nat} (small : size < 2 ^ 32) (words : len.toNat % 4 = 0) :
    (∀ k < len.toNat / 4, (offset.toNat + 4 * k) % 2 ^ 32 + 4 ≤ size) ↔
      len = 0 ∨ offset.toNat + len.toNat ≤ size := by
  have none : (0 : U32).toNat = 0 := rfl
  have below := offset.isLt
  constructor
  · intro bounded
    rw [← BitVec.toNat_inj, none]
    by_cases empty : len.toNat = 0
    · exact .inl empty
    · right
      by_cases wraps : offset.toNat + len.toNat ≤ 2 ^ 32
      · have last := bounded (len.toNat / 4 - 1) (by omega)
        omega
      · have before := bounded ((2 ^ 32 - 1 - offset.toNat) / 4) (by omega)
        omega
  · rintro (rfl | fits) k inside
    · exact absurd inside (Nat.not_lt_zero k)
    · omega

/-- The reader that compares the length with the size copies words of the item only. -/
theorem copiesInside_smemReadAllocEntry :
    CopiesInside shared type (smemReadAllocEntry shared type buf len) := by
  have size := (itemSize shared type).isLt
  intro words copied word member
  rw [smemReadAllocEntry_eq, Option.some.injEq] at copied
  split at copied
  · rename_i reads
    have enough := reads.2.2
    rw [BitVec.lt_def, rounded_toNat] at enough
    rw [← (Prod.mk.inj copied).2, ← BitVec.add_zero (itemStart shared type)] at member
    refine (wordsFrom_inside_iff shared type 0 (signedRounds len)).mpr ?_ word member
    intro k below
    have none : (0 : U32).toNat = 0 := rfl
    rw [signedRounds] at below
    split at below
    · rename_i asks
      have bounds := positive_iff.mp asks
      omega
    · exact absurd below (Nat.not_lt_zero k)
  · exact absurd (Prod.mk.inj copied).1 (by decide)

theorem copiesInside_smemReadAllocEntryOffset_iff :
    CopiesInside shared type (smemReadAllocEntryOffset shared type buf len offset) ↔
      (Aligned buf len → Found shared type →
        len = 0 ∨ offset.toNat + len.toNat ≤ (itemSize shared type).toNat) := by
  have size := (itemSize shared type).isLt
  rw [CopiesInside, smemReadAllocEntryOffset_eq]
  by_cases reads : Aligned buf len ∧ Found shared type
  · rw [if_pos reads, ← words_bounded_iff len offset size reads.1.1, ← wordsFrom_inside_iff]
    constructor
    · exact fun inside _ _ => inside _ rfl
    · rintro inside words copied
      rw [← (Prod.mk.inj (Option.some.inj copied)).2]
      exact inside reads.1 reads.2
  · rw [if_neg reads]
    refine iff_of_true (fun words copied => ?_) fun aligned found => absurd ⟨aligned, found⟩ reads
    exact absurd (Prod.mk.inj (Option.some.inj copied)).1 (by decide)

/-- The reader that checks the size copies words of the item only.  The other one does so
exactly when offset and length, as unsigned numbers, lie within the size. -/
theorem readers_inside_iff :
    CopiesInside shared type (smemReadAllocEntry shared type buf len) ∧
      (CopiesInside shared type (smemReadAllocEntryOffset shared type buf len offset) ↔
        (Aligned buf len → Found shared type →
          len = 0 ∨ offset.toNat + len.toNat ≤ (itemSize shared type).toNat)) :=
  ⟨copiesInside_smemReadAllocEntry shared type buf len,
    copiesInside_smemReadAllocEntryOffset_iff shared type buf len offset⟩

end Inside

/-- An item with the partition table's type, without a base of its own. -/
def item (offset size : U32) : Shared := fun place =>
  if place = allocInfo SMEM_AARM_PARTITION_TABLE then 1
  else if place = allocInfo SMEM_AARM_PARTITION_TABLE + 4 then offset
  else if place = allocInfo SMEM_AARM_PARTITION_TABLE + 8 then size
  else 0

/-- A header of 16 bytes is read from an item of 8. -/
theorem offset_reads_past_item :
    ¬ ∀ (shared : Shared) (type buf len offset : U32),
      CopiesInside shared type (smemReadAllocEntry shared type buf len) ∧
        CopiesInside shared type (smemReadAllocEntryOffset shared type buf len offset) := by
  intro claimed
  have reads := smemReadAllocEntryOffset_eq (item 0x1000 8) SMEM_AARM_PARTITION_TABLE 0 16 0
  rw [if_pos (by decide)] at reads
  have inside := (claimed (item 0x1000 8) SMEM_AARM_PARTITION_TABLE 0 16 0).2 _ reads
  have last := (wordsFrom_inside_iff (item 0x1000 8) SMEM_AARM_PARTITION_TABLE 0 4).mp inside 3
    (by decide)
  revert last
  decide

/-! ## The place of the item -/

/-- Where the words of an item are. -/
def itemPlace (shared : Shared) (type : U32) : U32 :=
  (if itemBaseExt shared type = 0 then smemGetBaseAddr else itemBaseExt shared type) +
    itemOffset shared type

/-- A request within the size of the item, if there is one. -/
structure Fits (shared : Shared) (type buf len offset : U32) : Prop where
  buf_words : buf.toNat % 4 = 0
  len_pairs : len.toNat % 8 = 0 ∧ len.toNat < 2 ^ 31
  offset_words : offset.toNat % 4 = 0 ∧ offset.toNat < 2 ^ 31
  within : Found shared type → offset.toNat + len.toNat ≤ (itemSize shared type).toNat

/-- The readers fail where `smem_get_alloc_entry` returns a null pointer, and copy the words
at the address that it returns otherwise. -/
def Agree (shared : Shared) (type buf len offset : U32) : Prop :=
  let place := (smemGetAllocEntry shared type).1
  if place = 0 then
    smemReadAllocEntry shared type buf len = some (1, []) ∧
      smemReadAllocEntryOffset shared type buf len offset = some (1, [])
  else
    smemReadAllocEntry shared type buf len =
        some (0, wordsFrom shared (len.toNat / 4) place) ∧
      smemReadAllocEntryOffset shared type buf len offset =
        some (0, wordsFrom shared (len.toNat / 4) (place + offset))

section Agree

variable {shared : Shared} {type buf len offset : U32}

/-- Words at different places are not the same. -/
theorem wordsFrom_inj {count : Nat} {one two : U32} :
    wordsFrom shared count one = wordsFrom shared count two ↔ count = 0 ∨ one = two := by
  cases count with
  | zero => exact iff_of_true rfl (.inl rfl)
  | succ count =>
      constructor
      · exact fun same => .inr (Prod.mk.inj (List.cons.inj same).1).1
      · rintro (none | rfl)
        · exact absurd none (Nat.succ_ne_zero count)
        · rfl

/-- The place is in shared memory unless the item has another base. -/
theorem itemPlace_eq_itemStart_iff : itemPlace shared type = itemStart shared type ↔
    itemBaseExt shared type = 0 ∨ itemBaseExt shared type = smemGetBaseAddr := by
  rw [itemPlace, itemStart, BitVec.add_left_inj]
  split
  · rename_i plain
    exact iff_of_true rfl (.inl plain)
  · rename_i ext
    exact (or_iff_right ext).symm

theorem Fits.reads (fits : Fits shared type buf len offset) (found : Found shared type) :
    smemReadAllocEntry shared type buf len =
        some (0, wordsFrom shared (len.toNat / 4) (itemStart shared type)) ∧
      smemReadAllocEntryOffset shared type buf len offset =
        some (0, wordsFrom shared (len.toNat / 4) (itemStart shared type + offset)) := by
  have within := fits.within found
  have pairs := fits.len_pairs
  have aligned : Aligned buf len := ⟨by omega, fits.buf_words⟩
  have enough : ¬ itemSize shared type < rounded len := by
    rw [BitVec.lt_def, rounded_toNat]
    omega
  have rounds : signedRounds len = len.toNat / 4 := by
    rw [signedRounds]
    split
    · rfl
    · rename_i none
      rw [positive_iff] at none
      omega
  rw [smemReadAllocEntry_eq, smemReadAllocEntryOffset_eq, if_pos ⟨aligned, found, enough⟩,
    if_pos ⟨aligned, found⟩, rounds]
  exact ⟨rfl, rfl⟩

/-- Without an item all three fail. -/
theorem agree_of_not_found (missing : ¬ Found shared type) :
    Agree shared type buf len offset := by
  have place : (smemGetAllocEntry shared type).1 = 0 := by
    rw [smemGetAllocEntry_eq, if_neg missing]
  rw [Agree, place, if_pos rfl, smemReadAllocEntry_eq, smemReadAllocEntryOffset_eq,
    if_neg fun reads => missing reads.2.1, if_neg fun reads => missing reads.2]
  exact ⟨rfl, rfl⟩

/-- An item is read in shared memory, wherever it is. -/
theorem Fits.agree_iff_of_found (fits : Fits shared type buf len offset)
    (found : Found shared type) :
    Agree shared type buf len offset ↔ itemPlace shared type ≠ 0 ∧
      (itemBaseExt shared type = 0 ∨ itemBaseExt shared type = smemGetBaseAddr ∨ len = 0) := by
  have place : (smemGetAllocEntry shared type).1 = itemPlace shared type := by
    rw [smemGetAllocEntry_eq, if_pos found, itemPlace]
  have pairs := fits.len_pairs
  have empty : len.toNat / 4 = 0 ↔ len = 0 := by
    have none : (0 : U32).toNat = 0 := rfl
    rw [← BitVec.toNat_inj, none]
    omega
  obtain ⟨plain, shifted⟩ := fits.reads found
  rw [Agree, place, plain, shifted]
  by_cases null : itemPlace shared type = 0
  · rw [if_pos null]
    constructor
    · exact fun agree => absurd (Prod.mk.inj (Option.some.inj agree.1)).1 (by decide)
    · exact fun usable => absurd null usable.1
  · rw [if_neg null, Option.some.injEq, Option.some.injEq, Prod.mk.injEq, Prod.mk.injEq,
      wordsFrom_inj, wordsFrom_inj, BitVec.add_left_inj, empty, and_self,
      eq_comm (a := itemStart shared type), itemPlace_eq_itemStart_iff, or_comm (a := len = 0),
      or_assoc]
    exact ⟨fun same => ⟨null, same.2⟩, fun usable => ⟨rfl, usable.2⟩⟩

/-- The three agree exactly when there is no item, or it has an address and no other base, or
nothing is to be read. -/
theorem agree_iff (fits : Fits shared type buf len offset) :
    Agree shared type buf len offset ↔
      (Found shared type → itemPlace shared type ≠ 0 ∧
        (itemBaseExt shared type = 0 ∨ itemBaseExt shared type = smemGetBaseAddr ∨ len = 0)) := by
  by_cases found : Found shared type
  · rw [fits.agree_iff_of_found found]
    exact ⟨fun usable _ => usable, fun usable => usable found⟩
  · exact iff_of_true (agree_of_not_found found) fun none => absurd none found

end Agree

/-- An item of 8 bytes that is used. -/
theorem agree_iff_item :
    Agree (item 0x1000 8) SMEM_AARM_PARTITION_TABLE 0 8 0 ↔
      (Found (item 0x1000 8) SMEM_AARM_PARTITION_TABLE →
        itemPlace (item 0x1000 8) SMEM_AARM_PARTITION_TABLE ≠ 0 ∧
          (itemBaseExt (item 0x1000 8) SMEM_AARM_PARTITION_TABLE = 0 ∨
            itemBaseExt (item 0x1000 8) SMEM_AARM_PARTITION_TABLE = smemGetBaseAddr ∨
            (8 : U32) = 0)) :=
  agree_iff ⟨by decide, by decide, by decide, fun _ => by decide⟩

/-- An item of 8 bytes with a base of its own, where there are other words. -/
def elsewhere : Shared := fun place =>
  if place = allocInfo SMEM_AARM_PARTITION_TABLE + 12 then 0x80000000
  else if place = 0x80001000 then 1
  else item 0x1000 8 place

/-- The readers copy the words at the place in shared memory. -/
theorem readers_ignore_base :
    ¬ ∀ (shared : Shared) (type buf len offset : U32), Fits shared type buf len offset →
      Agree shared type buf len offset := by
  intro claimed
  have fits : Fits elsewhere SMEM_AARM_PARTITION_TABLE 0 8 0 :=
    ⟨by decide, by decide, by decide, fun _ => by decide⟩
  have agree := (claimed elsewhere SMEM_AARM_PARTITION_TABLE 0 8 0 fits)
  rw [Agree, if_neg (by decide)] at agree
  have values := congrArg (Option.map fun result => result.2.map Prod.snd) agree.1
  revert values
  decide

end HtcLeo.Smem
