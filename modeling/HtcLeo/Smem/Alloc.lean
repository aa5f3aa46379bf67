import HtcLeo.Word.Packed

/-!
# The allocation table of shared memory

Shared memory begins with a table of items, with an offset and a size for each type of
item.  The modem writes it.  Two readers copy words of an item to a buffer, and a third
function says where an item is.
-/

namespace HtcLeo.Smem

/-- What is read at an address. -/
abbrev Shared := U32 → U32

/-- A word that was copied: the address that it was read at, and its value. -/
abbrev Copied := U32 × U32

/-! ## The table -/

/-- The base of the shared memory. -/
def PcdMsmSharedBase : U64 := 0x00100000

/-- `smem_get_base_addr`. -/
def smemGetBaseAddr : U32 := PcdMsmSharedBase.setWidth 32

def SMEM_FIRST_VALID_TYPE : U32 := 7
def SMEM_LAST_VALID_TYPE : U32 := 418
def SMEM_AARM_PARTITION_TABLE : U32 := 9
def SMEM_USABLE_RAM_PARTITION_TABLE : U32 := 402

/-- The offset of `alloc_info` in `struct smem`: four `smem_proc_comm`, the versions and the
`smem_heap_info` are before it. -/
def allocInfoOffset : U32 := 4 * 16 + 32 * 4 + 16

/-- `&smem->alloc_info[type]`. -/
def allocInfo (type : U32) : U32 := smemGetBaseAddr + allocInfoOffset + type * 16

section Members

variable (shared : Shared) (type : U32)

/-- The word `allocated` of an item. -/
def allocated : U32 := shared (allocInfo type)

/-- The word `offset` of an item. -/
def itemOffset : U32 := shared (allocInfo type + 4)

/-- The word `size` of an item. -/
def itemSize : U32 := shared (allocInfo type + 8)

/-- The word `base_ext` of an item. -/
def itemBaseExt : U32 := shared (allocInfo type + 12)

end Members

/-- The check on the type that both readers make. -/
def ValidType (type : U32) : Prop :=
  ¬ (type < SMEM_FIRST_VALID_TYPE ∨ SMEM_LAST_VALID_TYPE < type)

instance (type : U32) : Decidable (ValidType type) :=
  inferInstanceAs (Decidable (¬ _))

/-! ## The accessors -/

/-- The loops of the readers: copy words as long as the length that is left asks for `more`.
There is no result after more than `rounds` rounds. -/
def copyLoop (shared : Shared) (more : U32 → Bool) : Nat → U32 → U32 → Option (List Copied)
  | 0, _, _ => none
  | rounds + 1, src, left =>
      if more left then
        (copyLoop shared more rounds (src + 4) (left - 4)).map ((src, shared src) :: ·)
      else some []

/-- The condition `len > 0` of a signed length. -/
def positive (len : U32) : Bool := 0 < len.toInt

/-- The condition `size > 0` of an unsigned length. -/
def nonzero (size : U32) : Bool := 0 < size

/-- The return value and the words copied to `buf`. -/
def smemReadAllocEntry (shared : Shared) (type buf len : U32) : Option (U32 × List Copied) :=
  let smemAddr := smemGetBaseAddr
  if len &&& 3 ≠ 0 ∨ buf &&& 3 ≠ 0 then some (1, [])
  else if ¬ ValidType type then some (1, [])
  else if allocated shared type = 0 then some (1, [])
  else if itemSize shared type < (len + 7) &&& ~~~7 then some (1, [])
  else
    let src := smemAddr + itemOffset shared type
    (copyLoop shared positive (len.toNat + 1) src len).map (0, ·)

/-- The pointer that is returned, and the size that is stored. -/
def smemGetAllocEntry (shared : Shared) (type : U32) : U32 × Option U32 :=
  let smemAddr := smemGetBaseAddr
  if ¬ ValidType type then (0, none)
  else if allocated shared type = 0 then (0, none)
  else
    let size := itemSize shared type
    let baseExt := itemBaseExt shared type
    let offset := itemOffset shared type
    if baseExt ≠ 0 then (baseExt + offset, some size) else (smemAddr + offset, some size)

/-- `smem_read_alloc_entry_offset`. -/
def smemReadAllocEntryOffset (shared : Shared) (type buf len offset : U32) :
    Option (U32 × List Copied) :=
  let size := len
  let smemAddr := smemGetBaseAddr
  if len &&& 3 ≠ 0 ∨ buf &&& 3 ≠ 0 then some (1, [])
  else if ¬ ValidType type then some (1, [])
  else if allocated shared type = 0 then some (1, [])
  else
    let src := smemAddr + itemOffset shared type + offset
    (copyLoop shared nonzero (len.toNat + 1) src size).map (0, ·)

/-! ## The words of a range -/

/-- The words at `count` places from an address on. -/
def wordsFrom (shared : Shared) : Nat → U32 → List Copied
  | 0, _ => []
  | count + 1, src => (src, shared src) :: wordsFrom shared count (src + 4)

section Words

variable {shared : Shared} {count : Nat} {src : U32}

@[simp]
theorem length_wordsFrom : (wordsFrom shared count src).length = count := by
  induction count generalizing src with
  | zero => rfl
  | succ count ih => rw [wordsFrom, List.length_cons, ih]

theorem getElem?_wordsFrom {k : Nat} (inside : k < count) :
    (wordsFrom shared count src)[k]? =
      some (src + BitVec.ofNat 32 (4 * k), shared (src + BitVec.ofNat 32 (4 * k))) := by
  induction count generalizing src k with
  | zero => exact absurd inside (Nat.not_lt_zero k)
  | succ count ih =>
      cases k with
      | zero => rw [wordsFrom, List.getElem?_cons_zero, Nat.mul_zero, BitVec.add_zero]
      | succ k =>
          have next : src + 4 + BitVec.ofNat 32 (4 * k) =
              src + BitVec.ofNat 32 (4 * (k + 1)) := by
            rw [BitVec.add_assoc, Nat.mul_succ, Nat.add_comm, BitVec.ofNat_add]
            rfl
          rw [wordsFrom, List.getElem?_cons_succ, ih (Nat.lt_of_succ_lt_succ inside), next]

theorem mem_wordsFrom_iff {word : Copied} : word ∈ wordsFrom shared count src ↔
    ∃ k < count, word =
      (src + BitVec.ofNat 32 (4 * k), shared (src + BitVec.ofNat 32 (4 * k))) := by
  rw [List.mem_iff_getElem?]
  constructor
  · rintro ⟨k, found⟩
    have inside : k < count := by
      obtain ⟨below, -⟩ := List.getElem?_eq_some_iff.mp found
      rwa [length_wordsFrom] at below
    rw [getElem?_wordsFrom inside] at found
    exact ⟨k, inside, (Option.some.inj found).symm⟩
  · rintro ⟨k, inside, rfl⟩
    exact ⟨k, getElem?_wordsFrom inside⟩

end Words

/-! ## The loops -/

section Loops

variable (shared : Shared) {more : U32 → Bool} {src : U32}

/-- A loop that stops when nothing is left copies all words. -/
theorem copyLoop_eq {count rounds : Nat} (enough : count < rounds)
    (asks : ∀ n, 0 < n → n ≤ count → more (BitVec.ofNat 32 (4 * n)) = true)
    (stops : more 0 = false) :
    copyLoop shared more rounds src (BitVec.ofNat 32 (4 * count)) =
      some (wordsFrom shared count src) := by
  induction count generalizing rounds src with
  | zero =>
      obtain ⟨rounds, rfl⟩ := Nat.exists_eq_succ_of_ne_zero (Nat.ne_zero_of_lt enough)
      have none : more (BitVec.ofNat 32 (4 * 0)) = false := stops
      rw [copyLoop, none]
      rfl
  | succ count ih =>
      obtain ⟨rounds, rfl⟩ := Nat.exists_eq_succ_of_ne_zero (Nat.ne_zero_of_lt enough)
      have left : BitVec.ofNat 32 (4 * (count + 1)) - 4 = BitVec.ofNat 32 (4 * count) := by
        rw [Nat.mul_succ, BitVec.ofNat_add]
        exact BitVec.add_sub_cancel _ _
      rw [copyLoop, asks _ (Nat.succ_pos count) (Nat.le_refl _), if_pos rfl, left,
        ih (Nat.lt_of_succ_lt_succ enough) fun n above le => asks n above (Nat.le_succ_of_le le)]
      rfl

theorem ofNat_four_mul {len : U32} (aligned : len.toNat % 4 = 0) :
    BitVec.ofNat 32 (4 * (len.toNat / 4)) = len := by
  rw [show 4 * (len.toNat / 4) = len.toNat by omega, BitVec.ofNat_toNat, BitVec.setWidth_eq]

theorem copyLoop_nonzero {len : U32} (aligned : len.toNat % 4 = 0) :
    copyLoop shared nonzero (len.toNat + 1) src len =
      some (wordsFrom shared (len.toNat / 4) src) := by
  have all := @copyLoop_eq shared nonzero src (len.toNat / 4) (len.toNat + 1) (by omega)
    (fun n above le => by
      have below := len.isLt
      have none : (0 : U32).toNat = 0 := rfl
      rw [nonzero, decide_eq_true_eq, BitVec.lt_def, BitVec.toNat_ofNat, none]
      omega) rfl
  rwa [ofNat_four_mul aligned] at all

theorem positive_iff {len : U32} :
    positive len = true ↔ 0 < len.toNat ∧ len.toNat < 2 ^ 31 := by
  have below := len.isLt
  rw [positive, decide_eq_true_eq, BitVec.toInt_eq_toNat_cond]
  split <;> omega

/-- The rounds of the loop with a signed length. -/
def signedRounds (len : U32) : Nat :=
  if positive len then len.toNat / 4 else 0

theorem copyLoop_positive {len : U32} (aligned : len.toNat % 4 = 0) :
    copyLoop shared positive (len.toNat + 1) src len =
      some (wordsFrom shared (signedRounds len) src) := by
  cases more : positive len with
  | false =>
      rw [copyLoop, signedRounds, more]
      rfl
  | true =>
      have bounds := positive_iff.mp more
      have all := @copyLoop_eq shared positive src (len.toNat / 4) (len.toNat + 1) (by omega)
        (fun n above le => by
          rw [positive_iff, BitVec.toNat_ofNat]
          omega) rfl
      rw [signedRounds, more, if_pos rfl]
      rwa [ofNat_four_mul aligned] at all

end Loops

/-! ## What the readers return -/

/-- A length of words, and a buffer that begins with a word. -/
def Aligned (buf len : U32) : Prop :=
  len.toNat % 4 = 0 ∧ buf.toNat % 4 = 0

/-- There is an item of the type. -/
def Found (shared : Shared) (type : U32) : Prop :=
  ValidType type ∧ allocated shared type ≠ 0

instance (buf len : U32) : Decidable (Aligned buf len) :=
  inferInstanceAs (Decidable (_ ∧ _))

instance (shared : Shared) (type : U32) : Decidable (Found shared type) :=
  inferInstanceAs (Decidable (_ ∧ _))

/-- The length, rounded up to a multiple of 8. -/
def rounded (len : U32) : U32 := (len + 7) &&& ~~~7

/-- The address of an item in shared memory. -/
def itemStart (shared : Shared) (type : U32) : U32 := smemGetBaseAddr + itemOffset shared type

theorem and_three_eq_zero_iff (word : U32) : word &&& 3 = 0 ↔ word.toNat % 4 = 0 := by
  have mask : (3 : U32).toNat = 2 ^ 2 - 1 := rfl
  have none : (0 : U32).toNat = 0 := rfl
  rw [← BitVec.toNat_inj, BitVec.toNat_and, mask, Nat.and_two_pow_sub_one_eq_mod, none]

theorem aligned_iff (buf len : U32) :
    Aligned buf len ↔ ¬ (len &&& 3 ≠ 0 ∨ buf &&& 3 ≠ 0) := by
  rw [not_or, not_not, not_not, and_three_eq_zero_iff, and_three_eq_zero_iff, Aligned]

/-- Masking the lowest three bits out. -/
theorem and_not_seven (word : U32) : word &&& ~~~(7 : U32) = word >>> 3 <<< 3 := by
  apply BitVec.eq_of_getLsbD_eq
  intro i inside
  have mask : ∀ j < 32, (~~~(7 : U32)).getLsbD j = decide (3 ≤ j) := by
    decide
  rw [BitVec.getLsbD_and, mask i inside, BitVec.getLsbD_shiftLeft, BitVec.getLsbD_ushiftRight]
  by_cases high : 3 ≤ i
  · simp [-BitVec.getLsbD_eq_getElem, inside, high, Nat.add_sub_cancel' high]
  · simp [-BitVec.getLsbD_eq_getElem, high, Nat.not_le.mp high]

theorem rounded_toNat (len : U32) :
    (rounded len).toNat = (len.toNat + 7) % 2 ^ 32 / 8 * 8 := by
  have seven : (7 : U32).toNat = 7 := rfl
  rw [rounded, and_not_seven, BitVec.toNat_shiftLeft, BitVec.toNat_ushiftRight,
    BitVec.toNat_add, Nat.shiftLeft_eq, Nat.shiftRight_eq_div_pow, seven]
  have below := Nat.mod_lt (len.toNat + 7) (y := 2 ^ 32) (by decide)
  omega

section Readers

variable (shared : Shared) (type buf len offset : U32)

/-- The reader fails, or it copies the words from the start of the item. -/
theorem smemReadAllocEntry_eq : smemReadAllocEntry shared type buf len =
    some (if Aligned buf len ∧ Found shared type ∧ ¬ itemSize shared type < rounded len then
      (0, wordsFrom shared (signedRounds len) (itemStart shared type)) else (1, [])) := by
  have aligned := aligned_iff buf len
  unfold smemReadAllocEntry
  split
  · rename_i refused
    rw [if_neg fun reads => aligned.mp reads.1 refused]
  · rename_i passes
    split
    · rename_i invalid
      rw [if_neg fun reads => invalid reads.2.1.1]
    · rename_i valid
      split
      · rename_i unused
        rw [if_neg fun reads => reads.2.1.2 unused]
      · rename_i used
        split
        · rename_i small
          rw [if_neg fun reads => reads.2.2 small]
        · rename_i large
          have words := aligned.mpr passes
          rw [if_pos ⟨words, ⟨not_not.mp valid, used⟩, large⟩]
          exact congrArg (Option.map (0, ·)) (copyLoop_positive shared words.1)

theorem smemReadAllocEntryOffset_eq : smemReadAllocEntryOffset shared type buf len offset =
    some (if Aligned buf len ∧ Found shared type then
      (0, wordsFrom shared (len.toNat / 4) (itemStart shared type + offset)) else (1, [])) := by
  have aligned := aligned_iff buf len
  unfold smemReadAllocEntryOffset
  split
  · rename_i refused
    rw [if_neg fun reads => aligned.mp reads.1 refused]
  · rename_i passes
    split
    · rename_i invalid
      rw [if_neg fun reads => invalid reads.2.1]
    · rename_i valid
      split
      · rename_i unused
        rw [if_neg fun reads => reads.2.2 unused]
      · rename_i used
        have words := aligned.mpr passes
        rw [if_pos ⟨words, not_not.mp valid, used⟩]
        exact congrArg (Option.map (0, ·)) (copyLoop_nonzero shared words.1)

/-- Where the item is, if there is one. -/
theorem smemGetAllocEntry_eq : smemGetAllocEntry shared type =
    if Found shared type then
      ((if itemBaseExt shared type = 0 then smemGetBaseAddr else itemBaseExt shared type) +
        itemOffset shared type, some (itemSize shared type))
    else (0, none) := by
  by_cases found : Found shared type
  · rw [if_pos found, smemGetAllocEntry, if_neg (not_not.mpr found.1), if_neg found.2]
    by_cases plain : itemBaseExt shared type = 0
    · rw [if_pos plain, if_neg (not_not.mpr plain)]
    · rw [if_neg plain, if_pos plain]
  · rw [if_neg found, smemGetAllocEntry]
    by_cases valid : ValidType type
    · rw [if_neg (not_not.mpr valid), if_pos (not_not.mp fun used => found ⟨valid, used⟩)]
    · rw [if_pos valid]

end Readers

end HtcLeo.Smem
