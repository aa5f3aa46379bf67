import Mathlib.Logic.Function.Basic
import HtcLeo.Word.Flags

/-!
# Memories

A memory is a function of addresses.  `copyRange` copies a range of one memory to
another, and `copyBlocks` several blocks of one size, each from its own place to its
own place.  When the places follow one another the blocks are one range.  `cells`
lists the contents of a range.

A memory of words is also one of bytes, which is little-endian.
-/

namespace HtcLeo.Memory

universe u

variable {α : Type u}

/-! ## Ranges -/

/-- Copy `count` cells of `source`, from `origin` on, to `goal` in `target`. -/
def copyRange (source target : Nat → α) (origin goal count : Nat) : Nat → α :=
  fun i => if goal ≤ i ∧ i < goal + count then source (origin + (i - goal)) else target i

section Range

variable {source target : Nat → α} {origin goal count : Nat}

theorem copyRange_inside {i : Nat} (inside : i < count) :
    copyRange source target origin goal count (goal + i) = source (origin + i) := by
  rw [copyRange, if_pos ⟨Nat.le_add_right _ _, by omega⟩, Nat.add_sub_cancel_left]

theorem copyRange_outside {i : Nat} (outside : i < goal ∨ goal + count ≤ i) :
    copyRange source target origin goal count i = target i :=
  if_neg (by omega)

@[simp]
theorem copyRange_zero : copyRange source target origin goal 0 = target :=
  funext fun _ => copyRange_outside (by omega)

/-- Two ranges that follow one another are one. -/
theorem copyRange_append (more : Nat) :
    copyRange source (copyRange source target origin goal count) (origin + count)
        (goal + count) more = copyRange source target origin goal (count + more) := by
  funext i
  by_cases first : goal ≤ i ∧ i < goal + count
  · rcases Nat.exists_eq_add_of_le first.1 with ⟨offset, rfl⟩
    rw [copyRange_outside (by omega), copyRange_inside (by omega), copyRange_inside (by omega)]
  · by_cases second : goal + count ≤ i ∧ i < goal + count + more
    · rcases Nat.exists_eq_add_of_le second.1 with ⟨offset, rfl⟩
      rw [copyRange_inside (by omega), Nat.add_assoc goal, copyRange_inside (by omega),
        Nat.add_assoc]
    · rw [copyRange_outside (by omega), copyRange_outside (by omega),
        copyRange_outside (by omega)]

/-- One more cell. -/
theorem update_copyRange :
    Function.update (copyRange source target origin goal count) (goal + count)
        (source (origin + count)) = copyRange source target origin goal (count + 1) := by
  rw [← copyRange_append]
  funext i
  by_cases here : i = goal + count
  · rw [here, Function.update_self]
    exact (@copyRange_inside α source _ (origin + count) (goal + count) 1 0 Nat.one_pos).symm
  · rw [Function.update_of_ne here, @copyRange_outside α source _ _ _ 1 i (by omega)]

/-- Ranges of different lengths differ if the memories do everywhere. -/
theorem copyRange_count_ne {origin' count' : Nat} (differ : ∀ i j, source i ≠ target j)
    (counts : count ≠ count') :
    copyRange source target origin goal count ≠ copyRange source target origin' goal count' := by
  intro same
  rcases Nat.lt_or_gt_of_ne counts with less | more
  · have cell := congrFun same (goal + count)
    rw [copyRange_outside (by omega), copyRange_inside less] at cell
    exact differ _ _ cell.symm
  · have cell := congrFun same (goal + count')
    rw [copyRange_inside more, copyRange_outside (by omega)] at cell
    exact differ _ _ cell

end Range

/-! ## The contents of a range -/

/-- The `count` cells from `first` on. -/
def cells (source : Nat → α) : Nat → Nat → List α
  | _, 0 => []
  | first, count + 1 => source first :: cells source (first + 1) count

section Cells

variable {source target : Nat → α}

theorem cells_append (first count more : Nat) :
    cells source first (count + more) =
      cells source first count ++ cells source (first + count) more := by
  induction count generalizing first with
  | zero => rw [Nat.zero_add, cells, Nat.add_zero, List.nil_append]
  | succ count ih =>
      rw [Nat.add_right_comm, cells, cells, ih, List.cons_append, Nat.add_right_comm first 1,
        Nat.add_assoc first]

theorem cells_eq_nil_iff {first count : Nat} : cells source first count = [] ↔ count = 0 := by
  cases count with
  | zero => exact iff_of_true rfl rfl
  | succ count => exact iff_of_false (List.cons_ne_nil _ _) (Nat.succ_ne_zero count)

theorem cells_congr {first count : Nat}
    (same : ∀ i, first ≤ i → i < first + count → source i = target i) :
    cells source first count = cells target first count := by
  induction count generalizing first with
  | zero => rfl
  | succ count ih =>
      rw [cells, cells, same first (Nat.le_refl _) (by omega),
        ih fun i above below => same i (by omega) (by omega)]

end Cells

/-! ## Blocks -/

/-- Copy blocks of `size` cells one after the other, block `j` from `origin j` to
`goal j`. -/
def copyBlocks (source target : Nat → α) (size : Nat) (origin goal : Nat → Nat) :
    Nat → Nat → α
  | 0 => target
  | count + 1 =>
      copyRange source (copyBlocks source target size origin goal count) (origin count)
        (goal count) size

section Blocks

variable {source target : Nat → α} {size : Nat} {origin goal : Nat → Nat}

/-- Blocks whose places follow one another are one range. -/
theorem copyBlocks_contiguous {first start count : Nat}
    (origins : ∀ j < count, origin j = first + size * j)
    (goals : ∀ j < count, goal j = start + size * j) :
    copyBlocks source target size origin goal count =
      copyRange source target first start (size * count) := by
  induction count with
  | zero => exact copyRange_zero.symm
  | succ count ih =>
      rw [copyBlocks, origins count (Nat.lt_succ_self _), goals count (Nat.lt_succ_self _),
        ih (fun j below => origins j (Nat.lt_succ_of_lt below))
          fun j below => goals j (Nat.lt_succ_of_lt below),
        copyRange_append, Nat.mul_succ]

/-- A cell is as before, or it was copied from some block. -/
theorem copyBlocks_apply (count i : Nat) :
    copyBlocks source target size origin goal count i = target i ∨
      ∃ j < count, ∃ offset < size, i = goal j + offset ∧
        copyBlocks source target size origin goal count i = source (origin j + offset) := by
  induction count with
  | zero => exact .inl rfl
  | succ count ih =>
      by_cases last : goal count ≤ i ∧ i < goal count + size
      · rcases Nat.exists_eq_add_of_le last.1 with ⟨offset, rfl⟩
        have inside : offset < size := by omega
        exact .inr ⟨count, Nat.lt_succ_self _, offset, inside, rfl, copyRange_inside inside⟩
      · rw [copyBlocks, copyRange_outside (by omega)]
        exact ih.imp_right fun ⟨j, below, copied⟩ => ⟨j, Nat.lt_succ_of_lt below, copied⟩

/-- The last block stays. -/
theorem copyBlocks_last {count offset : Nat} (inside : offset < size) :
    copyBlocks source target size origin goal (count + 1) (goal count + offset) =
      source (origin count + offset) :=
  copyRange_inside inside

/-- From a memory with one value, it does not matter where blocks come from. -/
theorem copyBlocks_const (value : α) (origin' : Nat → Nat) (count : Nat) :
    copyBlocks (fun _ => value) target size origin goal count =
      copyBlocks (fun _ => value) target size origin' goal count := by
  induction count with
  | zero => rfl
  | succ count ih =>
      rw [copyBlocks, copyBlocks, ih]
      rfl

/-- Cells that are all alike stay so. -/
theorem copyBlocks_eq {value : α} {count i : Nat} (before : target i = value)
    (copied : ∀ j < count, ∀ offset < size, i = goal j + offset →
      source (origin j + offset) = value) :
    copyBlocks source target size origin goal count i = value := by
  rcases copyBlocks_apply count i with same | ⟨j, below, offset, inside, place, same⟩
  · exact same.trans before
  · exact same.trans (copied j below offset inside place)

end Blocks

/-! ## Bytes -/

/-- Byte `i` of a memory of words, which is little-endian. -/
def byteAt (memory : Nat → U32) (i : Nat) : U8 :=
  (memory (i / 4) >>> (8 * (i % 4))).setWidth 8

theorem byteAt_of_zero {memory : Nat → U32} {i : Nat} (word : memory (i / 4) = 0) :
    byteAt memory i = 0 := by
  rw [byteAt, word, BitVec.ofNat_eq_ofNat, BitVec.zero_ushiftRight]
  rfl

theorem byteAt_ne_zero {memory : Nat → U32} {i : Nat}
    (word : memory (i / 4) = BitVec.allOnes 32) : byteAt memory i ≠ 0 := by
  have place : i % 4 = 0 ∨ i % 4 = 1 ∨ i % 4 = 2 ∨ i % 4 = 3 := by omega
  rw [byteAt, word]
  rcases place with place | place | place | place <;> rw [place] <;> decide

/-- The words from `first` on have all bits set, those before have none. -/
def marked (first : Nat) : Nat → U32 :=
  fun i => if first ≤ i then BitVec.allOnes 32 else 0

theorem byteAt_marked_ne_zero {first i : Nat} (beyond : 4 * first ≤ i) :
    byteAt (marked first) i ≠ 0 :=
  byteAt_ne_zero (if_pos (by omega))

theorem byteAt_marked {first i : Nat} (before : i < 4 * first) : byteAt (marked first) i = 0 :=
  byteAt_of_zero (if_neg (by omega))

/-- A range of words is a range of bytes. -/
theorem byteAt_copyRange (source target : Nat → U32) (origin goal count : Nat) :
    byteAt (copyRange source target origin goal count) =
      copyRange (byteAt source) (byteAt target) (4 * origin) (4 * goal) (4 * count) := by
  funext i
  by_cases inside : goal ≤ i / 4 ∧ i / 4 < goal + count
  · rcases Nat.exists_eq_add_of_le (show 4 * goal ≤ i by omega) with ⟨offset, rfl⟩
    rw [copyRange_inside (by omega), byteAt, byteAt,
      show (4 * goal + offset) / 4 = goal + offset / 4 by omega,
      show (4 * origin + offset) / 4 = origin + offset / 4 by omega,
      copyRange_inside (by omega), Nat.mul_add_mod, Nat.mul_add_mod]
  · rw [copyRange_outside (by omega), byteAt, copyRange_outside (by omega), byteAt]

end HtcLeo.Memory
