import Mathlib.Logic.Function.Basic
import HtcLeo.Word.Flags

/-!
# Bitmaps

A bitmap is an array of 32-bit words; bit `k` is bit `k % 32` of word `k / 32`.  The
array is a function of the word index, so that a bit outside it still has a place.
-/

namespace HtcLeo

/-- A bitmap in words of 32 bits. -/
abbrev Bitmap := Nat → U32

namespace Bitmap

/-- The mask of a bit in its word. -/
def mask (bit : Nat) : U32 := 1#32 <<< (bit &&& 31)

/-- One bit set. -/
def set (bitmap : Bitmap) (bit : Nat) : Bitmap :=
  Function.update bitmap (bit / 32) (bitmap (bit / 32) ||| mask bit)

/-- One bit cleared. -/
def clear (bitmap : Bitmap) (bit : Nat) : Bitmap :=
  Function.update bitmap (bit / 32) (Flags.clear (bitmap (bit / 32)) (mask bit))

/-- Whether a bit is set. -/
def test (bitmap : Bitmap) (bit : Nat) : Bool :=
  Flags.test (bitmap (bit / 32)) (mask bit)

/-- Make a bit what a value says. -/
def assign (bitmap : Bitmap) (bit : Nat) (value : Bool) : Bitmap :=
  if value then bitmap.set bit else bitmap.clear bit

theorem and_thirty_one (bit : Nat) : bit &&& 31 = bit % 32 :=
  Nat.and_two_pow_sub_one_eq_mod bit 5

theorem mask_getLsbD (bit : Nat) {place : Nat} (_ : place < 32) :
    (mask bit).getLsbD place = decide (place = bit % 32) := by
  rw [mask, and_thirty_one, BitVec.getLsbD_shiftLeft, BitVec.getLsbD_one]
  have other := Nat.mod_lt bit (y := 32) (by decide)
  by_cases same : place = bit % 32
  · simp [same, other]
  · simp [same]
    omega

/-- A test reads a single bit of the word. -/
theorem test_eq_getLsbD (bitmap : Bitmap) (bit : Nat) :
    bitmap.test bit = (bitmap (bit / 32)).getLsbD (bit % 32) := by
  have below := Nat.mod_lt bit (y := 32) (by decide)
  rw [test, Bool.eq_iff_iff, Flags.test_eq_true_iff]
  constructor
  · intro nonzero
    by_contra absent
    apply nonzero
    apply BitVec.eq_of_getLsbD_eq
    intro place inside
    rw [BitVec.getLsbD_and, mask_getLsbD bit inside, BitVec.getLsbD_zero]
    by_cases same : place = bit % 32
    · rw [same, Bool.not_eq_true _ |>.mp absent, Bool.false_and]
    · simp [same]
  · intro present zero
    have bit_eq := congrArg (fun word => word.getLsbD (bit % 32)) zero
    simp [BitVec.getLsbD_and, -BitVec.getLsbD_eq_getElem, mask_getLsbD bit below, present] at bit_eq

/-- In a bitmap of zeros no bit is set. -/
theorem test_zero (bit : Nat) : test (fun _ => 0) bit = false :=
  Flags.test_zero_left

theorem test_assign_self (bitmap : Bitmap) (bit : Nat) (value : Bool) :
    (bitmap.assign bit value).test bit = value := by
  have below := Nat.mod_lt bit (y := 32) (by decide)
  rw [test_eq_getLsbD]
  cases value <;>
    simp [-BitVec.getLsbD_eq_getElem, assign, set, clear, Flags.clear, mask_getLsbD bit below,
      below]

theorem test_assign_of_ne {bit other : Nat} (different : other ≠ bit) (bitmap : Bitmap)
    (value : Bool) : (bitmap.assign bit value).test other = bitmap.test other := by
  have below := Nat.mod_lt other (y := 32) (by decide)
  rw [test_eq_getLsbD, test_eq_getLsbD]
  by_cases word : other / 32 = bit / 32
  · have place : other % 32 ≠ bit % 32 := by omega
    cases value <;>
      simp [-BitVec.getLsbD_eq_getElem, assign, set, clear, Flags.clear, word,
        mask_getLsbD bit below, below, place]
  · cases value <;> simp [assign, set, clear, Function.update_of_ne word]

end Bitmap

end HtcLeo
