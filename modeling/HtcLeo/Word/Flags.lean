import Mathlib.Data.Bool.Basic

/-!
# Words and flags

The word widths of the platform, and flag words.

Device registers are words whose bits are independent flags.  A driver asks whether
any bit of a mask is set, sets the bits of a mask, and clears them.  The relation
`SameOutside hidden` says that two words differ at most in the bits of `hidden`;
everything a driver can do with a mask disjoint from `hidden` respects it.
-/

namespace HtcLeo

abbrev U8 := BitVec 8

abbrev U16 := BitVec 16

/-- A 32-bit word, the width of `unsigned`, `UINTN` and every register. -/
abbrev U32 := BitVec 32

abbrev U64 := BitVec 64

namespace Flags

variable {w : Nat} {one two word mask hidden : BitVec w}

/-- Some bit of `mask` is set in `word`. -/
def test (word mask : BitVec w) : Bool :=
  word &&& mask != 0#w

/-- Clear the bits of `mask`. -/
def clear (word mask : BitVec w) : BitVec w :=
  word &&& ~~~mask

theorem test_eq_false_iff : test word mask = false ↔ word &&& mask = 0#w := by
  simp [test]

theorem test_eq_true_iff : test word mask = true ↔ word &&& mask ≠ 0#w := by
  simp [test]

@[simp]
theorem test_zero_left : test 0#w mask = false := by
  simp [test]

@[simp]
theorem test_or : test (one ||| two) mask = (test one mask || test two mask) := by
  rw [Bool.eq_iff_iff, Bool.or_eq_true, test_eq_true_iff, test_eq_true_iff,
    test_eq_true_iff, BitVec.and_or_distrib_right, ne_eq, BitVec.or_eq_zero_iff,
    not_and_or]

/-- A flag that was just raised is set. -/
theorem test_or_self (word : BitVec w) {raised : BitVec w} (nonzero : raised ≠ 0#w) :
    test (word ||| raised) raised = true := by
  rw [test_or, Bool.or_eq_true, test_eq_true_iff, test_eq_true_iff, BitVec.and_self]
  exact .inr nonzero

/-- A union of masks is tested part by part. -/
theorem test_mask_or {part : BitVec w} :
    test word (mask ||| part) = (test word mask || test word part) := by
  rw [Bool.eq_iff_iff, Bool.or_eq_true, test_eq_true_iff, test_eq_true_iff,
    test_eq_true_iff, BitVec.and_or_distrib_left, ne_eq, BitVec.or_eq_zero_iff,
    not_and_or]

/-- Clearing the tested bits leaves none of them. -/
theorem test_clear_of_subset {cleared : BitVec w} (subset : ~~~cleared &&& mask = 0#w) :
    test (clear word cleared) mask = false := by
  rw [test_eq_false_iff, clear, BitVec.and_assoc, subset, BitVec.and_zero]

/-- Clearing sets no bits. -/
theorem test_clear_of_absent (absent : test word mask = false) (cleared : BitVec w) :
    test (clear word cleared) mask = false := by
  rw [test_eq_false_iff] at absent ⊢
  rw [clear, BitVec.and_assoc, BitVec.and_comm (~~~cleared), ← BitVec.and_assoc, absent,
    BitVec.zero_and]

theorem test_and_of_absent (absent : test word mask = false) (other : BitVec w) :
    test (word &&& other) mask = false := by
  rw [test_eq_false_iff] at absent ⊢
  rw [BitVec.and_assoc, BitVec.and_comm other, ← BitVec.and_assoc, absent, BitVec.zero_and]

/-- Clearing other bits changes no test. -/
theorem test_clear_of_disjoint {cleared : BitVec w} (disjoint : ~~~cleared &&& mask = mask) :
    test (clear word cleared) mask = test word mask := by
  rw [test, clear, BitVec.and_assoc, disjoint, test]

/-- A word without bits of `mask` has none of any part of it. -/
theorem test_eq_false_of_subset {part : BitVec w} (absent : test word mask = false)
    (subset : mask &&& part = part) : test word part = false := by
  rw [test_eq_false_iff] at absent ⊢
  rw [← subset, ← BitVec.and_assoc, absent, BitVec.zero_and]

/-! ## Words within a mask -/

/-- All bits of `word` are bits of `mask`. -/
def Within (mask word : BitVec w) : Prop :=
  word &&& ~~~mask = 0#w

theorem within_and (word mask : BitVec w) : Within mask (word &&& mask) := by
  rw [Within, BitVec.and_assoc, BitVec.and_not_self]
  exact BitVec.and_zero

theorem Within.or (oneWithin : Within mask one) (twoWithin : Within mask two) :
    Within mask (one ||| two) := by
  rw [Within, BitVec.and_or_distrib_right, oneWithin, twoWithin, BitVec.or_self]

theorem Within.clear (within : Within mask word) (cleared : BitVec w) :
    Within mask (clear word cleared) := by
  rw [Within, Flags.clear, BitVec.and_assoc, BitVec.and_comm (~~~cleared),
    ← BitVec.and_assoc, within, BitVec.zero_and]

/-- A word has no bits outside the mask it is within. -/
theorem Within.test_eq_false {part : BitVec w} (within : Within mask word)
    (disjoint : ~~~mask &&& part = part) : test word part = false := by
  rw [test_eq_false_iff, ← disjoint, ← BitVec.and_assoc, within, BitVec.zero_and]

/-! ## Words that agree outside some bits -/

/-- The two words differ at most in the bits of `hidden`. -/
def SameOutside (hidden one two : BitVec w) : Prop :=
  one &&& ~~~hidden = two &&& ~~~hidden

theorem SameOutside.symm (same : SameOutside hidden one two) :
    SameOutside hidden two one :=
  Eq.symm same

/-- A test that avoids the hidden bits cannot tell the words apart. -/
theorem SameOutside.test_eq (same : SameOutside hidden one two)
    (avoids : ~~~hidden &&& mask = mask) : test one mask = test two mask := by
  rw [test, test, ← avoids, ← BitVec.and_assoc, ← BitVec.and_assoc, same]

theorem SameOutside.or (same : SameOutside hidden one two) (raised : BitVec w) :
    SameOutside hidden (one ||| raised) (two ||| raised) := by
  rw [SameOutside, BitVec.and_or_distrib_right, BitVec.and_or_distrib_right, same]

theorem SameOutside.clear (same : SameOutside hidden one two) (cleared : BitVec w) :
    SameOutside hidden (clear one cleared) (clear two cleared) := by
  have commute : ∀ word : BitVec w,
      Flags.clear word cleared &&& ~~~hidden = (word &&& ~~~hidden) &&& ~~~cleared := by
    intro word
    rw [Flags.clear, BitVec.and_assoc, BitVec.and_comm (~~~cleared), ← BitVec.and_assoc]
  rw [SameOutside, commute, commute, same]

/-- Clearing bits that a word lacks changes nothing about it. -/
theorem sameOutside_clear_of_absent {watched : BitVec w} (absent : test word watched = false)
    (cleared : BitVec w) :
    SameOutside (Flags.clear cleared watched) word (Flags.clear word cleared) := by
  rw [test_eq_false_iff] at absent
  have kept : ~~~(Flags.clear cleared watched) = ~~~cleared ||| watched := by
    rw [Flags.clear, BitVec.not_and, BitVec.not_not]
  rw [SameOutside, kept, BitVec.and_or_distrib_left, absent, BitVec.or_zero, Flags.clear,
    BitVec.and_or_distrib_left, BitVec.and_assoc word, BitVec.and_self, BitVec.and_assoc word,
    BitVec.and_comm _ watched, ← BitVec.and_assoc word, absent, BitVec.zero_and, BitVec.or_zero]

/-! ## Fields -/

/-- The bits of `mask` in the word, after a shift to the right. -/
def field (word : BitVec w) (shift : Nat) (mask : BitVec w) : BitVec w :=
  (word >>> shift) &&& mask

theorem field_or (shift : Nat) :
    field (one ||| two) shift mask = field one shift mask ||| field two shift mask := by
  rw [field, BitVec.ushiftRight_or_distrib, BitVec.and_or_distrib_right, field, field]

/-- A field whose bits were cleared holds what was inserted. -/
theorem field_insert {cleared : BitVec w} {shift : Nat}
    (covered : (~~~cleared >>> shift) &&& mask = 0#w) (inserted : BitVec w) :
    field ((word &&& ~~~cleared) ||| inserted) shift mask = field inserted shift mask := by
  have empty : field (word &&& ~~~cleared) shift mask = 0#w := by
    rw [field, BitVec.ushiftRight_and_distrib, BitVec.and_assoc, covered, BitVec.and_zero]
  rw [field_or, empty, BitVec.zero_or]

end Flags

end HtcLeo
