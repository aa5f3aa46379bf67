import Mathlib.Algebra.Group.Nat.Defs
import HtcLeo.Word.Flags

/-!
# The performance counter

The general purpose timer counts 32 bits at 32765 Hz.  A number of ticks is made into
nanoseconds in 64 bits: the whole seconds and the ticks left over are scaled apart, so
that the second product always fits, and the first one as long as the result does.
-/

namespace HtcLeo.Timer

/-! ## Arithmetic of the base library -/

/-- `MultU64x32`. -/
def multU64x32 (multiplicand : U64) (multiplier : U32) : U64 :=
  multiplicand * multiplier.setWidth 64

/-- `DivU64x32`. -/
def divU64x32 (dividend : U64) (divisor : U32) : U64 :=
  dividend / divisor.setWidth 64

/-- The quotient and the remainder. -/
def divU64x32Remainder (dividend : U64) (divisor : U32) : U64 × U32 :=
  (dividend / divisor.setWidth 64, (dividend % divisor.setWidth 64).setWidth 32)

/-! ## The timer library -/

/-- The value of `GPT_COUNT_VAL`, widened. -/
def getPerformanceCounter (countVal : U32) : U64 := countVal.setWidth 64

/-- What `GetPerformanceCounterProperties` returns and stores. -/
structure PerformanceCounterProperties where
  startValue : U64
  endValue : U64
  frequency : U64
  deriving DecidableEq, Repr

/-- `GetPerformanceCounterProperties`. -/
def getPerformanceCounterProperties : PerformanceCounterProperties := ⟨0, 0xFFFFFFFF, 32765⟩

/-- The whole seconds in a number of ticks, and the ticks left over. -/
def wholeSeconds (ticks : U64) : U64 × U32 :=
  divU64x32Remainder ticks (getPerformanceCounterProperties.frequency.setWidth 32)

/-- `GetTimeInNanoSecond`. -/
def getTimeInNanoSecond (ticks : U64) : U64 :=
  multU64x32 (wholeSeconds ticks).1 1000000000 +
    divU64x32 (multU64x32 ((wholeSeconds ticks).2.setWidth 64) 1000000000)
      (getPerformanceCounterProperties.frequency.setWidth 32)

/-! ## Ticks and nanoseconds -/

/-- The frequency, in ticks for each second. -/
def frequency : Nat := getPerformanceCounterProperties.frequency.toNat

/-- The nanoseconds of a number of ticks, rounded down. -/
def nanoSeconds (ticks : Nat) : Nat := ticks * 1000000000 / frequency

/-- Both products of the conversion fit into 64 bits. -/
def ProductsFit (ticks : U64) : Prop :=
  (wholeSeconds ticks).1.toNat * 1000000000 < 2 ^ 64 ∧
    (wholeSeconds ticks).2.toNat * 1000000000 < 2 ^ 64

theorem frequency_eq : frequency = 32765 := rfl

@[simp]
theorem wholeSeconds_fst (ticks : U64) :
    (wholeSeconds ticks).1.toNat = ticks.toNat / frequency :=
  BitVec.toNat_udiv

theorem wholeSeconds_snd (ticks : U64) :
    (wholeSeconds ticks).2.toNat = ticks.toNat % frequency := by
  have rest : (wholeSeconds ticks).2.toNat = ticks.toNat % frequency % 2 ^ 32 :=
    BitVec.toNat_setWidth 32 _
  have below := Nat.mod_lt ticks.toNat (y := frequency) (by decide)
  rw [rest, Nat.mod_eq_of_lt (Nat.lt_trans below (by decide))]

/-- The two parts add up to the scaled ticks. -/
theorem nanoSeconds_eq (ticks : Nat) : nanoSeconds ticks =
    ticks / frequency * 1000000000 + ticks % frequency * 1000000000 / frequency := by
  have split : ticks * 1000000000 =
      frequency * (ticks / frequency * 1000000000) + ticks % frequency * 1000000000 := by
    calc
      ticks * 1000000000 =
          (frequency * (ticks / frequency) + ticks % frequency) * 1000000000 := by
        rw [Nat.div_add_mod]
      _ = _ := by rw [Nat.add_mul, Nat.mul_assoc]
  rw [nanoSeconds, split, Nat.mul_add_div (by decide)]

/-- The conversion is exact up to what 64 bits can hold. -/
theorem getTimeInNanoSecond_toNat (ticks : U64) :
    (getTimeInNanoSecond ticks).toNat = nanoSeconds ticks.toNat % 2 ^ 64 := by
  have below := Nat.mod_lt ticks.toNat (y := frequency) (by decide)
  rw [frequency_eq] at below
  have left : (multU64x32 ((wholeSeconds ticks).2.setWidth 64) 1000000000).toNat =
      ticks.toNat % frequency * 1000000000 := by
    rw [multU64x32, BitVec.toNat_mul, BitVec.toNat_setWidth, BitVec.toNat_setWidth,
      wholeSeconds_snd, frequency_eq]
    have billion : (1000000000 : U32).toNat = 1000000000 := rfl
    rw [billion]
    omega
  have seconds : (multU64x32 (wholeSeconds ticks).1 1000000000).toNat =
      ticks.toNat / frequency * 1000000000 % 2 ^ 64 := by
    rw [multU64x32, BitVec.toNat_mul, wholeSeconds_fst]
    rfl
  have divided : (divU64x32 (multU64x32 ((wholeSeconds ticks).2.setWidth 64) 1000000000)
      (getPerformanceCounterProperties.frequency.setWidth 32)).toNat =
        ticks.toNat % frequency * 1000000000 / frequency := by
    rw [divU64x32, BitVec.toNat_udiv, left]
    rfl
  rw [getTimeInNanoSecond, BitVec.toNat_add, seconds, divided, Nat.mod_add_mod, ← nanoSeconds_eq]

/-- A product overflows when the whole seconds are too many. -/
theorem productsFit_iff (ticks : U64) :
    ProductsFit ticks ↔ ticks.toNat / frequency * 1000000000 < 2 ^ 64 := by
  rw [ProductsFit, wholeSeconds_fst, wholeSeconds_snd]
  have below := Nat.mod_lt ticks.toNat (y := frequency) (by decide)
  rw [frequency_eq] at below ⊢
  exact and_iff_left (by omega)

/-- As many ticks as the counter has values are converted exactly. -/
theorem getTimeInNanoSecond_of_lt {ticks : U64} (small : ticks.toNat < 2 ^ 32) :
    ProductsFit ticks ∧ (getTimeInNanoSecond ticks).toNat = nanoSeconds ticks.toNat := by
  constructor
  · rw [productsFit_iff, frequency_eq]
    omega
  · rw [getTimeInNanoSecond_toNat, Nat.mod_eq_of_lt]
    rw [nanoSeconds, frequency_eq]
    omega

/-! ## Differences of readings -/

/-- The reading of a counter that has made a number of ticks. -/
def readingAt (ticks : Nat) : U32 := BitVec.ofNat 32 ticks

/-- The 64-bit difference of two readings. -/
def counterDifference (earlier later : Nat) : U64 :=
  getPerformanceCounter (readingAt later) - getPerformanceCounter (readingAt earlier)

/-- Within one period the difference is the number of ticks, or, if the counter wrapped,
that number and `2 ^ 64 - 2 ^ 32` more. -/
theorem counterDifference_toNat (ticks : Nat) {gap : Nat} (small : gap < 2 ^ 32) :
    (counterDifference ticks (ticks + gap)).toNat =
      if ticks % 2 ^ 32 + gap < 2 ^ 32 then gap else 2 ^ 64 - 2 ^ 32 + gap := by
  simp only [counterDifference, getPerformanceCounter, readingAt, BitVec.toNat_sub,
    BitVec.toNat_setWidth, BitVec.toNat_ofNat]
  split <;> omega

/-- Rounding down loses at most one nanosecond more in the parts than in the sum. -/
theorem nanoSeconds_add (one two : Nat) :
    nanoSeconds one + nanoSeconds two ≤ nanoSeconds (one + two) ∧
      nanoSeconds (one + two) ≤ nanoSeconds one + nanoSeconds two + 1 := by
  simp only [nanoSeconds, frequency_eq]
  omega

/-- After a wrap the nanoseconds are wrong, and a product overflows. -/
theorem getTimeInNanoSecond_of_wrapped {ticks : U64} {gap : Nat} (small : gap < 2 ^ 32)
    (wrapped : ticks.toNat = 2 ^ 64 - 2 ^ 32 + gap) :
    ¬ ProductsFit ticks ∧ (getTimeInNanoSecond ticks).toNat ≠ nanoSeconds gap := by
  constructor
  · rw [productsFit_iff, wrapped, frequency_eq]
    omega
  · have excess : nanoSeconds (2 ^ 64 - 2 ^ 32) = 563001497616804038455669 := rfl
    have few : nanoSeconds gap < 2 ^ 47 := by
      rw [nanoSeconds, frequency_eq]
      omega
    have sum := nanoSeconds_add (2 ^ 64 - 2 ^ 32) gap
    rw [getTimeInNanoSecond_toNat, wrapped]
    omega

end HtcLeo.Timer
