import HtcLeo.Poll.Stream
import HtcLeo.Timer.Gpt

/-!
# Delays

`MicroSecondDelay` reads the counter until it has made the ticks of the delay.  The counter
wraps, and so may the deadline: then a first loop waits for the counter to wrap as well.
A counter that wraps between two readings without the deadline having wrapped is behind
the deadline again, and the delay goes on for almost a period.
-/

namespace HtcLeo.Timer

open Poll Memory

/-! ## The delays -/

/-- The ticks that a delay waits for. -/
def delayTicks (microSeconds : U32) : U64 :=
  (microSeconds.setWidth 64 * 33 + 1000 - 33) / 1000

/-- The deadline, where the counter has a value. -/
def timeout (count : U32) (ticks : U64) : U64 :=
  (count.setWidth 64 + ticks) &&& 0xFFFFFFFF

/-- The condition of the loop that waits for the counter to wrap. -/
def beforeWrap (timeout initCount : U64) (count : U32) : Bool :=
  timeout < count.setWidth 64 ∧ initCount ≤ count.setWidth 64

/-- The condition of the loop that waits for the deadline. -/
def beforeDeadline (timeout : U64) (count : U32) : Bool :=
  count.setWidth 64 < timeout

/-- The inputs are what `GPT_COUNT_VAL` returns. -/
def microSecondDelay (microSeconds : U32) : Poll U32 Unit U32 := do
  let ticks := delayTicks microSeconds
  let count ← next
  let initCount : U64 := count.setWidth 64
  let timeout := timeout count ticks
  let count ← readWhile (beforeWrap timeout initCount) count
  let _ ← readWhile (beforeDeadline timeout) count
  pure microSeconds

/-- The delay that `NanoSecondDelay` asks for. -/
def roundedMicroSeconds (nanoSeconds : U32) : U32 :=
  nanoSeconds / 1000 + if nanoSeconds % 1000 = 0 then 0 else 1

/-- `NanoSecondDelay`. -/
def nanoSecondDelay (nanoSeconds : U32) : Poll U32 Unit U32 := do
  let _ ← microSecondDelay (roundedMicroSeconds nanoSeconds)
  pure nanoSeconds

/-- It reads the counter as the delay in microseconds does. -/
theorem nanoSecondDelay_apply (nanoSeconds : U32) (state : Unit) (counts : List U32) :
    nanoSecondDelay nanoSeconds state counts =
      (microSecondDelay (roundedMicroSeconds nanoSeconds) state counts).map
        fun result => (nanoSeconds, result.2) := by
  rw [nanoSecondDelay, bind_apply]
  cases microSecondDelay (roundedMicroSeconds nanoSeconds) state counts <;> rfl

/-! ## Long enough -/

/-- The ticks of a delay, which are less than half a period. -/
theorem delayTicks_toNat (microSeconds : U32) :
    (delayTicks microSeconds).toNat = (microSeconds.toNat * 33 + 967) / 1000 := by
  rw [delayTicks, BitVec.toNat_udiv, BitVec.toNat_sub, BitVec.toNat_add, BitVec.toNat_mul,
    BitVec.toNat_setWidth]
  have below := microSeconds.isLt
  have factor : (33 : U64).toNat = 33 := rfl
  have thousand : (1000 : U64).toNat = 1000 := rfl
  rw [factor, thousand]
  omega

theorem delayTicks_lt (microSeconds : U32) : (delayTicks microSeconds).toNat < 2 ^ 28 := by
  have below := microSeconds.isLt
  rw [delayTicks_toNat]
  omega

theorem roundedMicroSeconds_toNat (nanoSeconds : U32) :
    (roundedMicroSeconds nanoSeconds).toNat = (nanoSeconds.toNat + 999) / 1000 := by
  have below := nanoSeconds.isLt
  have thousand : (1000 : U32).toNat = 1000 := rfl
  have whole : nanoSeconds % 1000 = 0 ↔ nanoSeconds.toNat % 1000 = 0 := by
    rw [BitVec.toNat_eq, BitVec.toNat_umod, thousand]
    rfl
  rw [roundedMicroSeconds, BitVec.toNat_add, BitVec.toNat_udiv, thousand]
  split
  · rename_i exact_
    have rest := whole.mp exact_
    have none : (0 : U32).toNat = 0 := rfl
    omega
  · rename_i inexact
    have rest := whole.not.mp inexact
    have one : (1 : U32).toNat = 1 := rfl
    omega

/-- The time of the ticks that a delay waits for, in nanoseconds. -/
def delayTime (microSeconds : U32) : Nat :=
  (getTimeInNanoSecond (delayTicks microSeconds)).toNat

theorem delayTime_eq (microSeconds : U32) : delayTime microSeconds =
    (microSeconds.toNat * 33 + 967) / 1000 * 1000000000 / 32765 := by
  have few := delayTicks_lt microSeconds
  rw [delayTime, (getTimeInNanoSecond_of_lt (Nat.lt_trans few (by decide))).2, nanoSeconds,
    frequency_eq, delayTicks_toNat]

/-- Rounding up falls short by up to 32 thousandths of a tick.  As the counter makes fewer
than 33000 ticks in a second, only the shortest delays can suffer. -/
theorem le_delayTime_iff (microSeconds : U32) :
    1000 * microSeconds.toNat ≤ delayTime microSeconds ↔ microSeconds.toNat ≠ 31 := by
  have short : ∀ n < 137,
      1000 * n ≤ (n * 33 + 967) / 1000 * 1000000000 / 32765 ↔ n ≠ 31 := by
    decide
  rw [delayTime_eq]
  rcases Nat.lt_or_ge microSeconds.toNat 137 with few | many
  · exact short _ few
  · exact iff_of_true (by omega) (by omega)

/-- A delay takes at least its time, unless it is of 31 microseconds, which are more than
one tick, or of as many nanoseconds as are rounded up to that. -/
theorem delays_long_enough_iff (microSeconds nanoSeconds : U32) :
    (1000 * microSeconds.toNat ≤ delayTime microSeconds ↔ microSeconds ≠ 31) ∧
      (nanoSeconds.toNat ≤ delayTime (roundedMicroSeconds nanoSeconds) ↔
        ¬ (30521 ≤ nanoSeconds.toNat ∧ nanoSeconds.toNat ≤ 31000)) := by
  constructor
  · rw [le_delayTime_iff]
    exact (@BitVec.toNat_inj 32 microSeconds 31).not
  · have rounded := roundedMicroSeconds_toNat nanoSeconds
    have enough := le_delayTime_iff (roundedMicroSeconds nanoSeconds)
    by_cases tick : (roundedMicroSeconds nanoSeconds).toNat = 31
    · rw [delayTime_eq, tick]
      omega
    · have long := enough.mpr tick
      exact iff_of_true (by omega) (by omega)

/-- One tick for 31 microseconds. -/
theorem delay_too_short :
    ¬ ((∀ microSeconds : U32, 1000 * microSeconds.toNat ≤ delayTime microSeconds) ∧
      ∀ nanoSeconds : U32, nanoSeconds.toNat ≤ delayTime (roundedMicroSeconds nanoSeconds)) := by
  rintro ⟨enough, -⟩
  exact absurd (enough 31) (by decide)

/-! ## The counter during a delay -/

/-- Readings of the counter: its value at the first one, and the ticks it has made since.
Less than half a period passes from one to the next. -/
structure Readings where
  start : U32
  passed : Nat → Nat
  passed_zero : passed 0 = 0
  passed_le (i : Nat) : passed i ≤ passed (i + 1)
  passed_lt (i : Nat) : passed (i + 1) < passed i + 2 ^ 31

namespace Readings

variable (readings : Readings)

/-- The value of the counter at a reading. -/
def count (i : Nat) : U32 :=
  readingAt (readings.start.toNat + readings.passed i)

/-- The first reading after a number of ticks. -/
def First (ticks n : Nat) : Prop :=
  ticks ≤ readings.passed n ∧ ∀ i < n, readings.passed i < ticks

/-- The delay returns with a reading. -/
def ReturnsAt (microSeconds : U32) (n : Nat) : Prop :=
  microSecondDelay microSeconds () (cells readings.count 0 (n + 1)) = some (microSeconds, (), [])

/-- The delay returns with the first reading after its ticks, and takes less than a period
more. -/
def OnTime (microSeconds : U32) : Prop :=
  ∀ n, (readings.ReturnsAt microSeconds n ↔
      readings.First (delayTicks microSeconds).toNat n) ∧
    (readings.ReturnsAt microSeconds n →
      readings.passed n < (delayTicks microSeconds).toNat + 2 ^ 32)

variable {readings : Readings} {microSeconds : U32} {ticks n : Nat}

theorem count_toNat (i : Nat) :
    (readings.count i).toNat = (readings.start.toNat + readings.passed i) % 2 ^ 32 :=
  BitVec.toNat_ofNat _ _

theorem count_zero : readings.count 0 = readings.start := by
  rw [count, passed_zero, Nat.add_zero, readingAt, BitVec.ofNat_toNat, BitVec.setWidth_eq]

theorem passed_mono {i : Nat} (before : i ≤ n) : readings.passed i ≤ readings.passed n := by
  induction before with
  | refl => exact Nat.le_refl _
  | step _ ih => exact Nat.le_trans ih (readings.passed_le _)

/-- The first reading after a number of ticks comes within half a period after them. -/
theorem First.passed_lt (first : readings.First ticks n) :
    readings.passed n < ticks + 2 ^ 31 := by
  cases n with
  | zero =>
      rw [readings.passed_zero]
      omega
  | succ n =>
      have before := first.2 n (Nat.lt_succ_self n)
      have gap := readings.passed_lt n
      omega

/-- Up to a reading there is a first one after the ticks, or they have not passed. -/
theorem first_or_before (ticks n : Nat) :
    (∃ k ≤ n, readings.First ticks k) ∨ ∀ i ≤ n, readings.passed i < ticks := by
  induction n with
  | zero =>
      rcases Nat.lt_or_ge (readings.passed 0) ticks with less | enough
      · exact .inr fun i none => Nat.le_zero.mp none ▸ less
      · exact .inl ⟨0, Nat.le_refl 0, enough, fun i none => absurd none (Nat.not_lt_zero i)⟩
  | succ n ih =>
      rcases ih with ⟨k, before, first⟩ | before
      · exact .inl ⟨k, Nat.le_succ_of_le before, first⟩
      · rcases Nat.lt_or_ge (readings.passed (n + 1)) ticks with less | enough
        · refine .inr fun i upTo => ?_
          rcases Nat.le_succ_iff.mp upTo with earlier | rfl
          · exact before i earlier
          · exact less
        · exact .inl ⟨n + 1, Nat.le_refl _, enough, fun i earlier =>
            before i (Nat.le_of_lt_succ earlier)⟩

/-! ## The two loops -/

/-- The deadline, which may have wrapped. -/
def deadline (readings : Readings) (microSeconds : U32) : U64 :=
  timeout readings.start (delayTicks microSeconds)

theorem deadline_toNat : (readings.deadline microSeconds).toNat =
    (readings.start.toNat + (delayTicks microSeconds).toNat) % 2 ^ 32 := by
  have few := delayTicks_lt microSeconds
  have below := readings.start.isLt
  have mask : (0xFFFFFFFF : U64).toNat = 2 ^ 32 - 1 := rfl
  rw [deadline, timeout, BitVec.toNat_and, mask, Nat.and_two_pow_sub_one_eq_mod,
    BitVec.toNat_add, BitVec.toNat_setWidth]
  omega

theorem beforeWrap_iff (i : Nat) :
    beforeWrap (readings.deadline microSeconds) (readings.start.setWidth 64)
        (readings.count i) = true ↔
      (readings.start.toNat + (delayTicks microSeconds).toNat) % 2 ^ 32 <
          (readings.start.toNat + readings.passed i) % 2 ^ 32 ∧
        readings.start.toNat ≤ (readings.start.toNat + readings.passed i) % 2 ^ 32 := by
  have below := readings.start.isLt
  rw [beforeWrap, decide_eq_true_eq, BitVec.lt_def, BitVec.le_def, deadline_toNat,
    BitVec.toNat_setWidth, BitVec.toNat_setWidth, count_toNat]
  omega

theorem beforeDeadline_iff (i : Nat) :
    beforeDeadline (readings.deadline microSeconds) (readings.count i) = true ↔
      (readings.start.toNat + readings.passed i) % 2 ^ 32 <
        (readings.start.toNat + (delayTicks microSeconds).toNat) % 2 ^ 32 := by
  rw [beforeDeadline, decide_eq_true_eq, BitVec.lt_def, deadline_toNat,
    BitVec.toNat_setWidth, count_toNat]
  omega

/-- The delay returns where the second loop stops after the first. -/
theorem returnsAt_iff : readings.ReturnsAt microSeconds n ↔
    ∃ m, StopsAt (beforeWrap (readings.deadline microSeconds) (readings.start.setWidth 64))
        readings.count 0 m ∧
      StopsAt (beforeDeadline (readings.deadline microSeconds)) readings.count m n := by
  have deadline_eq : timeout (readings.count 0) (delayTicks microSeconds) =
      readings.deadline microSeconds := by
    rw [count_zero, deadline]
  rw [ReturnsAt, cells, microSecondDelay, bind_of_eq_some (next_cons ..), deadline_eq,
    bind_eq_some_iff, ← readings.count_zero]
  constructor
  · rintro ⟨latest, middle, rest, wrapped, returned⟩
    obtain ⟨m, le, stops, same⟩ := readWhile_eq_some_iff.mp wrapped
    cases same
    obtain ⟨last, middle, rest, waited, ended⟩ := bind_eq_some_iff.mp returned
    obtain ⟨n', within, stopsAfter, same⟩ := readWhile_eq_some_iff.mp waited
    cases same
    have none : cells readings.count (n' + 1) (m + (0 + n - m) - n') = [] :=
      congrArg (fun result => result.2.2) (Option.some.inj ended)
    have after := cells_eq_nil_iff.mp none
    have final : n' = n := by
      have later := stopsAfter.1
      omega
    exact ⟨m, stops, final ▸ stopsAfter⟩
  · rintro ⟨m, stops, stopsAfter⟩
    have later := stopsAfter.1
    refine ⟨_, _, _, readWhile_eq_some_iff.mpr ⟨m, by omega, stops, rfl⟩, ?_⟩
    refine bind_eq_some_iff.mpr ⟨_, _, _, readWhile_eq_some_iff.mpr
      ⟨n, by omega, stopsAfter, rfl⟩, ?_⟩
    rw [cells_eq_nil_iff.mpr (by omega)]
    rfl

theorem returnsAt_unique {other : Nat} (returns : readings.ReturnsAt microSeconds n)
    (returnsOther : readings.ReturnsAt microSeconds other) : n = other := by
  obtain ⟨m, stops, stopsAfter⟩ := returnsAt_iff.mp returns
  obtain ⟨k, stopsOther, stopsAfterOther⟩ := returnsAt_iff.mp returnsOther
  have same := stops.unique stopsOther
  exact stopsAfter.unique (same ▸ stopsAfterOther)

/-- A delay with a deadline that has not wrapped has one loop to run. -/
theorem returnsAt_iff_of_unwrapped
    (unwrapped : readings.start.toNat + (delayTicks microSeconds).toNat < 2 ^ 32) :
    readings.ReturnsAt microSeconds n ↔
      StopsAt (beforeDeadline (readings.deadline microSeconds)) readings.count 0 n := by
  have stops : beforeWrap (readings.deadline microSeconds) (readings.start.setWidth 64)
      (readings.count 0) = false := by
    rw [← Bool.not_eq_true, beforeWrap_iff, readings.passed_zero]
    omega
  rw [returnsAt_iff]
  simp only [stopsAt_of_not stops, exists_eq_left']

theorem unwrapped_returnsAt
    (unwrapped : readings.start.toNat + (delayTicks microSeconds).toNat < 2 ^ 32)
    (first : readings.First (delayTicks microSeconds).toNat n) :
    readings.ReturnsAt microSeconds n ↔
      readings.start.toNat + readings.passed n < 2 ^ 32 := by
  have gap := first.passed_lt
  have enough := first.1
  rw [returnsAt_iff_of_unwrapped unwrapped]
  constructor
  · rintro ⟨-, -, stops⟩
    rw [← Bool.not_eq_true, beforeDeadline_iff] at stops
    omega
  · intro inside
    refine ⟨Nat.zero_le n, fun i _ below => ?_, ?_⟩
    · have less := first.2 i below
      rw [beforeDeadline_iff]
      omega
    · rw [← Bool.not_eq_true, beforeDeadline_iff]
      omega

/-- With a deadline that has wrapped, the first loop ends after the counter has wrapped too. -/
theorem wrapped_returnsAt
    (wrapped : 2 ^ 32 ≤ readings.start.toNat + (delayTicks microSeconds).toNat)
    (first : readings.First (delayTicks microSeconds).toNat n) :
    readings.ReturnsAt microSeconds n := by
  have few := delayTicks_lt microSeconds
  have below := readings.start.isLt
  have gap := first.passed_lt
  have enough := first.1
  rcases readings.first_or_before (2 ^ 32 - readings.start.toNat) n with
    ⟨m, upTo, firstWrapped⟩ | before
  · have gapWrapped := firstWrapped.passed_lt
    have past := firstWrapped.1
    refine returnsAt_iff.mpr ⟨m, ⟨Nat.zero_le m, fun i _ less => ?_, ?_⟩, upTo,
      fun i above less => ?_, ?_⟩
    · have notYet := firstWrapped.2 i less
      rw [beforeWrap_iff]
      omega
    · rw [← Bool.not_eq_true, beforeWrap_iff]
      omega
    · have later := readings.passed_mono above
      have notYet := first.2 i less
      rw [beforeDeadline_iff]
      omega
    · rw [← Bool.not_eq_true, beforeDeadline_iff]
      omega
  · have less := before n (Nat.le_refl n)
    omega

/-- The delay never returns early. -/
theorem not_returnsAt_of_before
    (before : ∀ i ≤ n, readings.passed i < (delayTicks microSeconds).toNat) :
    ¬ readings.ReturnsAt microSeconds n := by
  have few := delayTicks_lt microSeconds
  have below := readings.start.isLt
  have less := before n (Nat.le_refl n)
  intro returns
  obtain ⟨m, ⟨-, -, wrap⟩, upTo, -, stops⟩ := returnsAt_iff.mp returns
  have earlier := readings.passed_mono upTo
  rw [← Bool.not_eq_true, beforeWrap_iff] at wrap
  rw [← Bool.not_eq_true, beforeDeadline_iff] at stops
  omega

theorem onTime_of_first
    (returns : ∀ n, readings.First (delayTicks microSeconds).toNat n →
      readings.ReturnsAt microSeconds n) : readings.OnTime microSeconds := by
  intro n
  have onlyFirst (returnsHere : readings.ReturnsAt microSeconds n) :
      readings.First (delayTicks microSeconds).toNat n := by
    rcases readings.first_or_before (delayTicks microSeconds).toNat n with
      ⟨k, -, first⟩ | before
    · exact returnsAt_unique returnsHere (returns k first) ▸ first
    · exact absurd returnsHere (not_returnsAt_of_before before)
  refine ⟨⟨onlyFirst, returns n⟩, fun returnsHere => ?_⟩
  have gap := (onlyFirst returnsHere).passed_lt
  omega

/-- A delay ends on time exactly when its deadline has wrapped, or the counter has not
wrapped by the first reading after the ticks. -/
theorem onTime_iff (readings : Readings) (microSeconds : U32) :
    readings.OnTime microSeconds ↔
      (readings.start.toNat + (delayTicks microSeconds).toNat < 2 ^ 32 →
        ∀ n, readings.First (delayTicks microSeconds).toNat n →
          readings.start.toNat + readings.passed n < 2 ^ 32) := by
  constructor
  · intro onTime unwrapped n first
    exact (unwrapped_returnsAt unwrapped first).mp ((onTime n).1.mpr first)
  · intro inside
    apply onTime_of_first
    intro n first
    rcases Nat.lt_or_ge (readings.start.toNat + (delayTicks microSeconds).toNat) (2 ^ 32) with
      unwrapped | wrapped
    · exact (unwrapped_returnsAt unwrapped first).mpr (inside unwrapped n first)
    · exact wrapped_returnsAt wrapped first

end Readings

/-- The counter is 100 ticks before its end, and then 100 ticks past it. -/
def pastEnd : Readings where
  start := 0xFFFFFF9C
  passed i := if i = 0 then 0 else 200
  passed_zero := rfl
  passed_le i := by
    rw [if_neg (Nat.succ_ne_zero i)]
    split <;> omega
  passed_lt i := by
    rw [if_neg (Nat.succ_ne_zero i)]
    omega

/-- A delay of 33 ticks is not over after 200. -/
theorem delay_misses_deadline : ¬ pastEnd.OnTime 1000 := by
  intro onTime
  have first : pastEnd.First (delayTicks 1000).toNat 1 := by
    refine ⟨by decide, fun i below => ?_⟩
    rw [Nat.lt_one_iff.mp below]
    decide
  have returns : ¬ pastEnd.ReturnsAt 1000 1 := by
    rw [Readings.unwrapped_returnsAt (by decide) first]
    decide
  exact returns ((onTime 1).1.mpr first)

end HtcLeo.Timer
