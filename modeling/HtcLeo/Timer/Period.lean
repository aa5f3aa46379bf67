import HtcLeo.Interrupt.Core
import HtcLeo.Timer.Gpt

/-!
# The period of the timer interrupt

The driver programs the debug timer with a match value, in ticks of its own rate, and
remembers the period that it was asked for.  A period is first made whole milliseconds,
and the match value has 32 bits, so what is programmed may be less than what is
remembered.
-/

namespace HtcLeo.Timer

open Interrupt

/-! ## The driver -/

/-- The registers of the timer. -/
inductive DgtRegister where
  | matchVal
  | clear
  | enable
  deriving DecidableEq, Repr

def DGT_HZ : U64 := 4800000
def DGT_ENABLE_CLR_ON_MATCH_EN : U32 := 2
def DGT_ENABLE_EN : U32 := 1

/-- The variables of the driver, what was last written to the registers of the debug timer,
and the interrupt controller.  `0` is the null pointer. -/
structure TimerDriver where
  timerNotifyFunction : U32
  timerPeriod : U64
  vector : U32
  dgt : DgtRegister → U32
  vic : Vic

/-- `MmioWrite32` on a register of the debug timer, which takes the low half of a value. -/
def TimerDriver.mmioWrite32 (d : TimerDriver) (register : DgtRegister) (value : U64) :
    TimerDriver :=
  { d with dgt := Function.update d.dgt register (value.setWidth 32) }

/-- The match value for a period. -/
def dgtMatch (period : U64) : U64 :=
  let timerCount := period / 10000
  timerCount * (DGT_HZ / 1000)

/-- `TimerDriverSetTimerPeriod`. -/
def timerDriverSetTimerPeriod (d : TimerDriver) (period : U64) : EfiStatus × TimerDriver :=
  if period = 0 then
    let d := d.mmioWrite32 .enable 0
    let d := d.mmioWrite32 .clear 0
    let disabled := disableInterruptSource d.vic d.vector
    (disabled.1, { d with vic := disabled.2, timerPeriod := period })
  else
    let d := { d with vic := (disableInterruptSource d.vic d.vector).2 }
    let d := d.mmioWrite32 .matchVal (dgtMatch period)
    let d := d.mmioWrite32 .clear 0
    let d := d.mmioWrite32 .enable ((DGT_ENABLE_EN ||| DGT_ENABLE_CLR_ON_MATCH_EN).setWidth 64)
    let enabled := enableInterruptSource d.vic d.vector
    (enabled.1, { d with vic := enabled.2, timerPeriod := period })

/-- `present` says that the pointer for the period is not null. -/
def timerDriverGetTimerPeriod (d : TimerDriver) (present : Bool) : EfiStatus × Option U64 :=
  if present then (.success, some d.timerPeriod) else (.invalidParameter, none)

/-- `TimerDriverRegisterHandler`. -/
def timerDriverRegisterHandler (d : TimerDriver) (notifyFunction : U32) :
    EfiStatus × TimerDriver :=
  if notifyFunction = 0 ∧ d.timerNotifyFunction = 0 then (.invalidParameter, d)
  else if notifyFunction ≠ 0 ∧ d.timerNotifyFunction ≠ 0 then (.alreadyStarted, d)
  else (.success, { d with timerNotifyFunction := notifyFunction })

/-- The function that is notified, and the period it is given. -/
def timerInterruptHandler (d : TimerDriver) : Option (U32 × U64) :=
  if d.timerNotifyFunction ≠ 0 then some (d.timerNotifyFunction, d.timerPeriod) else none

/-! ## What was asked for -/

/-- The units of a period in a second. -/
def unitsPerSecond : Nat := 10000000

/-- A period takes exactly a number of ticks of the debug timer. -/
def Takes (period : U64) (ticks : Nat) : Prop :=
  period.toNat * DGT_HZ.toNat = ticks * unitsPerSecond

/-- The driver after a period was set, and handlers were registered and unregistered. -/
def afterHandlers (d : TimerDriver) (handlers : List U32) : TimerDriver :=
  handlers.foldl (fun d notifyFunction => (timerDriverRegisterHandler d notifyFunction).2) d

/-- The timer was programmed with the period asked for, rounded up to ticks, and this is
what the driver says from then on. -/
structure AsAsked (d : TimerDriver) (period : U64) : Prop where
  fits : (dgtMatch period).toNat < 2 ^ 32
  enough : period.toNat * DGT_HZ.toNat ≤
    ((timerDriverSetTimerPeriod d period).2.dgt .matchVal).toNat * unitsPerSecond
  notMore : ((timerDriverSetTimerPeriod d period).2.dgt .matchVal).toNat * unitsPerSecond <
    period.toNat * DGT_HZ.toNat + unitsPerSecond
  reported (handlers : List U32) : ∃ reported,
    timerDriverGetTimerPeriod
        (afterHandlers (timerDriverSetTimerPeriod d period).2 handlers) true =
      (.success, some reported) ∧
    Takes reported ((timerDriverSetTimerPeriod d period).2.dgt .matchVal).toNat
  notified (handlers : List U32) : ∀ call ∈
    timerInterruptHandler (afterHandlers (timerDriverSetTimerPeriod d period).2 handlers),
    Takes call.2 ((timerDriverSetTimerPeriod d period).2.dgt .matchVal).toNat

theorem dgtMatch_toNat (period : U64) :
    (dgtMatch period).toNat = period.toNat / 10000 * 4800 := by
  have below := period.isLt
  have whole : (10000 : U64).toNat = 10000 := rfl
  have rate : (DGT_HZ / 1000).toNat = 4800 := rfl
  rw [dgtMatch, BitVec.toNat_mul, BitVec.toNat_udiv, whole, rate]
  omega

section Set

variable (d : TimerDriver) {period : U64}

theorem matchVal_set (asked : period ≠ 0) :
    (timerDriverSetTimerPeriod d period).2.dgt .matchVal = (dgtMatch period).setWidth 32 := by
  rw [timerDriverSetTimerPeriod, if_neg asked]
  rfl

theorem timerPeriod_set : (timerDriverSetTimerPeriod d period).2.timerPeriod = period := by
  rw [timerDriverSetTimerPeriod]
  split <;> rfl

theorem timerPeriod_afterHandlers (handlers : List U32) :
    (afterHandlers d handlers).timerPeriod = d.timerPeriod := by
  induction handlers generalizing d with
  | nil => rfl
  | cons notifyFunction rest ih =>
      have kept : (timerDriverRegisterHandler d notifyFunction).2.timerPeriod =
          d.timerPeriod := by
        simp only [timerDriverRegisterHandler]
        split
        · rfl
        · split <;> rfl
      rw [afterHandlers, List.foldl_cons, ← kept]
      exact ih _

/-- The period asked for is programmed exactly when it is whole milliseconds, and not too
many for the match register. -/
theorem asAsked_iff (asked : period ≠ 0) :
    AsAsked d period ↔ 10000 ∣ period.toNat ∧ period.toNat ≤ 8947840000 := by
  have value := dgtMatch_toNat period
  have low : ((timerDriverSetTimerPeriod d period).2.dgt .matchVal).toNat =
      (dgtMatch period).toNat % 2 ^ 32 := by
    rw [matchVal_set d asked, BitVec.toNat_setWidth]
  have rate : DGT_HZ.toNat = 4800000 := rfl
  constructor
  · rintro ⟨fits, enough, -, -, -⟩
    rw [low, Nat.mod_eq_of_lt fits, value, rate, unitsPerSecond] at enough
    omega
  · rintro ⟨whole, few⟩
    have takes : Takes period
        ((timerDriverSetTimerPeriod d period).2.dgt .matchVal).toNat := by
      rw [Takes, low, rate, unitsPerSecond]
      omega
    have remembered (handlers : List U32) :
        (afterHandlers (timerDriverSetTimerPeriod d period).2 handlers).timerPeriod =
          period := by
      rw [timerPeriod_afterHandlers, timerPeriod_set]
    refine ⟨by omega, Nat.le_of_eq takes, ?_, fun handlers => ⟨period, ?_, takes⟩,
      fun handlers call notified => ?_⟩
    · rw [← takes, unitsPerSecond]
      omega
    · rw [timerDriverGetTimerPeriod, if_pos rfl, remembered]
    · rw [timerInterruptHandler, remembered, Option.mem_def,
        Option.ite_none_right_eq_some] at notified
      rw [← Option.some.inj notified.2]
      exact takes

end Set

/-- Nothing is programmed, registered or enabled yet. -/
def idleDriver : TimerDriver := ⟨0, 0, 8, fun _ => 0, ⟨fun _ => 0, fun _ => 0⟩⟩

/-- The period that the driver starts with. -/
theorem asAsked_iff_default :
    AsAsked idleDriver 10000 ↔ 10000 ∣ (10000 : U64).toNat ∧ (10000 : U64).toNat ≤ 8947840000 :=
  asAsked_iff idleDriver (by decide)

/-- A period of 1.5 milliseconds is programmed as one. -/
theorem period_rounded_down :
    ¬ ∀ (d : TimerDriver) (period : U64), period ≠ 0 →
      (timerDriverSetTimerPeriod d period).1 = .success → AsAsked d period := by
  intro claimed
  have enough := (claimed idleDriver 15000 (by decide) (by decide)).enough
  revert enough
  decide

end HtcLeo.Timer
