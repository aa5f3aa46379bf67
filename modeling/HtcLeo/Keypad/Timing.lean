import HtcLeo.Keypad.Delivery
import HtcLeo.Timer.Gpt

/-!
# The time between two polls

Every poll reads the performance counter and gives `GetKeys` the time since the last
poll.  The readings are widened before they are subtracted, so that the difference is
wrong by `2 ^ 64 - 2 ^ 32` ticks at every poll before which the counter wrapped.
-/

namespace HtcLeo.Keypad

open Timer Transition

/-! ## The handler -/

/-- What polling uses of `KEYPAD_CONSOLE_IN_DEV`; `last` is the counter value of the last
poll. -/
structure ConsoleInDev where
  consoleIn : ConsoleIn
  keypadErr : Bool
  last : U64

/-- The time that `GetKeys` is given, when the counter reads `countVal`. -/
def ConsoleInDev.delta (dev : ConsoleInDev) (countVal : U32) : U64 :=
  getTimeInNanoSecond (getPerformanceCounter countVal - dev.last)

/-- `getKeys` are the keys that the device pushes when it is given a time. -/
def keypadTimerHandler (dev : ConsoleInDev) (countVal : U32)
    (getKeys : U64 → List EfiKeyData) : ConsoleInDev :=
  if dev.keypadErr then dev
  else
    { dev with
      consoleIn :=
        (getKeys (dev.delta countVal)).foldl keypadReturnApiPushEfikeyBufTail dev.consoleIn
      last := getPerformanceCounter countVal }

/-- What `KeypadControllerDriverStart` sets. -/
def startedDev (consoleIn : ConsoleIn) : ConsoleInDev := ⟨consoleIn, false, -1⟩

section Handler

variable {dev : ConsoleInDev} (countVal : U32) (getKeys : U64 → List EfiKeyData)

@[simp]
theorem keypadTimerHandler_keypadErr :
    (keypadTimerHandler dev countVal getKeys).keypadErr = dev.keypadErr := by
  unfold keypadTimerHandler
  split <;> rfl

theorem keypadTimerHandler_last (works : dev.keypadErr = false) :
    (keypadTimerHandler dev countVal getKeys).last = getPerformanceCounter countVal := by
  simp [keypadTimerHandler, works]

end Handler

/-! ## Sequences of polls -/

/-- The device after a poll, and how many ticks the counter had made by then. -/
structure Polling where
  dev : ConsoleInDev
  ticks : Nat

/-- A poll: the ticks since the last one, fewer than one period of the counter, and what
the device pushes. -/
structure TimedPoll where
  gap : U32
  getKeys : U64 → List EfiKeyData

/-- How many ticks the counter has made at the next poll. -/
def Polling.next (polling : Polling) (poll : TimedPoll) : Nat :=
  polling.ticks + poll.gap.toNat

/-- One poll at the time that it reads. -/
def Polling.perform (polling : Polling) (poll : TimedPoll) : Polling where
  dev := keypadTimerHandler polling.dev (readingAt (polling.next poll)) poll.getKeys
  ticks := polling.next poll

/-- After the first poll. -/
def Polling.first (consoleIn : ConsoleIn) (ticks : Nat) (getKeys : U64 → List EfiKeyData) :
    Polling where
  dev := keypadTimerHandler (startedDev consoleIn) (readingAt ticks) getKeys
  ticks := ticks

/-- `GetKeys` is given the nanoseconds since the last poll, and no product of the
conversion overflows. -/
def TimesGap (step : Step Polling TimedPoll) : Prop :=
  (step.before.dev.delta (readingAt (step.before.next step.label))).toNat =
      nanoSeconds step.label.gap.toNat ∧
    ProductsFit (getPerformanceCounter (readingAt (step.before.next step.label)) -
      step.before.dev.last)

/-- The counter does not wrap between the two polls. -/
def Unwrapped (step : Step Polling TimedPoll) : Prop :=
  step.before.ticks % 2 ^ 32 + step.label.gap.toNat < 2 ^ 32

/-- The last reading is remembered. -/
structure Polling.Remembers (polling : Polling) : Prop where
  works : polling.dev.keypadErr = false
  last : polling.dev.last = getPerformanceCounter (readingAt polling.ticks)

section Poll

variable {polling : Polling} {poll : TimedPoll}

theorem Polling.first_remembers (consoleIn : ConsoleIn) (ticks : Nat)
    (getKeys : U64 → List EfiKeyData) : (Polling.first consoleIn ticks getKeys).Remembers := by
  constructor
  · exact keypadTimerHandler_keypadErr _ _
  · exact keypadTimerHandler_last _ _ rfl

theorem Polling.Remembers.perform (remembers : polling.Remembers) (poll : TimedPoll) :
    (polling.perform poll).Remembers := by
  constructor
  · exact (keypadTimerHandler_keypadErr _ _).trans remembers.works
  · exact keypadTimerHandler_last _ _ remembers.works

theorem Polling.Remembers.timesGap_iff (remembers : polling.Remembers) :
    TimesGap ⟨polling, poll, polling.perform poll⟩ ↔
      Unwrapped ⟨polling, poll, polling.perform poll⟩ := by
  have small := poll.gap.isLt
  have difference := counterDifference_toNat polling.ticks small
  simp only [TimesGap, Unwrapped, ConsoleInDev.delta, remembers.last]
  change (getTimeInNanoSecond (counterDifference polling.ticks (polling.next poll))).toNat = _ ∧
    ProductsFit (counterDifference polling.ticks (polling.next poll)) ↔ _
  rw [Polling.next]
  by_cases unwrapped : polling.ticks % 2 ^ 32 + poll.gap.toNat < 2 ^ 32
  · rw [if_pos unwrapped] at difference
    obtain ⟨fit, exact_⟩ := getTimeInNanoSecond_of_lt (lt_of_eq_of_lt difference small)
    rw [difference] at exact_
    exact iff_of_true ⟨exact_, fit⟩ unwrapped
  · rw [if_neg unwrapped] at difference
    have wrong := getTimeInNanoSecond_of_wrapped small difference
    exact iff_of_false (fun right => wrong.2 right.1) unwrapped

end Poll

/-- Along any sequence of polls that are less than one period apart, `GetKeys` is given
the time since the last poll exactly when the counter wraps between no two polls. -/
theorem gaps_timed_iff (consoleIn : ConsoleIn) (ticks : Nat) (getKeys : U64 → List EfiKeyData)
    (polls : List TimedPoll) :
    (∀ step ∈ trace Polling.perform (.first consoleIn ticks getKeys) polls, TimesGap step) ↔
      ∀ step ∈ trace Polling.perform (.first consoleIn ticks getKeys) polls, Unwrapped step := by
  apply (run_trace_self Polling.perform _ polls).forall_iff (I := Polling.Remembers)
  · exact Polling.first_remembers consoleIn ticks getKeys
  · rintro before poll _ remembers rfl
    exact remembers.timesGap_iff
  · rintro before poll _ remembers rfl -
    exact remembers.perform poll

/-- The counter wraps in the 20 ms between two polls. -/
theorem wrapped_gap_mistimed :
    ∃ step ∈ trace Polling.perform (.first idleConsole.consoleIn (2 ^ 32 - 1) fun _ => [])
      [⟨655, fun _ => []⟩], ¬ TimesGap step := by
  refine ⟨_, .head _, fun timed => ?_⟩
  have unwrapped := (Polling.first_remembers idleConsole.consoleIn _ _).timesGap_iff.mp timed
  exact absurd unwrapped (by unfold Unwrapped; decide)

end HtcLeo.Keypad
