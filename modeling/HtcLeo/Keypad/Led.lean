import Mathlib.Algebra.GroupWithZero.Nat
import HtcLeo.Keypad.Keys
import HtcLeo.Transition.Run

/-!
# The light behind the keys

Every time a poll finds a key pressed, `EnableKeypadLedWithTimer` switches the light on,
creates an event and arms its timer; the callback switches the light off.  The timer that
ran before is cancelled, but its event is never closed.
-/

namespace HtcLeo.Keypad

open Transition

/-! ## The light and its timers -/

/-- The timer of an event: not set, set, or expired, with its callback still to come. -/
inductive EventTimer where
  | idle
  | armed
  | expired
  deriving DecidableEq, Repr

/-- The events in the order in which they were created; none is ever closed. -/
structure Led where
  on : Bool
  timerRunning : Bool
  m_CallbackTimer : Option Nat
  events : List EventTimer
  deriving DecidableEq, Repr

/-- The backlight before the first key. -/
def Led.initial : Led := ⟨false, false, none, []⟩

/-- `TimerCancel`; a callback that is to come is not called off. -/
def EventTimer.cancel : EventTimer → EventTimer
  | .armed => .idle
  | other => other

/-- Cancel the timer of the last event. -/
def Led.cancelTimer (led : Led) : Led :=
  match led.m_CallbackTimer with
  | none => led
  | some event => { led with events := led.events.modify event EventTimer.cancel }

/-- `EnableKeypadLedWithTimer`. -/
def enableKeypadLedWithTimer (led : Led) : Led :=
  let cancelled := if led.timerRunning then led.cancelTimer else led
  { on := true
    timerRunning := true
    m_CallbackTimer := some cancelled.events.length
    events := cancelled.events ++ [.armed] }

/-- The two volume keys. -/
def Key.isVolumeKey : Key → Bool
  | .volumeUp | .volumeDown => true
  | _ => false

/-- The key is pressed and switches the light on. -/
def Poll.lights (poll : Poll) (key : Key) : Bool :=
  poll.pressed key && !key.isVolumeKey

/-- What the turn of one key does to the light. -/
def Led.turn (poll : Poll) (led : Led) (key : Key) : Led :=
  if poll.lights key then enableKeypadLedWithTimer led else led

/-- What `KeypadDeviceImplGetKeys` does to the light. -/
def Led.getKeys (led : Led) (poll : Poll) : Led :=
  keyList.foldl (Led.turn poll) led

/-- The timer of an event runs out. -/
def Led.expire (led : Led) (event : Nat) : Led :=
  if led.events[event]? = some .armed then { led with events := led.events.set event .expired }
  else led

/-- The callback of an event whose timer has run out. -/
def disableKeyPadLed (led : Led) (event : Nat) : Led :=
  if led.events[event]? = some .expired then
    { led with on := false, timerRunning := false, events := led.events.set event .idle }
  else led

/-! ## Runs -/

/-- What can happen to the backlight and its timer. -/
inductive LedLabel where
  | poll (poll : Poll)
  | expire (event : Nat)
  | callback (event : Nat)

/-- The backlight after one label. -/
def Led.perform (led : Led) : LedLabel → Led
  | .poll poll => led.getKeys poll
  | .expire event => led.expire event
  | .callback event => disableKeyPadLed led event

/-- At most one event is open, and as long as the light is on, the callback of exactly one
is to come. -/
structure Led.Tidy (led : Led) : Prop where
  events : led.events.length ≤ 1
  on : led.on = true → (led.events.filter fun timer => timer ≠ EventTimer.idle).length = 1

/-- How many keys a poll finds pressed that switch the light on. -/
def LedLabel.sightings : LedLabel → Nat
  | .poll keys => (keyList.filter keys.lights).length
  | _ => 0

/-- As long as the light is on, some callback is to come that switches it off. -/
def Led.GoesOut (led : Led) : Prop :=
  led.on = true →
    ∃ (event : Nat) (timer : EventTimer), led.events[event]? = some timer ∧ timer ≠ .idle

section Led

variable (led : Led)

theorem enable_length :
    (enableKeypadLedWithTimer led).events.length = led.events.length + 1 := by
  unfold enableKeypadLedWithTimer Led.cancelTimer
  split
  · split <;> simp
  · simp

theorem enable_goesOut : (enableKeypadLedWithTimer led).GoesOut := by
  intro _
  exact ⟨_, .armed, List.getElem?_concat_length, EventTimer.noConfusion⟩

/-- Every sighting of a key creates an event. -/
theorem foldl_turn_length (poll : Poll) (keys : List Key) :
    (keys.foldl (Led.turn poll) led).events.length =
      led.events.length + (keys.filter poll.lights).length := by
  induction keys generalizing led with
  | nil => rfl
  | cons key rest ih =>
      rw [List.foldl_cons, ih, Led.turn]
      cases lights : poll.lights key with
      | true =>
          rw [if_pos rfl, enable_length, List.filter_cons_of_pos lights, List.length_cons]
          omega
      | false => simp [lights]

theorem foldl_turn_goesOut (poll : Poll) (keys : List Key) (goesOut : led.GoesOut) :
    (keys.foldl (Led.turn poll) led).GoesOut := by
  induction keys generalizing led with
  | nil => exact goesOut
  | cons key rest ih =>
      apply ih
      rw [Led.turn]
      split
      · exact enable_goesOut led
      · exact goesOut

theorem Led.perform_length (label : LedLabel) :
    (led.perform label).events.length = led.events.length + label.sightings := by
  cases label with
  | poll poll => exact foldl_turn_length led poll keyList
  | expire event =>
      simp only [Led.perform, Led.expire]
      split <;> simp [LedLabel.sightings]
  | callback event =>
      simp only [Led.perform, disableKeyPadLed]
      split <;> simp [LedLabel.sightings]

theorem Led.GoesOut.perform {led : Led} (goesOut : led.GoesOut) (label : LedLabel) :
    (led.perform label).GoesOut := by
  cases label with
  | poll poll => exact foldl_turn_goesOut led poll keyList goesOut
  | expire expired =>
      simp only [Led.perform, Led.expire]
      split
      · rename_i armed
        intro on
        obtain ⟨event, timer, found, due⟩ := goesOut on
        by_cases same : expired = event
        · subst same
          have inside := (List.getElem?_eq_some_iff.mp found).1
          exact ⟨expired, .expired, List.getElem?_set_self inside, EventTimer.noConfusion⟩
        · exact ⟨event, timer, by rw [List.getElem?_set_ne same, found], due⟩
      · exact goesOut
  | callback event =>
      simp only [Led.perform, disableKeyPadLed]
      split
      · intro on
        exact absurd on Bool.false_ne_true
      · exact goesOut

/-- One event is enough for the light to go out, and more than one is too many. -/
theorem Led.GoesOut.tidy_iff {led : Led} (goesOut : led.GoesOut) :
    led.Tidy ↔ led.events.length ≤ 1 := by
  constructor
  · exact Led.Tidy.events
  · refine fun few => ⟨few, fun on => ?_⟩
    obtain ⟨event, timer, found, due⟩ := goesOut on
    have member : timer ∈ led.events.filter fun timer => timer ≠ EventTimer.idle :=
      List.mem_filter.mpr ⟨List.mem_of_getElem? found, by simpa using due⟩
    have some_ := List.length_pos_of_mem member
    have most := List.length_filter_le (fun timer => timer ≠ EventTimer.idle) led.events
    omega

end Led

/-- The light stays tidy exactly as long as no second event is created. -/
theorem Led.tidy_iff_of_few {led : Led} (goesOut : led.GoesOut) (few : led.events.length ≤ 1)
    (labels : List LedLabel) :
    (∀ step ∈ trace Led.perform led labels, step.after.Tidy) ↔
      led.events.length + (labels.map LedLabel.sightings).sum ≤ 1 := by
  induction labels generalizing led with
  | nil => simp [trace, few]
  | cons label rest ih =>
      have goesOutAfter := goesOut.perform label
      have length := led.perform_length label
      rw [trace, List.forall_mem_cons, goesOutAfter.tidy_iff, List.map_cons, List.sum_cons]
      by_cases fewAfter : (led.perform label).events.length ≤ 1
      · rw [ih goesOutAfter fewAfter, and_iff_right fewAfter, length, Nat.add_assoc]
      · apply iff_of_false
        · exact fun tidy => fewAfter tidy.1
        · omega

/-- In a run of polls and callbacks the light is tidy throughout exactly if the polls find,
all in all, at most one key pressed that switches it on. -/
theorem led_timers_tidy_iff (labels : List LedLabel) :
    (∀ step ∈ trace Led.perform .initial labels, step.after.Tidy) ↔
      (labels.map LedLabel.sightings).sum ≤ 1 := by
  have none : Led.initial.events.length + (labels.map LedLabel.sightings).sum =
      (labels.map LedLabel.sightings).sum := Nat.zero_add _
  have dark : Led.initial.GoesOut := by
    intro on
    exact absurd on Bool.false_ne_true
  rw [Led.tidy_iff_of_few dark (by decide), none]

/-- The home key is held for two polls. -/
theorem held_key_leaks_event :
    ∃ step ∈ trace Led.perform .initial
      [.poll ⟨(· == .home), 0⟩, .poll ⟨(· == .home), 0⟩], ¬ step.after.Tidy := by
  refine ⟨_, .tail _ (.head _), fun tidy => ?_⟩
  have events := tidy.events
  revert events
  decide

end HtcLeo.Keypad
