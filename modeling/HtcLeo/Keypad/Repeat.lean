import HtcLeo.Keypad.Hold
import HtcLeo.Transition.Run

/-!
# When a held key is reported

A hold is the time that has passed since the press was seen or, once the key was
reported, since the last report.  It says when the key is due; the context of the key
follows it as long as the time does not wrap and the first report is not mistaken for
a combo.
-/

namespace HtcLeo.Keypad

open Transition

/-! ## Holds -/

/-- A key that is not held since its press was seen, one that waits for its first report,
and one that repeats; with the time in nanoseconds. -/
inductive Hold where
  | none
  | waiting (time : Nat)
  | repeating (time : Nat)
  deriving DecidableEq, Repr

/-- The time after which the first report is due. -/
def firstReport : Nat := 500000000

/-- The time after which every other report is due. -/
def nextReport : Nat := 200000000

/-- How long the key has been in its phase. -/
def Hold.time : Hold → Nat
  | .none => 0
  | .waiting time | .repeating time => time

/-- The key is due at a poll that finds it pressed `delta` nanoseconds later. -/
def Hold.due (hold : Hold) (delta : Nat) : Bool :=
  match hold with
  | .none => false
  | .waiting time => firstReport ≤ time + delta
  | .repeating time => nextReport ≤ time + delta

/-- The hold after a poll. -/
def Hold.next (hold : Hold) (state : KeyState) (pressed : Bool) (delta : Nat) : Hold :=
  if pressed = false then .none
  else
    match hold with
    | .none => if state = .released then .waiting 0 else .none
    | .waiting time => if hold.due delta then .repeating 0 else .waiting (time + delta)
    | .repeating time => if hold.due delta then .repeating 0 else .repeating (time + delta)

/-- What a hold says about the context of its key. -/
def Hold.Matches (context : KeyContext) : Hold → Prop
  | .none => context.state = .released → context.repeats = false ∧ context.longpress = false
  | .waiting time => context.state = .pressed ∧ context.repeats = false ∧
      context.longpress = false ∧ context.time.toNat = time ∧ time < firstReport
  | .repeating time => context.state = .pressed ∧ context.repeats = true ∧
      context.time.toNat = time ∧ time < nextReport

/-- The time does not wrap, and a first report finds no dial key. -/
def Hold.Clear (hold : Hold) (delta : Nat) (dial : Bool) : Prop :=
  (hold ≠ .none → hold.time + delta < 2 ^ 64) ∧
    ∀ time, hold = .waiting time → firstReport ≤ time + delta → dial = false

section Next

variable {state : KeyState} {time delta : Nat}

theorem Hold.clear_waiting {dial : Bool} : (Hold.waiting time).Clear delta dial ↔
    time + delta < 2 ^ 64 ∧ (firstReport ≤ time + delta → dial = false) := by
  constructor
  · exact fun clear => ⟨clear.1 Hold.noConfusion, clear.2 time rfl⟩
  · rintro ⟨fits, undialled⟩
    exact ⟨fun _ => fits, fun _ same => by cases same; exact undialled⟩

theorem Hold.clear_repeating {dial : Bool} : (Hold.repeating time).Clear delta dial ↔
    time + delta < 2 ^ 64 :=
  ⟨fun clear => clear.1 Hold.noConfusion, fun fits => ⟨fun _ => fits, fun _ => Hold.noConfusion⟩⟩

theorem Hold.next_none : Hold.next .none state true delta =
    if state = .released then .waiting 0 else .none :=
  rfl

theorem Hold.next_waiting : Hold.next (.waiting time) state true delta =
    if firstReport ≤ time + delta then .repeating 0 else .waiting (time + delta) := by
  simp [Hold.next, Hold.due]

theorem Hold.next_repeating : Hold.next (.repeating time) state true delta =
    if nextReport ≤ time + delta then .repeating 0 else .repeating (time + delta) := by
  simp [Hold.next, Hold.due]

end Next

theorem MS2NS_le_iff (ms time : U64) (small : ms.toNat < 1000) :
    MS2NS ms ≤ time ↔ ms.toNat * 1000000 ≤ time.toNat := by
  have million : (1000000 : U64).toNat = 1000000 := rfl
  rw [BitVec.le_def, MS2NS, BitVec.toNat_mul, million, Nat.mod_eq_of_lt (by omega)]

section Key

variable {context : KeyContext} {bitmaps : Bitmaps} {hold : Hold} {delta : U64}

/-- The time is added up, or it wraps and is less than before. -/
theorem KeyContext.later_time (context : KeyContext) (delta : U64) :
    context.time.toNat + delta.toNat < 2 ^ 64 ∧
        (context.later delta).time.toNat = context.time.toNat + delta.toNat ∨
      2 ^ 64 ≤ context.time.toNat + delta.toNat ∧
        (context.later delta).time.toNat < context.time.toNat := by
  have sum : (context.later delta).time.toNat =
      (context.time.toNat + delta.toNat) % 2 ^ 64 := BitVec.toNat_add _ _
  have below := delta.isLt
  have timeBelow := context.time.isLt
  by_cases fits : context.time.toNat + delta.toNat < 2 ^ 64
  · rw [Nat.mod_eq_of_lt fits] at sum
    exact .inl ⟨fits, sum⟩
  · rw [Nat.mod_eq_sub_mod (by omega), Nat.mod_eq_of_lt (by omega)] at sum
    exact .inr ⟨by omega, by omega⟩

/-- A key that waits for its first report. -/
theorem KeyContext.advance_of_waiting (context : KeyContext) (state : context.state = .pressed)
    (first : context.repeats = false ∧ context.longpress = false)
    (plain : context.keyData.key.unicodeChar ≠ CHAR_CARRIAGE_RETURN) :
    context.advance bitmaps true =
      if firstReport ≤ context.time.toNat then
        if keyGetState bitmaps 0 CHAR_CARRIAGE_RETURN = false then
          ({ context with time := 0, repeats := true, longpress := true }, [context.keyData])
        else ({ context with longpress := true }, [])
      else (context, []) := by
  have limit : MS2NS 500 ≤ context.time ↔ firstReport ≤ context.time.toNat :=
    MS2NS_le_iff 500 context.time (by decide)
  simp only [advance, state, hold, first, limit, plain, Bool.false_eq_true, false_and, true_and,
    if_false]

/-- A key that repeats. -/
theorem KeyContext.advance_of_repeating (context : KeyContext) (bitmaps : Bitmaps)
    (state : context.state = .pressed) (again : context.repeats = true) :
    nextReport ≤ context.time.toNat ∧
        context.advance bitmaps true = ({ context with time := 0 }, [context.keyData]) ∨
      context.time.toNat < nextReport ∧ context.advance bitmaps true = (context, []) := by
  have limit : MS2NS 200 ≤ context.time ↔ nextReport ≤ context.time.toNat :=
    MS2NS_le_iff 200 context.time (by decide)
  have larger : MS2NS 500 ≤ context.time ↔ firstReport ≤ context.time.toNat :=
    MS2NS_le_iff 500 context.time (by decide)
  by_cases due : nextReport ≤ context.time.toNat
  · left
    simp only [advance, state, hold, again, limit, due, and_self, if_true]
  · right
    have early : ¬ firstReport ≤ context.time.toNat := by
      unfold firstReport nextReport at *
      omega
    simp only [advance, state, hold, limit, larger, due, early, and_false, if_false, and_true]
    omega

/-- A held key is reported as its hold says exactly when nothing is in the way. -/
theorem Hold.Matches.count_iff (matched : hold.Matches context) (delta : U64)
    (bitmaps : Bitmaps)
    (plain : context.keyData.key.unicodeChar ≠ CHAR_CARRIAGE_RETURN)
    (noticed : hold ≠ .none ∨ context.state = .released) :
    ((context.later delta).advance bitmaps true).2.count context.keyData =
        (if hold.due delta.toNat then 1 else 0) ↔
      hold.Clear delta.toNat (keyGetState bitmaps 0 CHAR_CARRIAGE_RETURN) := by
  cases hold with
  | none =>
      have state : context.state = .released :=
        noticed.resolve_left fun none => none rfl
      simp [Hold.Clear, Hold.due, KeyContext.advance, state]
  | waiting time =>
      rcases matched with ⟨state, repeats, longpress, rfl, early⟩
      rw [(context.later delta).advance_of_waiting state
        ⟨repeats, longpress⟩ plain]
      rcases context.later_time delta with ⟨fits, sum⟩ | ⟨wraps, less⟩
      · rw [sum, Hold.clear_waiting, and_iff_right fits]
        by_cases due : firstReport ≤ context.time.toNat + delta.toNat
        · cases dial : keyGetState bitmaps 0 CHAR_CARRIAGE_RETURN <;> simp [Hold.due, due]
        · simp [Hold.due, due]
      · have due : firstReport ≤ context.time.toNat + delta.toNat := by
          unfold firstReport
          omega
        have unnoticed : ¬ firstReport ≤ (context.later delta).time.toNat := by omega
        rw [Hold.clear_waiting, iff_false_right fun clear => Nat.not_lt.mpr wraps clear.1]
        simp [Hold.due, due, unnoticed]
  | repeating time =>
      rcases matched with ⟨state, repeats, rfl, early⟩
      rw [Hold.clear_repeating]
      rcases context.later_time delta with ⟨fits, sum⟩ | ⟨wraps, less⟩
      · rw [iff_true_right fits]
        rcases (context.later delta).advance_of_repeating bitmaps state repeats with
          ⟨due, advanced⟩ | ⟨notDue, advanced⟩
        · rw [sum] at due
          simp [Hold.due, advanced, due]
        · rw [sum] at notDue
          simp [Hold.due, advanced, Nat.not_le.mpr notDue]
      · have due : nextReport ≤ context.time.toNat + delta.toNat := by
          unfold nextReport
          omega
        rcases (context.later delta).advance_of_repeating bitmaps state repeats with
          ⟨noticed, -⟩ | ⟨-, advanced⟩
        · omega
        · rw [iff_false_right (Nat.not_lt.mpr wraps)]
          simp [Hold.due, advanced, due]

theorem KeyContext.hold_state : (context.hold bitmaps).1.state = context.state := by
  unfold hold
  repeat' split
  all_goals rfl

/-- A key that is up, or that went down before its release was over, is not held. -/
theorem KeyContext.advance_unheld {pressed : Bool}
    (quiet : context.state = .released → context.repeats = false ∧ context.longpress = false)
    (unheld : pressed = false ∨ context.state ≠ .released) :
    Hold.none.Matches (context.advance bitmaps pressed).1 := by
  intro released
  cases state : context.state with
  | released =>
      have up : pressed = false := unheld.resolve_right fun other => other state
      subst up
      simp only [KeyContext.advance, state]
      exact quiet state
  | pressed =>
      cases pressed with
      | true =>
          simp only [KeyContext.advance, state] at released
          exact absurd released (by simp [KeyContext.hold_state, state])
      | false =>
          simp only [KeyContext.advance, state, KeyContext.letGo] at released ⊢
          split at released
          · exact absurd released KeyState.noConfusion
          · split at released
            · rw [if_neg ‹_›, if_pos ‹_›]
              exact ⟨rfl, rfl⟩
            · exact absurd (state.symm.trans released) KeyState.noConfusion
  | longpressRelease =>
      simp only [KeyContext.advance, state]
      exact ⟨rfl, rfl⟩

/-- The context goes on to follow the hold if nothing is in the way. -/
theorem Hold.Matches.next (matched : hold.Matches context)
    (plain : context.keyData.key.unicodeChar ≠ CHAR_CARRIAGE_RETURN) {pressed : Bool}
    (clear : pressed = true →
      hold.Clear delta.toNat (keyGetState bitmaps 0 CHAR_CARRIAGE_RETURN)) :
    (hold.next context.state pressed delta.toNat).Matches
      ((context.later delta).advance bitmaps pressed).1 := by
  have quiet : (context.later delta).state = .released →
      (context.later delta).repeats = false ∧ (context.later delta).longpress = false := by
    intro released
    cases hold with
    | none => exact matched released
    | waiting time => exact absurd (matched.1.symm.trans released) KeyState.noConfusion
    | repeating time => exact absurd (matched.1.symm.trans released) KeyState.noConfusion
  cases pressed with
  | false => exact KeyContext.advance_unheld quiet (.inl rfl)
  | true =>
      replace clear := clear rfl
      cases hold with
      | none =>
          rw [Hold.next_none]
          split
          · rename_i released
            rcases matched released with ⟨repeats, longpress⟩
            simp only [KeyContext.advance, KeyContext.later_state, released]
            exact ⟨rfl, repeats, longpress, rfl, by decide⟩
          · rename_i unreleased
            exact KeyContext.advance_unheld quiet (.inr unreleased)
      | waiting time =>
          rcases matched with ⟨state, repeats, longpress, rfl, early⟩
          have dial := clear.2 _ rfl
          rcases context.later_time delta with ⟨-, sum⟩ | ⟨wraps, -⟩
          · rw [(context.later delta).advance_of_waiting state
              ⟨repeats, longpress⟩ plain, sum, Hold.next_waiting]
            by_cases due : firstReport ≤ context.time.toNat + delta.toNat
            · rw [if_pos due, if_pos due, if_pos (dial due)]
              exact ⟨state, rfl, rfl, by decide⟩
            · rw [if_neg due, if_neg due]
              exact ⟨state, repeats, longpress, sum, by omega⟩
          · exact absurd (clear.1 Hold.noConfusion) (Nat.not_lt.mpr wraps)
      | repeating time =>
          rcases matched with ⟨state, repeats, rfl, early⟩
          rcases context.later_time delta with ⟨-, sum⟩ | ⟨wraps, -⟩
          · rw [Hold.next_repeating, ← sum]
            rcases (context.later delta).advance_of_repeating bitmaps state repeats with
              ⟨due, advanced⟩ | ⟨notDue, advanced⟩
            · rw [if_pos due, advanced]
              exact ⟨state, repeats, rfl, by decide⟩
            · rw [if_neg (Nat.not_le.mpr notDue), advanced]
              exact ⟨state, repeats, rfl, notDue⟩
          · exact absurd (clear.1 Hold.noConfusion) (Nat.not_lt.mpr wraps)

end Key

/-! ## Polls -/

/-- The keys, and how long each has been held. -/
structure Holding where
  keys : Keys
  holds : Key → Hold

/-- The keys and their phases after a poll. -/
def Holding.poll (holding : Holding) (poll : Poll) : Holding where
  keys := (keypadDeviceImplGetKeys holding.keys poll).1
  holds key := (holding.holds key).next (holding.keys.contexts key).state (poll.pressed key)
    poll.delta.toNat

/-- A poll that finds the dial key up. -/
def Polls (before : Holding) (poll : Poll) (after : Holding) : Prop :=
  poll.pressed .dial = false ∧ after = before.poll poll

/-- Each key that is held, or whose press is seen now, is pushed once if it is due, and
not pushed otherwise. -/
def ReportsHeld (step : Step Holding Poll) : Prop :=
  ∀ key ≠ .dial, step.label.pressed key = true →
    step.before.holds key ≠ .none ∨ (step.before.keys.contexts key).state = .released →
      (keypadDeviceImplGetKeys step.before.keys step.label).2.count key.data =
        if (step.before.holds key).due step.label.delta.toNat then 1 else 0

/-- A key that finds a bit set where it looks for the dial key. -/
def Poll.Disturbs (poll : Poll) (key : Key) : Prop :=
  key = .back ∨ key = .windows ∨ key = .home ∧ poll.pressed .windows = true

/-- No time of a held key wraps, and no first report of a key is due that is the back
key, the windows key, or the home key while the windows key is down. -/
def Undisturbed (step : Step Holding Poll) : Prop :=
  ∀ key ≠ .dial, step.label.pressed key = true →
    (step.before.holds key ≠ .none →
      (step.before.holds key).time + step.label.delta.toNat < 2 ^ 64) ∧
    ∀ time, step.before.holds key = .waiting time →
      firstReport ≤ time + step.label.delta.toNat → ¬ step.label.Disturbs key

/-- What every poll keeps: the contexts follow the holds, and while a key is held the bit
of the dial key is that of the last poll. -/
structure Holding.Follows (holding : Holding) : Prop where
  known : holding.keys.Known
  dial : (∃ key, holding.holds key ≠ .none) →
    holding.keys.bitmaps.unicodeChars.test 0 = false
  matched : ∀ key ≠ .dial, (holding.holds key).Matches (holding.keys.contexts key)

theorem Key.data_plain {key : Key} (other : key ≠ .dial) :
    key.data.key.unicodeChar ≠ CHAR_CARRIAGE_RETURN := by
  cases key <;> first | decide | exact absurd rfl other

/-- A key that is held and due for the first time sees the dial key when it is
disturbed. -/
theorem Poll.seen_iff {poll : Poll} {key : Key} (other : key ≠ .dial)
    (pressed : poll.pressed key = true) : poll.seen false key = false ↔ ¬ poll.Disturbs key := by
  cases key <;> simp_all [Poll.seen, Poll.Disturbs]

section Follows

variable {holding : Holding} {poll : Poll}

/-- One key finds nothing in the way exactly when it is undisturbed. -/
theorem Holding.Follows.clear_iff (follows : holding.Follows) {key : Key} (other : key ≠ .dial)
    (pressed : poll.pressed key = true) :
    (holding.holds key).Clear poll.delta.toNat
        (poll.seen (holding.keys.bitmaps.unicodeChars.test 0) key) ↔
      (holding.holds key ≠ .none →
          (holding.holds key).time + poll.delta.toNat < 2 ^ 64) ∧
        ∀ time, holding.holds key = .waiting time →
          firstReport ≤ time + poll.delta.toNat → ¬ poll.Disturbs key := by
  apply and_congr_right
  rintro -
  apply forall_congr'
  intro time
  apply imp_congr_right
  intro waiting
  have bit := follows.dial ⟨key, waiting ▸ Hold.noConfusion⟩
  rw [bit, Poll.seen_iff other pressed]

theorem Holding.Follows.reportsHeld_iff (follows : holding.Follows)
    (undialled : poll.pressed .dial = false) :
    ReportsHeld ⟨holding, poll, holding.poll poll⟩ ↔
      Undisturbed ⟨holding, poll, holding.poll poll⟩ := by
  apply forall_congr'
  intro key
  apply imp_congr_right
  intro other
  apply imp_congr_right
  intro pressed
  rw [← follows.clear_iff other pressed]
  by_cases noticed : holding.holds key ≠ .none ∨
      (holding.keys.contexts key).state = .released
  · rcases follows.known.getKeys undialled key with ⟨bitmaps, seen, -, count_eq⟩
    have plain : (holding.keys.contexts key).keyData.key.unicodeChar ≠ CHAR_CARRIAGE_RETURN := by
      rw [follows.known.data]
      exact Key.data_plain other
    have reported := (follows.matched key other).count_iff poll.delta bitmaps plain noticed
    rw [follows.known.data, seen] at reported
    rw [← reported, count_eq, pressed]
    exact ⟨fun counts => counts noticed, fun count _ => count⟩
  · rw [not_or, not_not] at noticed
    have clear : (holding.holds key).Clear poll.delta.toNat
        (poll.seen (holding.keys.bitmaps.unicodeChars.test 0) key) := by
      rw [noticed.1]
      exact ⟨fun held => absurd rfl held, fun _ waiting => Hold.noConfusion waiting⟩
    exact ⟨fun _ => clear, fun _ found =>
      absurd found (not_or.mpr ⟨not_not.mpr noticed.1, noticed.2⟩)⟩

theorem Holding.Follows.after (follows : holding.Follows)
    (undialled : poll.pressed .dial = false)
    (undisturbed : Undisturbed ⟨holding, poll, holding.poll poll⟩) :
    (holding.poll poll).Follows := by
  constructor
  · exact follows.known.getKeysFrom undialled keyList
  · exact fun _ => follows.known.getKeys_dial undialled
  · intro key other
    rcases follows.known.getKeys undialled key with ⟨bitmaps, seen, context_eq, -⟩
    simp only [Holding.poll]
    rw [context_eq]
    apply (follows.matched key other).next
    · rw [follows.known.data]
      exact Key.data_plain other
    · intro pressed
      rw [seen]
      exact (follows.clear_iff other pressed).mpr (undisturbed key other pressed)

end Follows

/-- Along any run of polls from a reset in which the dial key stays up, each held key is
reported when it is due, and only then, exactly when every poll leaves it undisturbed. -/
theorem held_keys_reported_iff {keys : Keys} {steps : List (Step Holding Poll)}
    (run : Run Polls ⟨keypadDeviceImplReset keys, fun _ => .none⟩ steps) :
    (∀ step ∈ steps, ReportsHeld step) ↔ ∀ step ∈ steps, Undisturbed step := by
  apply run.forall_iff (I := Holding.Follows)
  · constructor
    · exact ⟨fun _ => rfl, rfl⟩
    · rintro ⟨key, held⟩
      exact absurd rfl held
    · exact fun key _ _ => ⟨rfl, rfl⟩
  · rintro before poll _ follows ⟨undialled, rfl⟩
    exact follows.reportsHeld_iff undialled
  · rintro before poll _ follows ⟨undialled, rfl⟩ reports
    exact follows.after undialled ((follows.reportsHeld_iff undialled).mp reports)

/-! ## A key that repeats and one that does not -/

/-- The keys before their first reset, with clear bitmaps. -/
def unusedKeys : Keys :=
  ⟨fun key => ⟨key.data, 0, .released, false, false⟩, ⟨fun _ => 0, fun _ => 0⟩⟩

/-- The keys after the reset. -/
def resetHolding : Holding := ⟨keypadDeviceImplReset unusedKeys, fun _ => .none⟩

/-- A poll that finds one key down. -/
def pressing (key : Key) (delta : U64) : Poll := ⟨fun other => other == key, delta⟩

/-- One key is pressed and held for half a second. -/
def heldAlone (key : Key) : List (Step Holding Poll) :=
  trace Holding.poll resetHolding [pressing key 20000000, pressing key 500000000]

theorem heldAlone_run {key : Key} (other : key ≠ .dial) :
    Run Polls resetHolding (heldAlone key) := by
  have up : ∀ delta, (pressing key delta).pressed .dial = false :=
    fun _ => beq_false_of_ne other.symm
  apply run_trace
  simp only [trace, List.forall_mem_cons]
  exact ⟨⟨up _, rfl⟩, ⟨up _, rfl⟩, fun _ member => absurd member List.not_mem_nil⟩

theorem held_keys_reported_power :
    Run Polls resetHolding (heldAlone .power) ∧ ∀ step ∈ heldAlone .power, ReportsHeld step := by
  have run : Run Polls resetHolding (heldAlone .power) := heldAlone_run (by decide)
  refine ⟨run, (held_keys_reported_iff run).mpr ?_⟩
  simp only [heldAlone, trace, List.forall_mem_cons]
  refine ⟨?_, ?_, fun _ member => absurd member List.not_mem_nil⟩
  · rintro key - pressed
    exact ⟨fun held => absurd rfl held, fun _ waiting => Hold.noConfusion waiting⟩
  · rintro key - pressed
    cases beq_iff_eq.mp pressed
    exact ⟨fun _ => by decide +kernel, fun _ _ _ => by simp [Poll.Disturbs]⟩

/-- The back key takes itself for the dial key. -/
theorem back_key_unreported :
    Run Polls resetHolding (heldAlone .back) ∧ ∃ step ∈ heldAlone .back, ¬ ReportsHeld step := by
  refine ⟨heldAlone_run (by decide), _, .tail _ (.head _), fun reports => ?_⟩
  have noticed : (resetHolding.poll (pressing .back 20000000)).holds .back ≠ .none := by
    decide +kernel
  exact absurd (reports .back (by decide) rfl (.inl noticed)) (by decide +kernel)

end HtcLeo.Keypad
