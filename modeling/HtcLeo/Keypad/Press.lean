import Mathlib.Algebra.GroupWithZero.Nat
import HtcLeo.Keypad.Repeat

/-!
# Short presses

A key that is let go within 500 ms is reported at the poll that finds it up.  The context
then spends one more poll in `KEYSTATE_LONGPRESS_RELEASE`, whatever that poll finds: a
press of a single poll that falls on it is never seen.  A long press is over only when a poll
finds the key up 10 ms after its last report: a press that comes before is taken for a part of
it, however late it begins, and reported as often as the repeat comes due.
-/

namespace HtcLeo.Keypad

/-! ## Polls of one key -/

/-- What one poll finds for one key; the bitmaps also depend on the other keys. -/
structure KeyPoll where
  bitmaps : Bitmaps
  isPressed : Bool
  delta : U64

/-- The context after a poll, and what is pushed. -/
def KeyContext.poll (context : KeyContext) (poll : KeyPoll) : KeyContext × List EfiKeyData :=
  let updated := libKeyUpdateKeyStatus context poll.bitmaps poll.isPressed poll.delta
  (updated.1, updated.2.2)

/-- The context after a list of polls. -/
def KeyContext.after (context : KeyContext) (polls : List KeyPoll) : KeyContext :=
  polls.foldl (fun context poll => (context.poll poll).1) context

/-- The keys that a list of polls pushes. -/
def KeyContext.pushed (context : KeyContext) : List KeyPoll → List EfiKeyData
  | [] => []
  | poll :: rest => (context.poll poll).2 ++ (context.poll poll).1.pushed rest

/-- `LibKeyInitializeKeyContext`. -/
def libKeyInitializeKeyContext : KeyContext := ⟨plainKey 0 0, 0, .released, false, false⟩

/-- The context of a key after `KeypadDeviceImplReset` has given it its data. -/
def resetContext (keyData : EfiKeyData) : KeyContext :=
  { libKeyInitializeKeyContext with keyData := keyData }

/-- The bitmaps with which the `switch` works. -/
def KeyPoll.marked (poll : KeyPoll) (keyData : EfiKeyData) : Bitmaps :=
  keySetState poll.bitmaps keyData.key.scanCode keyData.key.unicodeChar poll.isPressed

theorem KeyContext.poll_eq (context : KeyContext) (poll : KeyPoll) : context.poll poll =
    (context.later poll.delta).advance (poll.marked context.keyData) poll.isPressed :=
  rfl

/-- A poll of the device polls each key. -/
theorem getKeys_poll (keys : Keys) (poll : Poll) (key : Key) :
    ∃ keyPoll earlier later, keyPoll.isPressed = poll.pressed key ∧
      keyPoll.delta = poll.delta ∧
      (keypadDeviceImplGetKeys keys poll).1.contexts key =
        ((keys.contexts key).poll keyPoll).1 ∧
      (keypadDeviceImplGetKeys keys poll).2 =
        earlier ++ (((keys.contexts key).poll keyPoll).2 ++ later) := by
  obtain ⟨before, after, split, notBefore, notAfter, -⟩ := keyList_split key
  have unchanged := getKeysFrom_contexts_of_notMem poll keys notBefore
  refine ⟨⟨(getKeysFrom poll before keys).1.bitmaps, poll.pressed key, poll.delta⟩,
    (getKeysFrom poll before keys).2,
    (getKeysFrom poll after ((getKeysFrom poll before keys).1.turn poll key)).2,
    rfl, rfl, ?_, ?_⟩
  · rw [keypadDeviceImplGetKeys, split, getKeysFrom_contexts poll keys notAfter,
      Keys.turn_contexts_self, Keys.marked, unchanged]
    rfl
  · rw [keypadDeviceImplGetKeys, split, getKeysFrom_append, getKeysFrom, Keys.pushes_eq,
      Keys.marked, unchanged]
    rfl

/-! ## Presses -/

/-- A stretch of pressed polls between released ones, within a sequence of polls. -/
structure Press where
  before : List KeyPoll
  first : KeyPoll
  held : List KeyPoll
  release : KeyPoll
  after : List KeyPoll

/-- The polls from the first one that finds the key down to the one that finds it up. -/
def Press.polls (press : Press) : List KeyPoll :=
  press.first :: (press.held ++ [press.release])

/-- The press is one of the sequence, and it is not part of a longer one. -/
structure Press.In (polls : List KeyPoll) (press : Press) : Prop where
  split : polls = press.before ++ (press.polls ++ press.after)
  begins : ∀ poll ∈ press.before.getLast?, poll.isPressed = false
  first : press.first.isPressed = true
  held : ∀ poll ∈ press.held, poll.isPressed = true
  release : press.release.isPressed = false

/-- The nanoseconds from the first poll of the press to the last one that finds the key
down. -/
def Press.duration (press : Press) : Nat :=
  (press.held.map fun poll => poll.delta.toNat).sum

/-- The context with which a press begins. -/
def Press.start (press : Press) (keyData : EfiKeyData) : KeyContext :=
  (resetContext keyData).after press.before

/-- The key was let go after a long press, but no poll has found it up 10 ms after its last
report. -/
def KeyContext.Debouncing (context : KeyContext) : Prop :=
  context.state = .pressed ∧ context.longpress = true

instance (context : KeyContext) : Decidable context.Debouncing :=
  inferInstanceAs (Decidable (_ ∧ _))

/-- The nanoseconds since the last report, when the last one before the polls was `since` ago.
They are not cut off to 64 bits, as the time of the context is. -/
def KeyContext.sinceReport (context : KeyContext) (since : Nat) : List KeyPoll → Nat
  | [] => since
  | poll :: rest =>
      (context.poll poll).1.sinceReport
        (if (context.poll poll).2 = [] then since + poll.delta.toNat else 0) rest

/-- The debounce of a long press. -/
def longpressDebounce : Nat := 10000000

/-- The press begins within 10 ms after the last report of a long press that is not over. -/
def Press.Debounced (keyData : EfiKeyData) (press : Press) : Prop :=
  (press.start keyData).Debouncing ∧
    (resetContext keyData).sinceReport 0 press.before + press.first.delta.toNat < longpressDebounce

/-- A press of less than 500 ms pushes the key once, unless it begins too soon after a
long one. -/
def Press.Reported (keyData : EfiKeyData) (press : Press) : Prop :=
  press.duration < firstReport → ¬ press.Debounced keyData →
    ((press.start keyData).pushed press.polls).count keyData = 1

/-- How often the repeat of 200 ms comes due at polls, the last report being `time` ago. -/
def repeatsDue : U64 → List KeyPoll → Nat
  | _, [] => 0
  | time, poll :: rest =>
      if MS2NS 200 ≤ time + poll.delta then repeatsDue 0 rest + 1
      else repeatsDue (time + poll.delta) rest

/-- If no poll has found the key up 10 ms after the last report of a long press, the repeat comes
due once in the press; otherwise the press has more than one poll or does not begin right at the
poll after the report of another short press. -/
def Press.Seen (keyData : EfiKeyData) (press : Press) : Prop :=
  if (press.start keyData).Debouncing then
    (press.start keyData).repeats = true ∧
      repeatsDue (press.start keyData).time (press.first :: press.held) = 1
  else press.held ≠ [] ∨ (press.start keyData).state ≠ .longpressRelease

/-! ## What every poll keeps -/

/-- A key that is up has no marks of a press, and only a long press repeats. -/
structure KeyContext.Sound (keyData : EfiKeyData) (context : KeyContext) : Prop where
  keyData : context.keyData = keyData
  released : context.state = .released → context.longpress = false
  repeats : context.longpress = false → context.repeats = false

section Poll

variable {keyData : EfiKeyData} {context : KeyContext} {bitmaps : Bitmaps}

theorem KeyContext.Sound.advance (sound : context.Sound keyData) (isPressed : Bool) :
    (context.advance bitmaps isPressed).1.Sound keyData := by
  constructor
  · rw [KeyContext.advance_keyData]
    exact sound.keyData
  · intro released
    cases state : context.state <;> cases isPressed <;>
      simp only [KeyContext.advance, state] at released ⊢
    · exact sound.released state
    · exact absurd released KeyState.noConfusion
    · unfold KeyContext.letGo at released ⊢
      split at released
      · exact absurd released KeyState.noConfusion
      · split at released
        · rw [if_neg ‹_›, if_pos ‹_›]
          rfl
        · exact absurd (state.symm.trans released) KeyState.noConfusion
    · rw [KeyContext.hold_state, state] at released
      exact absurd released KeyState.noConfusion
    · rfl
    · rfl
  · have once := sound.repeats
    unfold KeyContext.advance KeyContext.hold KeyContext.letGo KeyContext.release
    repeat' split
    all_goals simp_all

theorem KeyContext.Sound.poll (sound : context.Sound keyData) (poll : KeyPoll) :
    (context.poll poll).1.Sound keyData := by
  have later : (context.later poll.delta).Sound keyData := ⟨sound.1, sound.2, sound.3⟩
  rw [KeyContext.poll_eq]
  exact later.advance poll.isPressed

theorem KeyContext.Sound.after (sound : context.Sound keyData) (polls : List KeyPoll) :
    (context.after polls).Sound keyData := by
  induction polls generalizing context with
  | nil => exact sound
  | cons poll rest ih => exact ih (sound.poll poll)

theorem Press.start_sound (press : Press) (keyData : EfiKeyData) :
    (press.start keyData).Sound keyData := by
  apply KeyContext.Sound.after
  exact ⟨rfl, fun _ => rfl, fun _ => rfl⟩

/-- A poll that finds the key up ends a short press. -/
theorem KeyContext.longpress_of_up {poll : KeyPoll} (up : poll.isPressed = false)
    (pressed : (context.poll poll).1.state = .pressed) :
    (context.poll poll).1.longpress = true := by
  rw [KeyContext.poll_eq, up] at pressed ⊢
  cases state : (context.later poll.delta).state <;>
    simp only [KeyContext.advance, state] at pressed ⊢
  · exact absurd pressed KeyState.noConfusion
  · unfold KeyContext.letGo at pressed ⊢
    split at pressed
    · exact absurd pressed KeyState.noConfusion
    · split at pressed
      · exact absurd pressed KeyState.noConfusion
      · rw [if_neg ‹_›, if_neg ‹_›]
        exact Bool.not_eq_false _ |>.mp ‹_›
  · exact absurd pressed KeyState.noConfusion

/-- At the beginning of a press the key is up, or the last long press is not over. -/
theorem Press.In.start_state {polls : List KeyPoll} {press : Press} (member : press.In polls)
    (settled : ¬ (press.start keyData).Debouncing) :
    (press.start keyData).state ≠ .pressed := by
  intro pressed
  apply settled
  refine ⟨pressed, ?_⟩
  unfold Press.start at pressed ⊢
  rcases List.eq_nil_or_concat press.before with none | ⟨earlier, last, eq⟩
  · rw [none] at pressed
    exact absurd pressed KeyState.noConfusion
  · have up := member.begins
    rw [eq, List.concat_eq_append] at pressed up ⊢
    rw [KeyContext.after, List.foldl_append] at pressed ⊢
    exact KeyContext.longpress_of_up (up last (by simp)) pressed

end Poll

/-! ## A short press -/

section Press

variable {context : KeyContext}

/-- Before the first report is due, a key that is held pushes nothing. -/
theorem KeyContext.poll_held (state : context.state = .pressed)
    (first : context.repeats = false ∧ context.longpress = false) {poll : KeyPoll}
    (down : poll.isPressed = true)
    (early : context.time.toNat + poll.delta.toNat < firstReport) :
    context.poll poll = (context.later poll.delta, []) ∧
      (context.later poll.delta).time.toNat = context.time.toNat + poll.delta.toNat := by
  have sum : (context.later poll.delta).time.toNat =
      context.time.toNat + poll.delta.toNat := by
    rcases context.later_time poll.delta with ⟨-, sum⟩ | ⟨wraps, -⟩
    · exact sum
    · unfold firstReport at early
      omega
  have undue : ¬ MS2NS 500 ≤ (context.later poll.delta).time := by
    rw [MS2NS_le_iff 500 _ (by decide), sum]
    exact Nat.not_le.mpr early
  constructor
  · rw [KeyContext.poll_eq, down]
    simp only [KeyContext.advance, KeyContext.later_state, state, KeyContext.hold,
      KeyContext.later_repeats, first.1, Bool.false_eq_true, false_and, if_false, undue, and_false]
  · exact sum

/-- A key whose press was seen is reported when it is let go in time. -/
theorem KeyContext.pushed_of_pressed {held : List KeyPoll} {release : KeyPoll}
    (state : context.state = .pressed)
    (first : context.repeats = false ∧ context.longpress = false)
    (down : ∀ poll ∈ held, poll.isPressed = true) (up : release.isPressed = false)
    (short : context.time.toNat + (held.map fun poll => poll.delta.toNat).sum < firstReport) :
    context.pushed (held ++ [release]) = [context.keyData] := by
  induction held generalizing context with
  | nil =>
      simp only [List.nil_append, pushed, KeyContext.poll_eq, up, advance, later_state, state,
        letGo, later_longpress, first.2, if_true, later_keyData, List.append_nil]
  | cons poll rest ih =>
      rw [List.forall_mem_cons] at down
      rw [List.map_cons, List.sum_cons, ← Nat.add_assoc] at short
      obtain ⟨polled, time⟩ := KeyContext.poll_held state first down.1 (by omega)
      have rest_eq : (context.later poll.delta).pushed (rest ++ [release]) =
          [(context.later poll.delta).keyData] :=
        ih state first down.2 (by rwa [time])
      rw [List.cons_append, pushed, polled, List.nil_append, rest_eq, later_keyData]

/-- The first poll of a press that begins with a released key. -/
theorem KeyContext.poll_of_released (state : context.state = .released) {poll : KeyPoll}
    (down : poll.isPressed = true) :
    context.poll poll = ({ context with time := 0, state := .pressed }, []) := by
  rw [KeyContext.poll_eq, down]
  simp only [advance, later_state, state]
  rfl

/-- The poll after the report of a short press. -/
theorem KeyContext.poll_of_longpressRelease (state : context.state = .longpressRelease)
    (poll : KeyPoll) : context.poll poll = (context.release, []) := by
  rw [KeyContext.poll_eq]
  simp only [advance, later_state, state]
  rfl

theorem KeyContext.pushed_of_released {first : KeyPoll} {held : List KeyPoll}
    {release : KeyPoll} (state : context.state = .released)
    (marks : context.repeats = false ∧ context.longpress = false)
    (down : ∀ poll ∈ first :: held, poll.isPressed = true) (up : release.isPressed = false)
    (short : (held.map fun poll => poll.delta.toNat).sum < firstReport) :
    context.pushed (first :: (held ++ [release])) = [context.keyData] := by
  rw [List.forall_mem_cons] at down
  have pressed : ({ context with time := 0, state := .pressed } : KeyContext).pushed
      (held ++ [release]) = [context.keyData] :=
    pushed_of_pressed rfl marks down.2 up (by simpa using short)
  rw [pushed, poll_of_released state down.1, List.nil_append, pressed]

/-- What a short press pushes. -/
theorem Press.In.pushed {polls : List KeyPoll} {press : Press} (member : press.In polls)
    (keyData : EfiKeyData) (short : press.duration < firstReport)
    (settled : ¬ (press.start keyData).Debouncing) :
    (press.start keyData).pushed press.polls =
      if press.held = [] ∧ (press.start keyData).state = .longpressRelease then []
      else [keyData] := by
  have sound := press.start_sound keyData
  have data := sound.keyData
  cases state : (press.start keyData).state with
  | pressed => exact absurd state (member.start_state settled)
  | released =>
      have longpress := sound.released state
      rw [if_neg (fun missed => KeyState.noConfusion missed.2), Press.polls,
        KeyContext.pushed_of_released state ⟨sound.repeats longpress, longpress⟩
          (List.forall_mem_cons.mpr ⟨member.first, member.held⟩) member.release short, data]
  | longpressRelease =>
      rw [Press.polls, KeyContext.pushed, KeyContext.poll_of_longpressRelease state,
        List.nil_append]
      cases held : press.held with
      | nil =>
          -- The only poll that finds the key down has just been passed over.
          rw [if_pos ⟨rfl, rfl⟩, List.nil_append, KeyContext.pushed, KeyContext.poll_eq,
            member.release]
          rfl
      | cons second rest =>
          have down := member.held
          have lasted := short
          rw [held] at down
          rw [Press.duration, held, List.map_cons, List.sum_cons] at lasted
          rw [if_neg (fun missed => List.cons_ne_nil _ _ missed.1), List.cons_append,
            KeyContext.pushed_of_released rfl ⟨rfl, rfl⟩ down member.release (by omega)]
          exact congrArg (fun keyData => [keyData]) data

/-- A poll that finds the key down before the long press is over: a repeat, if it is due. -/
theorem KeyContext.poll_of_debouncing (debouncing : context.Debouncing) {poll : KeyPoll}
    (down : poll.isPressed = true) :
    context.poll poll =
      if context.repeats = true ∧ MS2NS 200 ≤ context.time + poll.delta then
        ({ context with time := 0 }, [context.keyData])
      else (context.later poll.delta, []) := by
  obtain ⟨state, longpress⟩ := debouncing
  rw [KeyContext.poll_eq, down]
  simp only [advance, later_state, state, hold, later_repeats, later_longpress, longpress]
  by_cases due : context.repeats = true ∧ MS2NS 200 ≤ context.time + poll.delta
  · have later : context.repeats = true ∧ MS2NS 200 ≤ (context.later poll.delta).time := due
    rw [if_pos due, if_pos later, ← due.1]
    rfl
  · have later : ¬ (context.repeats = true ∧ MS2NS 200 ≤ (context.later poll.delta).time) := due
    rw [if_neg due, if_neg later]
    simp

/-- A press that is taken for a part of a long one pushes the repeats that come due. -/
theorem KeyContext.pushed_of_debouncing {polls : List KeyPoll} {release : KeyPoll}
    (debouncing : context.Debouncing) (down : ∀ poll ∈ polls, poll.isPressed = true)
    (up : release.isPressed = false) :
    context.pushed (polls ++ [release]) =
      if context.repeats = true then List.replicate (repeatsDue context.time polls) context.keyData
      else [] := by
  induction polls generalizing context with
  | nil =>
      have none : (context.poll release).2 = [] := by
        rw [KeyContext.poll_eq, up]
        simp only [advance, later_state, debouncing.1, letGo, later_longpress, debouncing.2,
          Bool.true_eq_false, if_false]
        split <;> rfl
      rw [List.nil_append, pushed, pushed, none, repeatsDue]
      split <;> rfl
  | cons poll rest ih =>
      rw [List.forall_mem_cons] at down
      rw [List.cons_append, pushed, KeyContext.poll_of_debouncing debouncing down.1, repeatsDue]
      by_cases repeats : context.repeats = true
      · by_cases due : MS2NS 200 ≤ context.time + poll.delta
        · have again : ({ context with time := 0 } : KeyContext).Debouncing := debouncing
          rw [if_pos ⟨repeats, due⟩, if_pos repeats, if_pos due, List.replicate_succ,
            List.singleton_append, ih again down.2]
          exact congrArg _ (if_pos repeats)
        · have again : (context.later poll.delta).Debouncing := debouncing
          rw [if_neg fun both => due both.2, if_pos repeats, if_neg due, List.nil_append,
            ih again down.2, later_repeats, if_pos repeats]
          rfl
      · have again : (context.later poll.delta).Debouncing := debouncing
        rw [if_neg fun both => repeats both.1, if_neg repeats, List.nil_append, ih again down.2,
          later_repeats, if_neg repeats]

theorem Press.In.count_of_debouncing {polls : List KeyPoll} {press : Press}
    (member : press.In polls) {keyData : EfiKeyData}
    (debouncing : (press.start keyData).Debouncing) :
    ((press.start keyData).pushed press.polls).count keyData =
      if (press.start keyData).repeats = true then
        repeatsDue (press.start keyData).time (press.first :: press.held)
      else 0 := by
  have down : ∀ poll ∈ press.first :: press.held, poll.isPressed = true :=
    List.forall_mem_cons.mpr ⟨member.first, member.held⟩
  rw [Press.polls, ← List.cons_append, KeyContext.pushed_of_debouncing debouncing down
    member.release]
  split
  · rw [(Press.start_sound press keyData).keyData, List.count_replicate_self]
  · rfl

/-- A short press is reported once exactly when it is seen. -/
theorem Press.In.count_eq_one_iff {polls : List KeyPoll} {press : Press} (member : press.In polls)
    {keyData : EfiKeyData} (short : press.duration < firstReport) :
    ((press.start keyData).pushed press.polls).count keyData = 1 ↔ press.Seen keyData := by
  rw [Press.Seen]
  by_cases debouncing : (press.start keyData).Debouncing
  · rw [if_pos debouncing, member.count_of_debouncing debouncing]
    by_cases repeats : (press.start keyData).repeats = true
    · rw [if_pos repeats, and_iff_right repeats]
    · rw [if_neg repeats]
      exact iff_of_false (by decide) fun both => repeats both.1
  · rw [if_neg debouncing, member.pushed keyData short debouncing]
    split
    · rename_i missed
      simp [missed.1, missed.2]
    · rename_i seen
      rw [not_and_or] at seen
      simpa using seen

end Press

/-- In any sequence of polls every short press is reported once exactly when every short
press is seen. -/
theorem short_presses_reported_iff (keyData : EfiKeyData) (polls : List KeyPoll) :
    (∀ press : Press, press.In polls → press.Reported keyData) ↔
      ∀ press : Press, press.In polls → press.duration < firstReport →
        ¬ press.Debounced keyData → press.Seen keyData := by
  apply forall_congr'
  intro press
  apply imp_congr_right
  intro member
  constructor
  · intro reported short late
    exact (member.count_eq_one_iff short).mp (reported short late)
  · intro seen short late
    exact (member.count_eq_one_iff short).mpr (seen short late)

/-! ## Presses that are lost -/

/-- A poll of one key, with its time in milliseconds. -/
def pollAfter (isPressed : Bool) (ms : U64) : KeyPoll :=
  ⟨⟨fun _ => 0, fun _ => 0⟩, isPressed, MS2NS ms⟩

/-- The power key is pressed and let go twice, 20 ms apart. -/
def twoPresses : List KeyPoll :=
  [pollAfter true 20, pollAfter false 20, pollAfter true 20, pollAfter false 20]

/-- It is held until it is reported, let go 5 ms later, and pressed again 50 ms after that. -/
def pressAfterLong : List KeyPoll :=
  [pollAfter true 0, pollAfter true 500, pollAfter false 5, pollAfter true 50, pollAfter false 20]

/-- The second press is not reported, neither after a short press nor after a long one. -/
theorem second_press_lost :
    (¬ ∀ press : Press, press.In twoPresses → press.Reported Key.power.data) ∧
      ¬ ∀ press : Press, press.In pressAfterLong → press.Reported Key.power.data := by
  constructor
  · intro reported
    let second : Press :=
      ⟨[pollAfter true 20, pollAfter false 20], pollAfter true 20, [], pollAfter false 20, []⟩
    have member : second.In twoPresses := by
      refine ⟨rfl, ?_, rfl, ?_, rfl⟩
      · rintro last ⟨rfl⟩
        rfl
      · exact fun _ held => absurd held List.not_mem_nil
    have late : ¬ second.Debounced Key.power.data :=
      fun debounced => absurd debounced.1 (by decide +kernel)
    have once := reported second member (by decide) late
    exact absurd once (by decide +kernel)
  · intro reported
    let second : Press :=
      ⟨[pollAfter true 0, pollAfter true 500, pollAfter false 5], pollAfter true 50, [],
        pollAfter false 20, []⟩
    have member : second.In pressAfterLong := by
      refine ⟨rfl, ?_, rfl, ?_, rfl⟩
      · rintro last ⟨rfl⟩
        rfl
      · exact fun _ held => absurd held List.not_mem_nil
    have late : ¬ second.Debounced Key.power.data :=
      fun debounced => absurd debounced.2 (by decide +kernel)
    have once := reported second member (by decide) late
    exact absurd once (by decide +kernel)

end HtcLeo.Keypad
