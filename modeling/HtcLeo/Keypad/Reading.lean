import HtcLeo.Keypad.Timing

/-!
# Waiting for keys and reading them

`KeypadReadKeyStroke` and `KeypadWaitForKey` poll the device before they look into the
key queue, and both skip the partial keys at its head.  The keys that wait, and those that
the polls of a call push behind them, are one sequence, of which the queue holds the
newest: a full queue drops its oldest key.  What is read is the first key of the sequence
that is not partial, unless it was dropped.
-/

namespace HtcLeo.Keypad

open Transition

/-! ## Reading -/

/-- A poll: what the counter reads, and the keys that the device pushes. -/
structure DevicePoll where
  countVal : U32
  keys : List EfiKeyData
  deriving DecidableEq, Repr

/-- Nothing is pushed. -/
def DevicePoll.silent : DevicePoll := ⟨0, []⟩

/-- The device after a poll. -/
def ConsoleInDev.polled (dev : ConsoleInDev) (poll : DevicePoll) : ConsoleInDev :=
  keypadTimerHandler dev poll.countVal fun _ => poll.keys

/-- The device with another queue. -/
def ConsoleInDev.withQueue (dev : ConsoleInDev) (queue : EfiKeyQueue) : ConsoleInDev :=
  { dev with consoleIn := { dev.consoleIn with efiKeyQueue := queue } }

/-- The errors of a read. -/
inductive ReadError where
  | invalidParameter
  | deviceError
  | notReady
  deriving DecidableEq, Repr

/-- The key is `false` if there is no place to store it. -/
def keypadReadKeyStrokeWorker (dev : ConsoleInDev) (poll : DevicePoll) (keyData : Bool) :
    Except ReadError EfiKeyData × ConsoleInDev :=
  if keyData = false then (.error .invalidParameter, dev)
  else
    let polled := dev.polled poll
    if polled.keypadErr then (.error .deviceError, polled)
    else
      match popEfikeyBufHead polled.consoleIn.efiKeyQueue with
      | none => (.error .notReady, polled)
      | some (keyData, rest) => (.ok keyData, polled.withQueue rest)

def EFI_RIGHT_CONTROL_PRESSED : U32 := 0x00000004
def EFI_LEFT_CONTROL_PRESSED : U32 := 0x00000008

/-- The letters from `a` to `z` and from `A` to `Z` become the control characters from `1`
to `26` while a control key is pressed. -/
def EfiKeyData.translated (keyData : EfiKeyData) : EfiInputKey :=
  if Flags.test keyData.keyState.keyShiftState
      (EFI_LEFT_CONTROL_PRESSED ||| EFI_RIGHT_CONTROL_PRESSED) then
    if 97 ≤ keyData.key.unicodeChar ∧ keyData.key.unicodeChar ≤ 122 then
      { keyData.key with unicodeChar := keyData.key.unicodeChar - 97 + 1 }
    else if 65 ≤ keyData.key.unicodeChar ∧ keyData.key.unicodeChar ≤ 90 then
      { keyData.key with unicodeChar := keyData.key.unicodeChar - 65 + 1 }
    else keyData.key
  else keyData.key

/-- The loop of `KeypadReadKeyStroke`, for at most `fuel` rounds.  When the polls are used
up the device pushes nothing more.  The result has the polls that were not made. -/
def readLoop : Nat → List DevicePoll → ConsoleInDev →
    Option (Except ReadError EfiInputKey × List DevicePoll × ConsoleInDev)
  | 0, _, _ => none
  | fuel + 1, polls, dev =>
      match keypadReadKeyStrokeWorker dev (polls.headD .silent) true with
      | (.error error, after) => some (.error error, polls.tail, after)
      | (.ok keyData, after) =>
          if keyData.isPartialKey then readLoop fuel polls.tail after
          else some (.ok keyData.translated, polls.tail, after)

/-- `KeypadReadKeyStroke`, with as many rounds as the polls and the queue can take. -/
def keypadReadKeyStroke (dev : ConsoleInDev) (polls : List DevicePoll) :
    Option (Except ReadError EfiInputKey × List DevicePoll × ConsoleInDev) :=
  readLoop (polls.length + KEYPAD_EFI_KEY_MAX_COUNT) polls dev

/-! ## Waiting -/

/-- The loop of `KeypadWaitForKey`, for at most `fuel` rounds, with whether the event is
signalled. -/
def skipPartialKeys : Nat → EfiKeyQueue → Bool × EfiKeyQueue
  | 0, queue => (false, queue)
  | fuel + 1, queue =>
      match popEfikeyBufHead queue with
      | none => (false, queue)
      | some (keyData, rest) =>
          if keyData.isPartialKey then skipPartialKeys fuel rest else (true, queue)

/-- `KeypadWaitForKey`; the result says whether the event is signalled. -/
def keypadWaitForKey (dev : ConsoleInDev) (poll : DevicePoll) : Bool × ConsoleInDev :=
  let polled := dev.polled poll
  if polled.keypadErr then (false, polled)
  else
    let skipped := skipPartialKeys KEYPAD_EFI_KEY_MAX_COUNT polled.consoleIn.efiKeyQueue
    (skipped.1, polled.withQueue skipped.2)

/-- What may happen between a wait and a read. -/
inductive Interim where
  | poll (poll : DevicePoll)
  | wait (poll : DevicePoll)
  deriving DecidableEq, Repr

/-- The poll of a step between two reads. -/
def Interim.devicePoll : Interim → DevicePoll
  | .poll device => device
  | .wait device => device

/-- The device after a step between two reads. -/
def ConsoleInDev.perform (dev : ConsoleInDev) : Interim → ConsoleInDev
  | .poll device => dev.polled device
  | .wait device => (keypadWaitForKey dev device).2

/-! ## The property -/

/-- The waiting keys, the oldest first. -/
def ConsoleInDev.keys (dev : ConsoleInDev) : List EfiKeyData :=
  dev.consoleIn.efiKeyQueue.contents

/-- The keys that enter the queue: a partial key does only if it was asked for. -/
def ConsoleInDev.entering (dev : ConsoleInDev) (polls : List DevicePoll) : List EfiKeyData :=
  polls.flatMap fun poll => poll.keys.filter fun keyData => !dev.consoleIn.drops keyData

/-- What is returned is the first key of the sequence that is not partial, and the keys
behind it still wait; if there is none, nothing waits. -/
def ReadsFirst (sequence : List EfiKeyData) (result : Except ReadError EfiInputKey)
    (after : ConsoleInDev) : Prop :=
  match sequence.dropWhile EfiKeyData.isPartialKey with
  | [] => result = .error .notReady ∧ after.keys = []
  | keyData :: rest => result = .ok keyData.translated ∧ after.keys = rest

/-- The first key that is not partial, and the keys behind it, have room in the queue. -/
def FirstKept (sequence : List EfiKeyData) : Prop :=
  (sequence.dropWhile EfiKeyData.isPartialKey).length < KEYPAD_EFI_KEY_MAX_COUNT

/-- A read returns, and it reads the first key of those waiting and those pushed by its own
polls, exactly if this key was not dropped from a full queue. -/
def Reads (dev : ConsoleInDev) : Prop :=
  ∀ polls, ∃ made left result after, polls = made ++ left ∧
    keypadReadKeyStroke dev polls = some (result, left, after) ∧
      (ReadsFirst (dev.keys ++ dev.entering made) result after ↔
        FirstKept (dev.keys ++ dev.entering made))

/-- A wait signals exactly when a key that is not partial waits after its poll. -/
def Signals (dev : ConsoleInDev) : Prop :=
  ∀ poll, (keypadWaitForKey dev poll).1 = true ↔
    ∃ keyData ∈ (dev.polled poll).keys, keyData.isPartialKey = false

/-- When a wait has signalled, whatever polls and waits follow, the next read returns the
first key that was not partial then, if the queue does not overflow. -/
def PromisesNext (dev : ConsoleInDev) : Prop :=
  ∀ poll keyData rest, (keypadWaitForKey dev poll).1 = true →
    (dev.polled poll).keys.dropWhile EfiKeyData.isPartialKey = keyData :: rest →
      ∀ (interims : List Interim) (polls : List DevicePoll),
        (keyData :: (rest ++ dev.entering (interims.map Interim.devicePoll ++
          polls.take 1))).length < KEYPAD_EFI_KEY_MAX_COUNT →
            ∃ after, keypadReadKeyStroke (interims.foldl ConsoleInDev.perform
                (keypadWaitForKey dev poll).2) polls =
                some (.ok keyData.translated, polls.tail, after) ∧
              after.keys = rest ++ dev.entering (interims.map Interim.devicePoll ++
                polls.take 1)

/-! ## Polls -/

section Poll

variable {dev : ConsoleInDev} {poll : DevicePoll}

@[simp]
theorem ConsoleInDev.polled_keypadErr : (dev.polled poll).keypadErr = dev.keypadErr :=
  keypadTimerHandler_keypadErr _ _

theorem foldl_signal_efiKeyQueue (keyData : EfiKeyData) (entries : List Notify)
    (consoleIn : ConsoleIn) :
    (entries.foldl (ConsoleIn.signal keyData) consoleIn).efiKeyQueue = consoleIn.efiKeyQueue ∧
      (entries.foldl (ConsoleIn.signal keyData) consoleIn).isSupportPartialKey =
        consoleIn.isSupportPartialKey := by
  induction entries generalizing consoleIn with
  | nil => exact ⟨rfl, rfl⟩
  | cons entry rest ih =>
      rw [List.foldl_cons, (ih _).1, (ih _).2, ConsoleIn.signal]
      split <;> exact ⟨rfl, rfl⟩

theorem push_drops (consoleIn : ConsoleIn) (keyData : EfiKeyData) :
    (keypadReturnApiPushEfikeyBufTail consoleIn keyData).drops = consoleIn.drops := by
  funext other
  rw [keypadReturnApiPushEfikeyBufTail]
  split
  · rfl
  · simp only [ConsoleIn.drops, (foldl_signal_efiKeyQueue keyData _ consoleIn).2]

theorem push_efiKeyQueue (consoleIn : ConsoleIn) (keyData : EfiKeyData) :
    (keypadReturnApiPushEfikeyBufTail consoleIn keyData).efiKeyQueue =
      if consoleIn.drops keyData then consoleIn.efiKeyQueue
      else consoleIn.efiKeyQueue.push keyData := by
  rw [keypadReturnApiPushEfikeyBufTail, ConsoleIn.drops]
  split
  · rfl
  · simp only [(foldl_signal_efiKeyQueue keyData _ consoleIn).1, pushEfikeyBufTail]

theorem foldl_push_efiKeyQueue (keys : List EfiKeyData) (consoleIn : ConsoleIn) :
    (keys.foldl keypadReturnApiPushEfikeyBufTail consoleIn).drops = consoleIn.drops ∧
      (keys.foldl keypadReturnApiPushEfikeyBufTail consoleIn).efiKeyQueue =
        (keys.filter fun keyData => !consoleIn.drops keyData).foldl RingBuffer.push
          consoleIn.efiKeyQueue := by
  induction keys generalizing consoleIn with
  | nil => exact ⟨rfl, rfl⟩
  | cons keyData rest ih =>
      obtain ⟨drops, queue⟩ := ih (keypadReturnApiPushEfikeyBufTail consoleIn keyData)
      rw [push_drops] at drops queue
      rw [List.foldl_cons, drops, queue, push_efiKeyQueue]
      cases dropped : consoleIn.drops keyData <;> simp [dropped]

theorem one_lt_maxCount : 1 < KEYPAD_EFI_KEY_MAX_COUNT := by decide

/-- A poll appends to the queue, which holds the newest of the keys. -/
theorem ConsoleInDev.polled_keys (works : dev.keypadErr = false) (poll : DevicePoll) :
    (dev.polled poll).keys =
      RingBuffer.newest KEYPAD_EFI_KEY_MAX_COUNT (dev.keys ++ dev.entering [poll]) := by
  rw [ConsoleInDev.entering, List.flatMap_singleton, ConsoleInDev.keys, ConsoleInDev.keys,
    ← RingBuffer.contents_foldl_push one_lt_maxCount, ← (foldl_push_efiKeyQueue _ _).2]
  simp only [ConsoleInDev.polled, keypadTimerHandler, works, Bool.false_eq_true, if_false]

theorem ConsoleInDev.polled_entering (works : dev.keypadErr = false) (poll : DevicePoll) :
    (dev.polled poll).entering = dev.entering := by
  funext polls
  simp only [ConsoleInDev.entering, ConsoleInDev.polled, keypadTimerHandler, works,
    Bool.false_eq_true, if_false, (foldl_push_efiKeyQueue poll.keys dev.consoleIn).1]

/-- When the polls are used up, nothing enters. -/
theorem ConsoleInDev.polled_keys_headD (works : dev.keypadErr = false)
    (polls : List DevicePoll) :
    (dev.polled (polls.headD .silent)).keys =
      RingBuffer.newest KEYPAD_EFI_KEY_MAX_COUNT (dev.keys ++ dev.entering (polls.take 1)) := by
  rw [ConsoleInDev.polled_keys works]
  cases polls <;> rfl

theorem ConsoleInDev.entering_append (one two : List DevicePoll) :
    dev.entering (one ++ two) = dev.entering one ++ dev.entering two :=
  List.flatMap_append

theorem ConsoleInDev.keys_length_lt (dev : ConsoleInDev) :
    dev.keys.length < KEYPAD_EFI_KEY_MAX_COUNT := by
  rw [ConsoleInDev.keys, RingBuffer.contents_length]
  exact RingBuffer.count_lt _

end Poll

/-! ## Reading what waits -/

section Read

variable {dev : ConsoleInDev} {poll : DevicePoll} {polls : List DevicePoll}

theorem worker_of_nil (works : dev.keypadErr = false) (empty : (dev.polled poll).keys = []) :
    keypadReadKeyStrokeWorker dev poll true = (.error .notReady, dev.polled poll) := by
  have popped : popEfikeyBufHead (dev.polled poll).consoleIn.efiKeyQueue = none :=
    RingBuffer.pop_of_nil empty
  simp [keypadReadKeyStrokeWorker, works, popped]

/-- The first key is taken out. -/
theorem worker_of_cons (works : dev.keypadErr = false) {keyData : EfiKeyData}
    {rest : List EfiKeyData} (waits : (dev.polled poll).keys = keyData :: rest) :
    ∃ after, keypadReadKeyStrokeWorker dev poll true = (.ok keyData, after) ∧
      after.keys = rest ∧ after.keypadErr = false ∧ after.entering = dev.entering := by
  obtain ⟨popped, left⟩ := RingBuffer.pop_of_cons waits
  change popEfikeyBufHead _ = _ at popped
  refine ⟨(dev.polled poll).withQueue _, ?_, left, ?_, ?_⟩
  · simp only [keypadReadKeyStrokeWorker, ConsoleInDev.polled_keypadErr, works, popped]
    rfl
  · exact ConsoleInDev.polled_keypadErr.trans works
  · exact ConsoleInDev.polled_entering works poll

/-- A poll does not change which key is the first, unless it is dropped. -/
theorem ConsoleInDev.dropWhile_polled (works : dev.keypadErr = false) (polls : List DevicePoll)
    (later : List EfiKeyData)
    (kept : FirstKept (dev.keys ++ dev.entering (polls.take 1) ++ later)) :
    ((dev.polled (polls.headD .silent)).keys ++ later).dropWhile EfiKeyData.isPartialKey =
      (dev.keys ++ dev.entering (polls.take 1) ++ later).dropWhile EfiKeyData.isPartialKey := by
  rw [ConsoleInDev.polled_keys_headD works]
  exact RingBuffer.dropWhile_newest_append kept

/-- Enough rounds for the polls and the keys are enough when a round is made. -/
theorem enough_of_round (works : dev.keypadErr = false) {fuel : Nat} {after : ConsoleInDev}
    (enough : polls.length + KEYPAD_EFI_KEY_MAX_COUNT ≤ fuel + 1 ∨
      polls = [] ∧ dev.keys.length < fuel + 1)
    (fewer : after.keys.length + 1 = (dev.polled (polls.headD .silent)).keys.length) :
    polls.tail.length + KEYPAD_EFI_KEY_MAX_COUNT ≤ fuel ∨
      polls.tail = [] ∧ after.keys.length < fuel := by
  have bound := (dev.polled (polls.headD .silent)).keys_length_lt
  cases polls with
  | cons first later =>
      left
      rcases enough with many | ⟨none, -⟩
      · rw [List.length_cons] at many
        rw [List.tail_cons]
        omega
      · exact absurd none (List.cons_ne_nil _ _)
  | nil =>
      right
      refine ⟨rfl, ?_⟩
      rcases enough with many | ⟨-, few⟩
      · rw [List.length_nil] at many
        omega
      · have same : (dev.polled .silent).keys = dev.keys := by
          have keys := ConsoleInDev.polled_keys_headD works []
          rw [List.take_nil, ConsoleInDev.entering, List.flatMap_nil, List.append_nil,
            RingBuffer.newest_of_length_lt dev.keys_length_lt] at keys
          exact keys
        rw [List.headD_nil, same] at fewer
        omega

/-- The loop ends, because the polls and then the keys are used up.  As long as it skips,
the first key that is not partial stays the same. -/
theorem readLoop_eq (works : dev.keypadErr = false) (polls : List DevicePoll) {fuel : Nat}
    (enough : polls.length + KEYPAD_EFI_KEY_MAX_COUNT ≤ fuel ∨
      polls = [] ∧ dev.keys.length < fuel) :
    ∃ made left result after, polls = made ++ left ∧
      readLoop fuel polls dev = some (result, left, after) ∧
      (FirstKept (dev.keys ++ dev.entering made) →
        ReadsFirst (dev.keys ++ dev.entering made) result after) ∧
      ∀ key, result = .ok key → after.keys.length + 1 < KEYPAD_EFI_KEY_MAX_COUNT := by
  induction fuel generalizing polls dev with
  | zero =>
      rcases enough with many | ⟨-, few⟩
      · exact absurd many (by simp [KEYPAD_EFI_KEY_MAX_COUNT])
      · exact absurd few (Nat.not_lt_zero _)
  | succ fuel ih =>
      have split : polls = polls.take 1 ++ polls.tail := by
        rw [← List.drop_one, List.take_append_drop]
      have same := ConsoleInDev.dropWhile_polled works polls
      have bound := (dev.polled (polls.headD .silent)).keys_length_lt
      cases waits : (dev.polled (polls.headD .silent)).keys with
      | nil =>
          rw [waits] at same
          refine ⟨polls.take 1, polls.tail, .error .notReady, dev.polled (polls.headD .silent),
            split, ?_, fun kept => ?_, ?_⟩
          · rw [readLoop, worker_of_nil works waits]
          · rw [← List.append_nil (_ ++ _)] at kept
            rw [ReadsFirst, ← List.append_nil (_ ++ _), ← same [] kept]
            exact ⟨rfl, waits⟩
          · rintro key ⟨⟩
      | cons keyData rest =>
          obtain ⟨next, worked, left, nextWorks, entering⟩ := worker_of_cons works waits
          rw [waits] at same bound
          by_cases skipped : keyData.isPartialKey = true
          · have fewer : next.keys.length + 1 = (dev.polled (polls.headD .silent)).keys.length := by
              rw [left, waits, List.length_cons]
            obtain ⟨made, remaining, result, after, tail, looped, reads, room⟩ :=
              ih nextWorks _ (enough_of_round works enough fewer)
            refine ⟨polls.take 1 ++ made, remaining, result, after, ?_, ?_, fun kept => ?_, room⟩
            · rw [List.append_assoc, ← tail, ← split]
            · rw [readLoop, worked]
              simp only [skipped, if_true]
              exact looped
            · rw [ConsoleInDev.entering_append, ← List.append_assoc] at kept ⊢
              have first := same (dev.entering made) kept
              rw [List.cons_append, List.dropWhile_cons_of_pos skipped] at first
              rw [left, entering] at reads
              rw [ReadsFirst, ← first]
              apply reads
              rw [FirstKept, first]
              exact kept
          · refine ⟨polls.take 1, polls.tail, .ok keyData.translated, next, split, ?_,
              fun kept => ?_, fun key _ => ?_⟩
            · rw [readLoop, worked]
              simp only [skipped, Bool.false_eq_true, if_false]
            · rw [← List.append_nil (_ ++ _)] at kept
              rw [ReadsFirst, ← List.append_nil (_ ++ _), ← same [] kept, List.append_nil,
                List.dropWhile_cons_of_neg skipped]
              exact ⟨rfl, left⟩
            · rw [left]
              exact bound

/-- A key that is read makes room in the queue, so that no more can wait behind it. -/
theorem reads (works : dev.keypadErr = false) : Reads dev := by
  intro polls
  obtain ⟨made, left, result, after, split, looped, kept, room⟩ :=
    readLoop_eq works polls (.inl (Nat.le_refl _))
  refine ⟨made, left, result, after, split, looped, fun reads => ?_, kept⟩
  rw [ReadsFirst] at reads
  rw [FirstKept]
  split at reads
  · rename_i none
    rw [none]
    decide
  · rename_i keyData rest first
    rcases reads with ⟨returned, waits⟩
    rw [first, ← waits]
    exact room keyData.translated returned

end Read

/-! ## Waiting for what is read -/

section Wait

variable {dev : ConsoleInDev} {poll : DevicePoll} {polls : List DevicePoll}
  {keyData : EfiKeyData} {rest : List EfiKeyData}

/-- The partial keys in front are skipped, and the event is signalled if a key is left. -/
theorem skipPartialKeys_eq {fuel : Nat} {queue : EfiKeyQueue}
    (enough : queue.contents.length < fuel) :
    (skipPartialKeys fuel queue).2.contents =
        queue.contents.dropWhile EfiKeyData.isPartialKey ∧
      ((skipPartialKeys fuel queue).1 = true ↔
        queue.contents.dropWhile EfiKeyData.isPartialKey ≠ []) := by
  induction fuel generalizing queue with
  | zero => exact absurd enough (Nat.not_lt_zero _)
  | succ fuel ih =>
      cases waiting : queue.contents with
      | nil =>
          rw [skipPartialKeys, popEfikeyBufHead, RingBuffer.pop_of_nil waiting]
          exact ⟨waiting, by simp⟩
      | cons first later =>
          obtain ⟨popped, left⟩ := RingBuffer.pop_of_cons waiting
          rw [skipPartialKeys, popEfikeyBufHead, popped]
          rw [waiting, List.length_cons] at enough
          by_cases skipped : first.isPartialKey = true
          · have fewer : queue.advance.contents.length < fuel := by
              rw [left]
              omega
            have moves := ih fewer
            rw [left] at moves
            simp only [skipped, if_true, List.dropWhile_cons_of_pos skipped]
            exact moves
          · simp only [skipped, Bool.false_eq_true, if_false,
              List.dropWhile_cons_of_neg skipped]
            exact ⟨waiting, by simp⟩

theorem keypadWaitForKey_eq (works : dev.keypadErr = false) (poll : DevicePoll) :
    (keypadWaitForKey dev poll).2.keys =
        (dev.polled poll).keys.dropWhile EfiKeyData.isPartialKey ∧
      (keypadWaitForKey dev poll).2.keypadErr = false ∧
      (keypadWaitForKey dev poll).2.entering = dev.entering ∧
      ((keypadWaitForKey dev poll).1 = true ↔
        (dev.polled poll).keys.dropWhile EfiKeyData.isPartialKey ≠ []) := by
  have working : (dev.polled poll).keypadErr = false :=
    ConsoleInDev.polled_keypadErr.trans works
  obtain ⟨left, signalled⟩ := skipPartialKeys_eq (dev.polled poll).keys_length_lt
  simp only [keypadWaitForKey, working, Bool.false_eq_true, if_false]
  exact ⟨left, working, ConsoleInDev.polled_entering works poll, signalled⟩

theorem signals (works : dev.keypadErr = false) : Signals dev := by
  intro poll
  rw [(keypadWaitForKey_eq works poll).2.2.2, ne_eq, List.dropWhile_eq_nil_iff]
  simp

/-- Behind a key that is not partial, polls and waits only append. -/
theorem ConsoleInDev.perform_keys (works : dev.keypadErr = false)
    (waits : dev.keys = keyData :: rest) (full : keyData.isPartialKey = false)
    (interim : Interim)
    (room : (keyData :: (rest ++ dev.entering [interim.devicePoll])).length <
      KEYPAD_EFI_KEY_MAX_COUNT) :
    (dev.perform interim).keys = keyData :: (rest ++ dev.entering [interim.devicePoll]) ∧
      (dev.perform interim).keypadErr = false ∧
      (dev.perform interim).entering = dev.entering := by
  have polled : ∀ device, device = interim.devicePoll →
      (dev.polled device).keys = keyData :: (rest ++ dev.entering [device]) := by
    rintro _ rfl
    rw [ConsoleInDev.polled_keys works, waits, List.cons_append,
      RingBuffer.newest_of_length_lt room]
  cases interim with
  | poll device =>
      exact ⟨polled device rfl, ConsoleInDev.polled_keypadErr.trans works,
        ConsoleInDev.polled_entering works device⟩
  | wait device =>
      obtain ⟨keys, working, entering, -⟩ := keypadWaitForKey_eq works device
      refine ⟨keys.trans ?_, working, entering⟩
      rw [polled device rfl, List.dropWhile_cons_of_neg (by simp [full])]
      rfl

theorem ConsoleInDev.foldl_perform_keys (works : dev.keypadErr = false)
    (waits : dev.keys = keyData :: rest) (full : keyData.isPartialKey = false)
    (interims : List Interim)
    (room : (keyData :: (rest ++ dev.entering (interims.map Interim.devicePoll))).length <
      KEYPAD_EFI_KEY_MAX_COUNT) :
    (interims.foldl ConsoleInDev.perform dev).keys =
        keyData :: (rest ++ dev.entering (interims.map Interim.devicePoll)) ∧
      (interims.foldl ConsoleInDev.perform dev).keypadErr = false ∧
      (interims.foldl ConsoleInDev.perform dev).entering = dev.entering := by
  induction interims generalizing dev rest with
  | nil => exact ⟨by simpa [ConsoleInDev.entering] using waits, works, rfl⟩
  | cons interim later ih =>
      have split : dev.entering ((interim :: later).map Interim.devicePoll) =
          dev.entering [interim.devicePoll] ++ dev.entering (later.map Interim.devicePoll) :=
        ConsoleInDev.entering_append [interim.devicePoll] _
      rw [split, ← List.append_assoc] at room ⊢
      have first : (keyData :: (rest ++ dev.entering [interim.devicePoll])).length <
          KEYPAD_EFI_KEY_MAX_COUNT := by
        rw [List.length_cons, List.length_append] at room
        rw [List.length_cons]
        omega
      obtain ⟨keys, working, entering⟩ := ConsoleInDev.perform_keys works waits full interim first
      have moved := ih working keys (by rwa [entering])
      rw [entering] at moved
      exact moved

theorem promisesNext (works : dev.keypadErr = false) : PromisesNext dev := by
  intro poll keyData rest signalled first interims polls room
  obtain ⟨keys, waitWorks, waitEntering, -⟩ := keypadWaitForKey_eq works poll
  rw [first] at keys
  have full : keyData.isPartialKey = false := by
    have head := List.head?_dropWhile_not EfiKeyData.isPartialKey (dev.polled poll).keys
    rw [first] at head
    simpa using head
  rw [ConsoleInDev.entering_append, ← List.append_assoc] at room ⊢
  have before : (keyData :: (rest ++ dev.entering (interims.map Interim.devicePoll))).length <
      KEYPAD_EFI_KEY_MAX_COUNT := by
    rw [List.length_cons, List.length_append] at room
    rw [List.length_cons]
    omega
  rw [← waitEntering] at before room ⊢
  obtain ⟨waiting, works, entering⟩ :=
    ConsoleInDev.foldl_perform_keys waitWorks keys full interims before
  -- The poll of the read appends as well, and the read takes the first key.
  have polled := ConsoleInDev.polled_keys_headD works polls
  rw [waiting, entering, List.cons_append, RingBuffer.newest_of_length_lt room] at polled
  obtain ⟨after, worked, left, -, -⟩ := worker_of_cons works polled
  refine ⟨after, ?_, left⟩
  have rounds : polls.length + KEYPAD_EFI_KEY_MAX_COUNT =
      polls.length + 255 + 1 := rfl
  rw [keypadReadKeyStroke, rounds, readLoop, worked]
  simp only [full, Bool.false_eq_true, if_false]

end Wait

/-! ## A running device -/

/-- Whatever waits in the queue, a wait and a read agree on the next key. -/
theorem waits_and_reads_agree (consoleIn : ConsoleIn) (last : U64) :
    Reads ⟨consoleIn, false, last⟩ ∧ Signals ⟨consoleIn, false, last⟩ ∧
      PromisesNext ⟨consoleIn, false, last⟩ :=
  ⟨reads rfl, signals rfl, promisesNext rfl⟩

/-- A key without scan code and character. -/
def partialKey : EfiKeyData := ⟨⟨SCAN_NULL, CHAR_NULL⟩, ⟨0, 0⟩⟩

/-- The Enter key waits before as many partial keys as there is room for. -/
def fullDev : ConsoleInDev :=
  ⟨{ idleConsole.consoleIn with
      isSupportPartialKey := true
      efiKeyQueue := (enterKey :: List.replicate 254 partialKey).foldl RingBuffer.push
        emptyQueue }, false, 0⟩

theorem fullDev_keys : fullDev.keys = enterKey :: List.replicate 254 partialKey := by
  have few : (enterKey :: List.replicate 254 partialKey).length < KEYPAD_EFI_KEY_MAX_COUNT := by
    rw [List.length_cons, List.length_replicate]
    decide
  have empty : emptyQueue.contents = [] := rfl
  rw [ConsoleInDev.keys, fullDev, RingBuffer.contents_foldl_push one_lt_maxCount, empty,
    List.nil_append, RingBuffer.newest_of_length_lt few]

/-- One more key drives the Enter key out. -/
theorem fullDev_polled_keys :
    (fullDev.polled ⟨0, [partialKey]⟩).keys = List.replicate 255 partialKey := by
  have entering : fullDev.entering [⟨0, [partialKey]⟩] = [partialKey] := rfl
  rw [ConsoleInDev.polled_keys rfl, fullDev_keys, entering]
  decide +kernel

/-- When the poll of a read pushes one more key, the Enter key is dropped, and the read
finds no key. -/
theorem waiting_key_unread :
    enterKey ∈ fullDev.keys ∧ enterKey.isPartialKey = false ∧
      (keypadReadKeyStroke fullDev [⟨0, [partialKey]⟩]).map (·.1) = some (.error .notReady) := by
  refine ⟨?_, rfl, ?_⟩
  · rw [fullDev_keys]
    exact List.mem_cons_self
  · obtain ⟨next, worked, left, works, -⟩ := worker_of_cons rfl fullDev_polled_keys
    have few : next.keys.length < KEYPAD_EFI_KEY_MAX_COUNT := next.keys_length_lt
    -- Only partial keys are left for the rounds after the first one.
    have empty : (next.keys ++ next.entering []).dropWhile EfiKeyData.isPartialKey = [] := by
      rw [left, List.dropWhile_eq_nil_iff]
      intro key member
      rw [ConsoleInDev.entering, List.flatMap_nil, List.append_nil] at member
      rw [List.eq_of_mem_replicate member]
      rfl
    obtain ⟨made, remaining, result, after, split, looped, reads, -⟩ :=
      readLoop_eq works [] (.inr ⟨rfl, few⟩)
    obtain ⟨rfl, rfl⟩ := List.append_eq_nil_iff.mp split.symm
    rw [FirstKept, ReadsFirst, empty] at reads
    have rounds : [(⟨0, [partialKey]⟩ : DevicePoll)].length + KEYPAD_EFI_KEY_MAX_COUNT =
        KEYPAD_EFI_KEY_MAX_COUNT + 1 := rfl
    rw [keypadReadKeyStroke, rounds, readLoop, List.headD_cons, worked]
    simp only [List.tail_cons]
    rw [if_pos (by rfl), looped, (reads (by decide)).1]
    rfl

end HtcLeo.Keypad
