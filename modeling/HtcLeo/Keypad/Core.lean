import HtcLeo.Queue.RingBuffer
import HtcLeo.Word.Flags

/-!
# Key notifications

A keystroke is pushed once for every registered entry it matches to the notify queue,
and once to the queue of the readers.  `KeyNotifyProcessHandler` later empties the
notify queue and calls, for every keystroke in it, every entry that matches.
-/

namespace HtcLeo.Keypad

/-! ## Keys and queues -/

/-- `EFI_INPUT_KEY`. -/
structure EfiInputKey where
  scanCode : U16
  unicodeChar : U16
  deriving DecidableEq, Repr

/-- `EFI_KEY_STATE`. -/
structure EfiKeyState where
  keyShiftState : U32
  keyToggleState : U8
  deriving DecidableEq, Repr

/-- `EFI_KEY_DATA`. -/
structure EfiKeyData where
  key : EfiInputKey
  keyState : EfiKeyState
  deriving DecidableEq, Repr

def KEYPAD_EFI_KEY_MAX_COUNT : Nat := 256

/-- `EFI_KEY_QUEUE`. -/
abbrev EfiKeyQueue := RingBuffer EfiKeyData KEYPAD_EFI_KEY_MAX_COUNT

/-- `none` is `EFI_NOT_READY`. -/
def popEfikeyBufHead (queue : EfiKeyQueue) : Option (EfiKeyData × EfiKeyQueue) :=
  queue.pop

/-- `PushEfikeyBufTail`. -/
def pushEfikeyBufTail (queue : EfiKeyQueue) (keyData : EfiKeyData) : EfiKeyQueue :=
  queue.push keyData

/-- A registered shift or toggle state of `0` means that this state is ignored. -/
def isKeyRegistered (regsiteredData inputData : EfiKeyData) : Bool :=
  if regsiteredData.key.scanCode ≠ inputData.key.scanCode ∨
      regsiteredData.key.unicodeChar ≠ inputData.key.unicodeChar then false
  else if regsiteredData.keyState.keyShiftState ≠ 0 ∧
      regsiteredData.keyState.keyShiftState ≠ inputData.keyState.keyShiftState then false
  else if regsiteredData.keyState.keyToggleState ≠ 0 ∧
      regsiteredData.keyState.keyToggleState ≠ inputData.keyState.keyToggleState then false
  else true

/-! ## The console device -/

/-- `KEYPAD_CONSOLE_IN_EX_NOTIFY`; the address of an entry is its handle. -/
structure Notify where
  address : U32
  keyData : EfiKeyData
  keyNotificationFn : U32
  deriving DecidableEq, Repr

/-- What notifications use of `KEYPAD_CONSOLE_IN_DEV`; the event is on when signalled. -/
structure ConsoleIn where
  isSupportPartialKey : Bool
  efiKeyQueue : EfiKeyQueue
  efiKeyQueueForNotify : EfiKeyQueue
  notifyList : List Notify
  keyNotifyProcessEvent : Bool

def SCAN_NULL : U16 := 0
def CHAR_NULL : U16 := 0

/-- The key can not be converted. -/
def EfiKeyData.isPartialKey (keyData : EfiKeyData) : Bool :=
  keyData.key.scanCode == SCAN_NULL && keyData.key.unicodeChar == CHAR_NULL

/-- One round of the loop over the notify list. -/
def ConsoleIn.signal (keyData : EfiKeyData) (consoleIn : ConsoleIn) (currentNotify : Notify) :
    ConsoleIn :=
  if isKeyRegistered currentNotify.keyData keyData then
    { consoleIn with
      efiKeyQueueForNotify := pushEfikeyBufTail consoleIn.efiKeyQueueForNotify keyData
      keyNotifyProcessEvent := true }
  else consoleIn

/-- `KeypadReturnApiPushEfikeyBufTail`. -/
def keypadReturnApiPushEfikeyBufTail (consoleIn : ConsoleIn) (keyData : EfiKeyData) :
    ConsoleIn :=
  if keyData.isPartialKey && !consoleIn.isSupportPartialKey then consoleIn
  else
    let signalled := consoleIn.notifyList.foldl (ConsoleIn.signal keyData) consoleIn
    { signalled with efiKeyQueue := pushEfikeyBufTail signalled.efiKeyQueue keyData }

/-! ## Registration -/

/-- The statuses of the notification functions. -/
inductive EfiStatus where
  | success
  | outOfResources
  | invalidParameter
  deriving DecidableEq, Repr

/-- A null pointer is `none` for the key data, `0` for the function, `false` for the
place of the handle; `allocated` is what `AllocateZeroPool` returns.  The result has the
status, the handle if one is stored, and the device afterwards. -/
def keypadRegisterKeyNotify (consoleIn : ConsoleIn) (keyData : Option EfiKeyData)
    (keyNotificationFunction : U32) (notifyHandle : Bool) (allocated : U32) :
    EfiStatus × Option U32 × ConsoleIn :=
  match keyData with
  | none => (.invalidParameter, none, consoleIn)
  | some keyData =>
    if notifyHandle = false ∨ keyNotificationFunction = 0 then
      (.invalidParameter, none, consoleIn)
    else
      match consoleIn.notifyList.find? fun currentNotify =>
          isKeyRegistered currentNotify.keyData keyData &&
            currentNotify.keyNotificationFn == keyNotificationFunction with
      | some currentNotify => (.success, some currentNotify.address, consoleIn)
      | none =>
        if allocated = 0 then (.outOfResources, none, consoleIn)
        else
          let newNotify := ⟨allocated, keyData, keyNotificationFunction⟩
          (.success, some allocated,
            { consoleIn with notifyList := consoleIn.notifyList ++ [newNotify] })

/-- `KeypadUnregisterKeyNotify`. -/
def keypadUnregisterKeyNotify (consoleIn : ConsoleIn) (notificationHandle : U32) :
    EfiStatus × ConsoleIn :=
  if notificationHandle = 0 then (.invalidParameter, consoleIn)
  else if consoleIn.notifyList.any (·.address == notificationHandle) then
    (.success,
      { consoleIn with
        notifyList := consoleIn.notifyList.eraseP (·.address == notificationHandle) })
  else (.invalidParameter, consoleIn)

/-! ## Calling the registered functions -/

/-- One call of a registered function. -/
structure Call where
  keyNotificationFn : U32
  keyData : EfiKeyData
  deriving DecidableEq, Repr

/-- The entries of a list that match a keystroke. -/
def matching (notifyList : List Notify) (keyData : EfiKeyData) : List Notify :=
  notifyList.filter fun currentNotify => isKeyRegistered currentNotify.keyData keyData

/-- The inner loop of the handler. -/
def notifyCalls (notifyList : List Notify) (keyData : EfiKeyData) : List Call :=
  (matching notifyList keyData).map fun currentNotify =>
    ⟨currentNotify.keyNotificationFn, keyData⟩

/-- The outer loop of the handler, for at most `fuel` keystrokes. -/
def keyNotifyLoop (notifyList : List Notify) : Nat → EfiKeyQueue → List Call × EfiKeyQueue
  | 0, queue => ([], queue)
  | fuel + 1, queue =>
      match popEfikeyBufHead queue with
      | none => ([], queue)
      | some (keyData, rest) =>
          let later := keyNotifyLoop notifyList fuel rest
          (notifyCalls notifyList keyData ++ later.1, later.2)

/-- The handler runs when its event was signalled, and the firmware then clears the
event.  A queue holds fewer than `KEYPAD_EFI_KEY_MAX_COUNT` keystrokes. -/
def keyNotifyProcessHandler (consoleIn : ConsoleIn) : List Call × ConsoleIn :=
  let drained := keyNotifyLoop consoleIn.notifyList KEYPAD_EFI_KEY_MAX_COUNT
    consoleIn.efiKeyQueueForNotify
  (drained.1,
    { consoleIn with efiKeyQueueForNotify := drained.2, keyNotifyProcessEvent := false })

/-- The loop ends because the queue is empty, and has called every matching entry for
every keystroke in turn. -/
theorem keyNotifyLoop_eq (notifyList : List Notify) {fuel : Nat} {queue : EfiKeyQueue}
    (enough : queue.contents.length < fuel) :
    (keyNotifyLoop notifyList fuel queue).1 = queue.contents.flatMap (notifyCalls notifyList) ∧
      (keyNotifyLoop notifyList fuel queue).2.contents = [] := by
  induction fuel generalizing queue with
  | zero => exact absurd enough (Nat.not_lt_zero _)
  | succ fuel ih =>
      cases waiting : queue.contents with
      | nil =>
          rw [keyNotifyLoop, popEfikeyBufHead, RingBuffer.pop_of_nil waiting]
          exact ⟨rfl, waiting⟩
      | cons oldest others =>
          rcases RingBuffer.pop_of_cons waiting with ⟨popped, left⟩
          rw [keyNotifyLoop, popEfikeyBufHead, popped]
          rw [waiting, List.length_cons] at enough
          have fewer : queue.advance.contents.length < fuel := by
            rw [left]
            omega
          rcases ih fewer with ⟨calls, empty⟩
          constructor
          · rw [List.flatMap_cons, ← left]
            exact congrArg _ calls
          · exact empty

theorem keyNotifyProcessHandler_calls (consoleIn : ConsoleIn) :
    (keyNotifyProcessHandler consoleIn).1 =
      consoleIn.efiKeyQueueForNotify.contents.flatMap (notifyCalls consoleIn.notifyList) := by
  apply (keyNotifyLoop_eq _ _).1
  rw [RingBuffer.contents_length]
  exact RingBuffer.count_lt _

/-- The handler leaves nothing behind. -/
theorem keyNotifyProcessHandler_contents (consoleIn : ConsoleIn) :
    (keyNotifyProcessHandler consoleIn).2.efiKeyQueueForNotify.contents = [] := by
  apply (keyNotifyLoop_eq _ _).2
  rw [RingBuffer.contents_length]
  exact RingBuffer.count_lt _

/-- As long as the notify queue has room, a keystroke enters it once for every entry
that matches. -/
theorem foldl_signal_contents (keyData : EfiKeyData) (notifyList : List Notify)
    {consoleIn : ConsoleIn}
    (room : consoleIn.efiKeyQueueForNotify.contents.length +
      (matching notifyList keyData).length < KEYPAD_EFI_KEY_MAX_COUNT) :
    (notifyList.foldl (ConsoleIn.signal keyData) consoleIn).efiKeyQueueForNotify.contents =
      consoleIn.efiKeyQueueForNotify.contents ++
        List.replicate (matching notifyList keyData).length keyData := by
  induction notifyList generalizing consoleIn with
  | nil => simp [matching]
  | cons entry rest ih =>
      rw [List.foldl_cons]
      by_cases registered : isKeyRegistered entry.keyData keyData = true
      · have more : (matching (entry :: rest) keyData).length =
            (matching rest keyData).length + 1 := by
          simp [matching, registered]
        have pushed : (consoleIn.signal keyData entry).efiKeyQueueForNotify.contents =
            consoleIn.efiKeyQueueForNotify.contents ++ [keyData] := by
          rw [ConsoleIn.signal, if_pos registered]
          exact RingBuffer.contents_push_of_room (by omega) keyData
        rw [ih (by rw [pushed, List.length_append, List.length_singleton]; omega), pushed, more,
          List.append_assoc, List.replicate_succ, List.singleton_append]
      · have same : matching (entry :: rest) keyData = matching rest keyData := by
          simp [matching, registered]
        rw [ConsoleIn.signal, if_neg registered, same]
        exact ih (by rwa [← same])

end HtcLeo.Keypad
