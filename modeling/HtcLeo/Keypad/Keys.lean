import Mathlib.Algebra.Group.Nat.Defs
import HtcLeo.Keypad.Core
import HtcLeo.Word.Bitmap

/-!
# The keys of the device

Every poll looks at seven keys in turn.  A key reports a press when it is released, or
when it has been held for 500 ms and from then on every 200 ms.  Two bitmaps record
which keys are down; the dial key, held together with another one, asks for a combo.
-/

namespace HtcLeo.Keypad

/-! ## The bitmaps of pressed keys -/

def MAX_SCANCODE : U16 := 0x18
def MAX_UNCODE_CHAR : U16 := 0x7f

def SCAN_UP : U16 := 0x01
def SCAN_DOWN : U16 := 0x02
def SCAN_HOME : U16 := 0x05
def SCAN_ESC : U16 := 0x17
def CHAR_BACKSPACE : U16 := 0x08
def CHAR_TAB : U16 := 0x09
def CHAR_CARRIAGE_RETURN : U16 := 0x0d

/-- The two bitmaps of the pressed keys. -/
structure Bitmaps where
  scanCodes : Bitmap
  unicodeChars : Bitmap

/-- The bit of a character, too, is found by the scan code. -/
def keySetState (bitmaps : Bitmaps) (scanCode unicodeChar : U16) (value : Bool) : Bitmaps where
  scanCodes :=
    if scanCode ≠ 0 ∧ scanCode < MAX_SCANCODE then
      bitmaps.scanCodes.assign scanCode.toNat value
    else bitmaps.scanCodes
  unicodeChars :=
    if unicodeChar ≠ 0 ∧ unicodeChar < MAX_UNCODE_CHAR then
      bitmaps.unicodeChars.assign scanCode.toNat value
    else bitmaps.unicodeChars

/-- `KeyGetState`; the character is looked up under the scan code. -/
def keyGetState (bitmaps : Bitmaps) (scanCode unicodeChar : U16) : Bool :=
  if (scanCode ≠ 0 ∧ scanCode < MAX_SCANCODE) ∧
      bitmaps.scanCodes.test scanCode.toNat = false then false
  else if (unicodeChar ≠ 0 ∧ unicodeChar < MAX_UNCODE_CHAR) ∧
      bitmaps.unicodeChars.test scanCode.toNat = false then false
  else true

/-! ## One key -/

/-- The states of a key. -/
inductive KeyState where
  | released
  | pressed
  | longpressRelease
  deriving DecidableEq, Repr

/-- `KEY_CONTEXT`. -/
structure KeyContext where
  keyData : EfiKeyData
  time : U64
  state : KeyState
  repeats : Bool
  longpress : Bool
  deriving DecidableEq, Repr

def MS2NS (ms : U64) : U64 := ms * 1000000

/-- Key data without shift or toggle state. -/
def plainKey (scanCode unicodeChar : U16) : EfiKeyData := ⟨⟨scanCode, unicodeChar⟩, ⟨0, 0⟩⟩

/-- `s`. -/
def gKeyDataPowerDown : EfiKeyData := plainKey 0 0x73

/-- `e`. -/
def gKeyDataPowerUp : EfiKeyData := plainKey 0 0x65

/-- Space. -/
def gKeyDataPowerLongpress : EfiKeyData := plainKey 0 0x20

/-- What the dial key reports once it was held for 500 ms. -/
def powerCombo (bitmaps : Bitmaps) : EfiKeyData :=
  if keyGetState bitmaps SCAN_DOWN 0 then gKeyDataPowerDown
  else if keyGetState bitmaps SCAN_UP 0 then gKeyDataPowerUp
  else gKeyDataPowerLongpress

/-- The state `KEYSTATE_PRESSED`, the key being down: the context and what is pushed. -/
def KeyContext.hold (context : KeyContext) (bitmaps : Bitmaps) :
    KeyContext × List EfiKeyData :=
  if context.repeats = true ∧ MS2NS 200 ≤ context.time then
    ({ context with time := 0, repeats := true }, [context.keyData])
  else if context.longpress = false ∧ MS2NS 500 ≤ context.time then
    if context.keyData.key.unicodeChar = CHAR_CARRIAGE_RETURN then
      ({ context with longpress := true }, [powerCombo bitmaps])
    else if keyGetState bitmaps 0 CHAR_CARRIAGE_RETURN = false then
      ({ context with time := 0, repeats := true, longpress := true }, [context.keyData])
    else ({ context with longpress := true }, [])
  else (context, [])

/-- Back to the state in which a press is noticed. -/
def KeyContext.release (context : KeyContext) : KeyContext :=
  { context with time := 0, repeats := false, longpress := false, state := .released }

/-- The state `KEYSTATE_PRESSED`, the key being up. -/
def KeyContext.letGo (context : KeyContext) : KeyContext × List EfiKeyData :=
  if context.longpress = false then
    ({ context with state := .longpressRelease }, [context.keyData])
  else if MS2NS 10 ≤ context.time then (context.release, [])
  else (context, [])

/-- The `switch` over the state. -/
def KeyContext.advance (context : KeyContext) (bitmaps : Bitmaps) (isPressed : Bool) :
    KeyContext × List EfiKeyData :=
  match context.state, isPressed with
  | .released, true => ({ context with time := 0, state := .pressed }, [])
  | .released, false => (context, [])
  | .pressed, true => context.hold bitmaps
  | .pressed, false => context.letGo
  | .longpressRelease, _ => (context.release, [])

/-- The new context, the new bitmaps, and what is pushed. -/
def libKeyUpdateKeyStatus (context : KeyContext) (bitmaps : Bitmaps) (isPressed : Bool)
    (delta : U64) : KeyContext × Bitmaps × List EfiKeyData :=
  let bitmaps := keySetState bitmaps context.keyData.key.scanCode
    context.keyData.key.unicodeChar isPressed
  let context := { context with time := context.time + delta }
  let advanced := context.advance bitmaps isPressed
  (advanced.1, bitmaps, advanced.2)

theorem KeyContext.advance_keyData (context : KeyContext) (bitmaps : Bitmaps)
    (isPressed : Bool) : (context.advance bitmaps isPressed).1.keyData = context.keyData := by
  unfold advance hold letGo release
  repeat' split
  all_goals rfl

/-! ## All keys -/

/-- The keys of the device. -/
inductive Key where
  | power
  | volumeUp
  | volumeDown
  | back
  | windows
  | home
  | dial
  deriving DecidableEq, Repr

/-- `KeyList`. -/
def keyList : List Key := [.power, .volumeUp, .volumeDown, .back, .windows, .home, .dial]

/-- The key data that `KeypadDeviceImplReset` gives a key. -/
def Key.data : Key → EfiKeyData
  | .power => plainKey SCAN_ESC 0
  | .volumeUp => plainKey SCAN_UP 0
  | .volumeDown => plainKey SCAN_DOWN 0
  | .back => plainKey 0 CHAR_BACKSPACE
  | .windows => plainKey 0 CHAR_TAB
  | .home => plainKey SCAN_HOME 0
  | .dial => plainKey 0 CHAR_CARRIAGE_RETURN

/-- The contexts of all keys, and the bitmaps. -/
structure Keys where
  contexts : Key → KeyContext
  bitmaps : Bitmaps

/-- The bitmaps stay as they are. -/
def keypadDeviceImplReset (keys : Keys) : Keys :=
  { keys with contexts := fun key => ⟨key.data, 0, .released, false, false⟩ }

/-- One poll: which keys the GPIO lines show pressed, and the time since the last one. -/
structure Poll where
  pressed : Key → Bool
  delta : U64

/-- The turn of one key: the keys afterwards. -/
def Keys.turn (poll : Poll) (keys : Keys) (key : Key) : Keys :=
  let updated := libKeyUpdateKeyStatus (keys.contexts key) keys.bitmaps
    (poll.pressed key) poll.delta
  ⟨Function.update keys.contexts key updated.1, updated.2.1⟩

/-- What the turn of one key pushes. -/
def Keys.pushes (poll : Poll) (keys : Keys) (key : Key) : List EfiKeyData :=
  (libKeyUpdateKeyStatus (keys.contexts key) keys.bitmaps (poll.pressed key) poll.delta).2.2

/-- The loop over the keys: the keys afterwards, and what was pushed in order. -/
def getKeysFrom (poll : Poll) : List Key → Keys → Keys × List EfiKeyData
  | [], keys => (keys, [])
  | key :: rest, keys =>
      let later := getKeysFrom poll rest (keys.turn poll key)
      (later.1, keys.pushes poll key ++ later.2)

/-- `KeypadDeviceImplGetKeys`, with the keys that it pushes. -/
def keypadDeviceImplGetKeys (keys : Keys) (poll : Poll) : Keys × List EfiKeyData :=
  getKeysFrom poll keyList keys

/-! ## The loop -/

section Loop

variable (poll : Poll) (keys : Keys)

/-- The context with which a key enters the `switch`. -/
def KeyContext.later (context : KeyContext) (delta : U64) : KeyContext :=
  { context with time := context.time + delta }

@[simp]
theorem KeyContext.later_keyData (context : KeyContext) (delta : U64) :
    (context.later delta).keyData = context.keyData := rfl

@[simp]
theorem KeyContext.later_state (context : KeyContext) (delta : U64) :
    (context.later delta).state = context.state := rfl

@[simp]
theorem KeyContext.later_repeats (context : KeyContext) (delta : U64) :
    (context.later delta).repeats = context.repeats := rfl

@[simp]
theorem KeyContext.later_longpress (context : KeyContext) (delta : U64) :
    (context.later delta).longpress = context.longpress := rfl

/-- The bitmaps with which a key enters the `switch`. -/
def Keys.marked (key : Key) : Bitmaps :=
  keySetState keys.bitmaps (keys.contexts key).keyData.key.scanCode
    (keys.contexts key).keyData.key.unicodeChar (poll.pressed key)

@[simp]
theorem Keys.turn_contexts_self (key : Key) : (keys.turn poll key).contexts key =
    (((keys.contexts key).later poll.delta).advance (keys.marked poll key)
      (poll.pressed key)).1 :=
  Function.update_self _ _ _

@[simp]
theorem Keys.turn_contexts_of_ne {key other : Key} (different : other ≠ key) :
    (keys.turn poll key).contexts other = keys.contexts other :=
  Function.update_of_ne different _ _

theorem Keys.pushes_eq (key : Key) : keys.pushes poll key =
    (((keys.contexts key).later poll.delta).advance (keys.marked poll key)
      (poll.pressed key)).2 :=
  rfl

@[simp]
theorem Keys.turn_bitmaps (key : Key) : (keys.turn poll key).bitmaps = keys.marked poll key :=
  rfl

theorem getKeysFrom_append (first second : List Key) :
    getKeysFrom poll (first ++ second) keys =
      ((getKeysFrom poll second (getKeysFrom poll first keys).1).1,
        (getKeysFrom poll first keys).2 ++
          (getKeysFrom poll second (getKeysFrom poll first keys).1).2) := by
  induction first generalizing keys with
  | nil => rfl
  | cons key rest ih => simp only [List.cons_append, getKeysFrom, ih, List.append_assoc]

/-- A key whose turn does not come stays as it is. -/
theorem getKeysFrom_contexts_of_notMem {list : List Key} {key : Key} (absent : key ∉ list) :
    (getKeysFrom poll list keys).1.contexts key = keys.contexts key := by
  induction list generalizing keys with
  | nil => rfl
  | cons other rest ih =>
      rw [List.mem_cons, not_or] at absent
      rw [getKeysFrom, ih _ absent.2, keys.turn_contexts_of_ne poll absent.1]

/-- Of the whole loop only its own turn changes a key. -/
theorem getKeysFrom_contexts {before after : List Key} {key : Key} (notAfter : key ∉ after) :
    (getKeysFrom poll (before ++ key :: after) keys).1.contexts key =
      ((getKeysFrom poll before keys).1.turn poll key).contexts key := by
  rw [getKeysFrom_append, getKeysFrom, getKeysFrom_contexts_of_notMem _ _ notAfter]

end Loop

end HtcLeo.Keypad
