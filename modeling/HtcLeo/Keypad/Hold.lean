import HtcLeo.Keypad.Keys
import HtcLeo.Transition.Run

/-!
# Holding a key

From the poll that first sees a press, the time is added up until the key is due, 500 ms
later and then every 200 ms.  The code asks before the first report whether the dial key
is down, but the bit that it looks at is one for all keys that have a character: the
back key and the windows key see themselves, and the home key sees the windows key.
-/

namespace HtcLeo.Keypad

open Transition

/-! ## Turns -/

/-- After a reset the key data stays, and the dial key is up as long as it is not
pressed. -/
structure Keys.Known (keys : Keys) : Prop where
  data : ∀ key, (keys.contexts key).keyData = key.data
  dial : (keys.contexts .dial).state = .released

section Turns

variable {poll : Poll} {keys : Keys} (undialled : poll.pressed .dial = false)
include undialled

theorem Keys.Known.turn (known : keys.Known) (key : Key) : (keys.turn poll key).Known := by
  constructor
  · intro other
    by_cases same : other = key
    · subst same
      rw [Keys.turn_contexts_self, KeyContext.advance_keyData]
      exact known.data other
    · rw [Keys.turn_contexts_of_ne poll keys same]
      exact known.data other
  · by_cases same : Key.dial = key
    · subst same
      simp [KeyContext.advance, KeyContext.later, known.dial, undialled]
    · rw [Keys.turn_contexts_of_ne poll keys same]
      exact known.dial

theorem Keys.Known.getKeysFrom (known : keys.Known) (list : List Key) :
    (getKeysFrom poll list keys).1.Known := by
  induction list generalizing keys with
  | nil => exact known
  | cons key rest ih => exact ih (known.turn undialled key)

omit undialled in
/-- A key without a combo pushes nothing but its own data. -/
theorem KeyContext.mem_advance {context : KeyContext} {bitmaps : Bitmaps} {isPressed : Bool}
    {keyData : EfiKeyData} (plain : context.keyData.key.unicodeChar ≠ CHAR_CARRIAGE_RETURN)
    (pushed : keyData ∈ (context.advance bitmaps isPressed).2) : keyData = context.keyData := by
  unfold advance hold letGo at pushed
  rw [if_neg plain] at pushed
  repeat' split at pushed
  all_goals simp_all

omit undialled in
theorem Key.data_injective {key other : Key} (different : key ≠ other) :
    key.data ≠ other.data := by
  cases key <;> cases other <;> first | decide | exact absurd rfl different

theorem Keys.Known.notMem_pushes (known : keys.Known) {key other : Key}
    (different : key ≠ other) : key.data ∉ keys.pushes poll other := by
  rw [Keys.pushes_eq]
  by_cases dial : other = .dial
  · subst dial
    simp [KeyContext.advance, KeyContext.later, known.dial, undialled]
  · intro pushed
    have data : ((keys.contexts other).later poll.delta).keyData = other.data := known.data other
    have plain : other.data.key.unicodeChar ≠ CHAR_CARRIAGE_RETURN := by
      cases other <;> first | decide | exact absurd rfl dial
    have same := KeyContext.mem_advance (by rwa [data]) pushed
    exact Key.data_injective different (same.trans data)

/-- Keys whose turn does not come are not pushed. -/
theorem Keys.Known.notMem_getKeysFrom (known : keys.Known) {list : List Key} {key : Key}
    (absent : key ∉ list) : key.data ∉ (Keypad.getKeysFrom poll list keys).2 := by
  induction list generalizing keys with
  | nil => exact List.not_mem_nil
  | cons other rest ih =>
      rw [List.mem_cons, not_or] at absent
      rw [Keypad.getKeysFrom, List.mem_append, not_or]
      exact ⟨known.notMem_pushes undialled absent.1, ih (known.turn undialled other) absent.2⟩

/-- Of the whole loop only its own turn pushes a key. -/
theorem Keys.Known.count_pushes (known : keys.Known) {before after : List Key} {key : Key}
    (notBefore : key ∉ before) (notAfter : key ∉ after) :
    (Keypad.getKeysFrom poll (before ++ key :: after) keys).2.count key.data =
      ((Keypad.getKeysFrom poll before keys).1.pushes poll key).count key.data := by
  have middle := known.getKeysFrom undialled before
  rw [getKeysFrom_append, Keypad.getKeysFrom, List.count_append, List.count_append,
    List.count_eq_zero.mpr (known.notMem_getKeysFrom undialled notBefore),
    List.count_eq_zero.mpr
      ((middle.turn undialled key).notMem_getKeysFrom undialled notAfter),
    Nat.zero_add, Nat.add_zero]

/-! ## The bit of the dial key -/

/-- Keys with a character and no scan code: all of them use bit `0`. -/
def Key.isChar : Key → Bool
  | .back | .windows | .dial => true
  | _ => false

omit undialled in
theorem keyGetState_dial (bitmaps : Bitmaps) :
    keyGetState bitmaps 0 CHAR_CARRIAGE_RETURN = bitmaps.unicodeChars.test 0 := by
  cases test : bitmaps.unicodeChars.test 0 <;>
    simp [keyGetState, CHAR_CARRIAGE_RETURN, MAX_UNCODE_CHAR, test]

omit undialled in
theorem Keys.Known.marked (known : keys.Known) (key : Key) :
    (keys.marked poll key).unicodeChars.test 0 =
      if key.isChar then poll.pressed key else keys.bitmaps.unicodeChars.test 0 := by
  rw [Keys.marked, known.data]
  cases key <;> first | rfl | exact Bitmap.test_assign_self _ _ _

theorem Keys.Known.getKeysFrom_dial (known : keys.Known) (list : List Key) :
    (Keypad.getKeysFrom poll list keys).1.bitmaps.unicodeChars.test 0 =
      list.foldl (fun bit key => if key.isChar then poll.pressed key else bit)
        (keys.bitmaps.unicodeChars.test 0) := by
  induction list generalizing keys with
  | nil => rfl
  | cons key rest ih =>
      rw [Keypad.getKeysFrom, ih (known.turn undialled key), List.foldl_cons,
        Keys.turn_bitmaps, known.marked]

/-- What a key sees at its turn where the bit of the dial key should be, given the bit
before the poll. -/
def Poll.seen (poll : Poll) (bit : Bool) : Key → Bool
  | .power | .volumeUp | .volumeDown => bit
  | .back => poll.pressed .back
  | .windows | .home => poll.pressed .windows
  | .dial => poll.pressed .dial

omit undialled in
/-- Every key has one place in the list. -/
theorem keyList_split (key : Key) : ∃ before after, keyList = before ++ key :: after ∧
    key ∉ before ∧ key ∉ after ∧ ∀ (poll : Poll) (bit : Bool),
      (if key.isChar then poll.pressed key else
        before.foldl (fun bit key => if key.isChar then poll.pressed key else bit) bit) =
          poll.seen bit key := by
  refine ⟨keyList.takeWhile (· ≠ key), (keyList.dropWhile (· ≠ key)).tail, ?_⟩
  cases key <;> exact ⟨rfl, by decide, by decide, fun _ _ => rfl⟩

/-- One poll, for one key. -/
theorem Keys.Known.getKeys (known : keys.Known) (key : Key) :
    ∃ bitmaps,
      keyGetState bitmaps 0 CHAR_CARRIAGE_RETURN =
        poll.seen (keys.bitmaps.unicodeChars.test 0) key ∧
      (keypadDeviceImplGetKeys keys poll).1.contexts key =
        (((keys.contexts key).later poll.delta).advance bitmaps (poll.pressed key)).1 ∧
      (keypadDeviceImplGetKeys keys poll).2.count key.data =
        (((keys.contexts key).later poll.delta).advance bitmaps
          (poll.pressed key)).2.count key.data := by
  rcases keyList_split key with ⟨before, after, split, notBefore, notAfter, seen⟩
  have middle := known.getKeysFrom undialled before
  have unchanged := getKeysFrom_contexts_of_notMem poll keys notBefore
  refine ⟨(Keypad.getKeysFrom poll before keys).1.marked poll key, ?_, ?_, ?_⟩
  · rw [keyGetState_dial, middle.marked, known.getKeysFrom_dial undialled, seen]
  · rw [keypadDeviceImplGetKeys, split, getKeysFrom_contexts poll keys notAfter,
      Keys.turn_contexts_self, unchanged]
  · rw [keypadDeviceImplGetKeys, split, known.count_pushes undialled notBefore notAfter,
      Keys.pushes_eq, unchanged]

/-- After a poll the bit is that of the dial key. -/
theorem Keys.Known.getKeys_dial (known : keys.Known) :
    (keypadDeviceImplGetKeys keys poll).1.bitmaps.unicodeChars.test 0 = false :=
  (known.getKeysFrom_dial undialled keyList).trans undialled

end Turns

end HtcLeo.Keypad
