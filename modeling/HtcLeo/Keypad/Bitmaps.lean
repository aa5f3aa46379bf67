import HtcLeo.Keypad.Keys
import HtcLeo.Transition.Run

/-!
# The bitmaps as the set of pressed keys

A call of `KeySetState` names a key by its scan code, by its character, or by both, and
`KeyGetState` is asked about one of the two.  The scan codes are kept as they should be.
The bit of a character is found by the scan code, so that all characters asked about
share bit `0`, and a scan code of 128 or more leads out of their bitmap.
-/

namespace HtcLeo.Keypad

open Transition

/-! ## Names of keys -/

/-- A key by one of its two codes. -/
inductive KeyName where
  | scanCode (code : U16)
  | unicodeChar (char : U16)
  deriving DecidableEq, Repr

/-- The code has a bit of its own in its bitmap. -/
def KeyName.InRange : KeyName → Prop
  | .scanCode code => code ≠ 0 ∧ code < MAX_SCANCODE
  | .unicodeChar char => char ≠ 0 ∧ char < MAX_UNCODE_CHAR

instance (name : KeyName) : Decidable name.InRange := by
  cases name <;> exact inferInstanceAs (Decidable (_ ∧ _))

/-- The question of `KeyGetState` about one name, the other one being `0`. -/
def KeyName.isDown (bitmaps : Bitmaps) : KeyName → Bool
  | .scanCode code => keyGetState bitmaps code 0
  | .unicodeChar char => keyGetState bitmaps 0 char

/-- The arguments of a call of `KeySetState`. -/
structure KeyCall where
  scanCode : U16
  unicodeChar : U16
  value : Bool
  deriving DecidableEq, Repr

/-- The call is about the key with this code. -/
def KeyCall.names (call : KeyCall) : KeyName → Bool
  | .scanCode code => call.scanCode == code
  | .unicodeChar char => call.unicodeChar == char

/-! ## The bits that a call touches -/

def BITMAP_NUM_WORDS (bits : Nat) : Nat := (bits + 32 - 1) / 32

/-- A bit, and the number of words of the bitmap in which it is touched. -/
structure BitAccess where
  words : Nat
  bit : Nat
  deriving DecidableEq, Repr

/-- The word of the bit is one of the bitmap. -/
def BitAccess.Inside (access : BitAccess) : Prop := access.bit / 32 < access.words

instance (access : BitAccess) : Decidable access.Inside :=
  inferInstanceAs (Decidable (_ < _))

/-- The bit of `gBitmapScanCodes` that a call touches, if it touches one. -/
def KeyCall.scanCodeBit (call : KeyCall) : Option BitAccess :=
  if (KeyName.scanCode call.scanCode).InRange then
    some ⟨BITMAP_NUM_WORDS MAX_SCANCODE.toNat, call.scanCode.toNat⟩
  else none

/-- The bit of `gBitmapUnicodeChars`. -/
def KeyCall.unicodeCharBit (call : KeyCall) : Option BitAccess :=
  if (KeyName.unicodeChar call.unicodeChar).InRange then
    some ⟨BITMAP_NUM_WORDS MAX_UNCODE_CHAR.toNat, call.scanCode.toNat⟩
  else none

/-! ## Sequences of calls -/

/-- The bitmaps, and the calls so far with the last one first. -/
structure KeyStates where
  bitmaps : Bitmaps
  calls : List KeyCall

/-- The bitmaps are zero at first. -/
def KeyStates.initial : KeyStates := ⟨⟨fun _ => 0, fun _ => 0⟩, []⟩

/-- The bitmaps after a call, with the call in front of the earlier ones. -/
def KeyStates.perform (states : KeyStates) (call : KeyCall) : KeyStates where
  bitmaps := keySetState states.bitmaps call.scanCode call.unicodeChar call.value
  calls := call :: states.calls

/-- The value of the last call that names a key; a key that was never named is up. -/
def KeyStates.lastValue (states : KeyStates) (name : KeyName) : Bool :=
  ((states.calls.find? (·.names name)).map KeyCall.value).getD false

theorem KeyStates.lastValue_perform (states : KeyStates) (call : KeyCall) (name : KeyName) :
    (states.perform call).lastValue name =
      if call.names name then call.value else states.lastValue name := by
  simp only [lastValue, KeyStates.perform, List.find?_cons]
  cases call.names name <;> rfl

/-! ## The property and its condition -/

/-- After a call each key is down exactly when the last call that names it says so, the
answer for a key that the call does not name is that of before, and the bits that the
call touches lie inside their bitmaps. -/
structure KeepsKeys (step : Step KeyStates KeyCall) : Prop where
  answers : ∀ name : KeyName, name.InRange →
    (name.isDown step.after.bitmaps = true ↔ step.after.lastValue name = true)
  others : ∀ name : KeyName, name.InRange → step.label.names name = false →
    name.isDown step.after.bitmaps = name.isDown step.before.bitmaps
  scanCodeInside : ∀ access ∈ step.label.scanCodeBit, access.Inside
  unicodeCharInside : ∀ access ∈ step.label.unicodeCharBit, access.Inside

/-- A call that names a character in range clears it, and the scan code beside it is the
number of a bit of the characters. -/
def ClearsCharacters (step : Step KeyStates KeyCall) : Prop :=
  (KeyName.unicodeChar step.label.unicodeChar).InRange →
    step.label.value = false ∧ step.label.scanCode.toNat < 128

/-! ## One call -/

@[simp]
theorem KeyName.isDown_scanCode {code : U16} (inRange : (KeyName.scanCode code).InRange)
    (bitmaps : Bitmaps) :
    (KeyName.scanCode code).isDown bitmaps = bitmaps.scanCodes.test code.toNat := by
  have present : code ≠ 0 ∧ code < MAX_SCANCODE := inRange
  simp only [isDown, keyGetState, present, ne_eq, not_true_eq_false, false_and, if_false,
    not_false_eq_true, true_and]
  cases bitmaps.scanCodes.test code.toNat <;> rfl

@[simp]
theorem KeyName.isDown_unicodeChar {char : U16} (inRange : (KeyName.unicodeChar char).InRange)
    (bitmaps : Bitmaps) :
    (KeyName.unicodeChar char).isDown bitmaps = bitmaps.unicodeChars.test 0 := by
  have present : char ≠ 0 ∧ char < MAX_UNCODE_CHAR := inRange
  simp only [isDown, keyGetState, present, ne_eq, not_true_eq_false, false_and, if_false,
    not_false_eq_true, true_and]
  show (if bitmaps.unicodeChars.test 0 = false then false else true) = _
  cases bitmaps.unicodeChars.test 0 <;> rfl

section Call

variable (bitmaps : Bitmaps) (call : KeyCall)

/-- The bitmaps after a call. -/
abbrev KeyCall.on (call : KeyCall) (bitmaps : Bitmaps) : Bitmaps :=
  keySetState bitmaps call.scanCode call.unicodeChar call.value

/-- Of the scan codes a call changes the one that it names. -/
theorem KeyCall.scanCodes_test {code : U16} (inRange : (KeyName.scanCode code).InRange) :
    (call.on bitmaps).scanCodes.test code.toNat =
      if call.scanCode = code then call.value else bitmaps.scanCodes.test code.toNat := by
  have present : code ≠ 0 ∧ code < MAX_SCANCODE := inRange
  simp only [keySetState]
  by_cases same : call.scanCode = code
  · rw [same, if_pos present, if_pos rfl, Bitmap.test_assign_self]
  · rw [if_neg same]
    split
    · apply Bitmap.test_assign_of_ne
      exact fun bits => same (BitVec.eq_of_toNat_eq bits.symm)
    · rfl

/-- Bit `0` of the characters changes when a character without scan code is named. -/
theorem KeyCall.unicodeChars_test :
    (call.on bitmaps).unicodeChars.test 0 =
      if (KeyName.unicodeChar call.unicodeChar).InRange ∧ call.scanCode = 0 then call.value
      else bitmaps.unicodeChars.test 0 := by
  have range : (KeyName.unicodeChar call.unicodeChar).InRange ↔
    call.unicodeChar ≠ 0 ∧ call.unicodeChar < MAX_UNCODE_CHAR := Iff.rfl
  simp only [keySetState, range]
  by_cases present : call.unicodeChar ≠ 0 ∧ call.unicodeChar < MAX_UNCODE_CHAR
  · rw [if_pos present]
    by_cases zero : call.scanCode = 0
    · rw [if_pos ⟨present, zero⟩, zero]
      exact Bitmap.test_assign_self _ _ _
    · rw [if_neg (fun both => zero both.2)]
      apply Bitmap.test_assign_of_ne
      exact fun bits => zero (BitVec.eq_of_toNat_eq bits.symm)
  · rw [if_neg present, if_neg (fun both => present both.1)]

/-- Scan codes in range have bits of their bitmap. -/
theorem KeyCall.scanCodeBit_inside : ∀ access ∈ call.scanCodeBit, access.Inside := by
  intro access touched
  rw [scanCodeBit] at touched
  split at touched
  · rename_i inRange
    cases touched
    have below : call.scanCode.toNat < 24 := BitVec.lt_def.mp inRange.2
    show call.scanCode.toNat / 32 < 1
    omega
  · exact absurd touched (Option.some_ne_none _).symm

/-- The bit of a character lies inside its bitmap exactly when the scan code is small. -/
theorem KeyCall.unicodeCharBit_inside (inRange : (KeyName.unicodeChar call.unicodeChar).InRange) :
    (∀ access ∈ call.unicodeCharBit, access.Inside) ↔ call.scanCode.toNat < 128 := by
  have words : BITMAP_NUM_WORDS MAX_UNCODE_CHAR.toNat = 4 := rfl
  rw [unicodeCharBit, if_pos inRange, words]
  simp only [Option.mem_some_iff, forall_eq', BitAccess.Inside]
  omega

end Call

/-! ## Runs -/

/-- What holds as long as no character was set: the scan codes are those last set, and no
character is down. -/
structure KeyStates.Tracked (states : KeyStates) : Prop where
  scanCodes : ∀ code : U16, (KeyName.scanCode code).InRange →
    states.bitmaps.scanCodes.test code.toNat = states.lastValue (.scanCode code)
  unicodeChars : states.bitmaps.unicodeChars.test 0 = false
  unset : ∀ char : U16, (KeyName.unicodeChar char).InRange →
    states.lastValue (.unicodeChar char) = false

/-- Besides any character there is another one in range. -/
theorem exists_other_character (char : U16) :
    ∃ other : U16, (KeyName.unicodeChar other).InRange ∧ other ≠ char := by
  by_cases first : char = 1
  · exact ⟨2, by decide, by rw [first]; decide⟩
  · exact ⟨1, by decide, Ne.symm first⟩

section Step

variable {states : KeyStates} {call : KeyCall} (tracked : states.Tracked)
include tracked

theorem KeyStates.Tracked.scanCodes_perform {code : U16}
    (inRange : (KeyName.scanCode code).InRange) :
    (states.perform call).bitmaps.scanCodes.test code.toNat =
      (states.perform call).lastValue (.scanCode code) := by
  rw [lastValue_perform, KeyStates.perform, call.scanCodes_test _ inRange,
    tracked.scanCodes code inRange]
  simp only [KeyCall.names, beq_iff_eq]

/-- Setting a character shows at another one, or does not show at all. -/
theorem KeyStates.Tracked.value_eq_false
    (inRange : (KeyName.unicodeChar call.unicodeChar).InRange)
    (answers : ∀ name : KeyName, name.InRange →
      (name.isDown (states.perform call).bitmaps = true ↔
        (states.perform call).lastValue name = true)) : call.value = false := by
  by_contra set
  rw [Bool.not_eq_false] at set
  have bit := call.unicodeChars_test states.bitmaps
  by_cases zero : call.scanCode = 0
  · rw [if_pos ⟨inRange, zero⟩, set] at bit
    obtain ⟨other, otherInRange, different⟩ := exists_other_character call.unicodeChar
    have answer := answers _ otherInRange
    rw [KeyName.isDown_unicodeChar otherInRange, lastValue_perform,
      if_neg (by simpa [KeyCall.names] using different.symm),
      tracked.unset other otherInRange] at answer
    exact Bool.false_ne_true (answer.mp bit)
  · rw [if_neg (fun both => zero both.2), tracked.unicodeChars] at bit
    have answer := answers _ inRange
    rw [KeyName.isDown_unicodeChar inRange, lastValue_perform, if_pos (by simp [KeyCall.names]),
      set] at answer
    exact Bool.false_ne_true (bit.symm.trans (answer.mpr rfl))

theorem KeyStates.Tracked.perform
    (clears : ClearsCharacters ⟨states, call, states.perform call⟩) :
    (states.perform call).Tracked := by
  constructor
  · exact fun code inRange => tracked.scanCodes_perform inRange
  · rw [KeyStates.perform, call.unicodeChars_test]
    split
    · rename_i named
      exact (clears named.1).1
    · exact tracked.unicodeChars
  · intro char inRange
    rw [lastValue_perform]
    split
    · rename_i named
      rw [← beq_iff_eq.mp named] at inRange
      exact (clears inRange).1
    · exact tracked.unset char inRange

theorem KeyStates.Tracked.keepsKeys_iff :
    KeepsKeys ⟨states, call, states.perform call⟩ ↔
      ClearsCharacters ⟨states, call, states.perform call⟩ := by
  constructor
  · intro keeps inRange
    constructor
    · exact tracked.value_eq_false inRange keeps.answers
    · exact (call.unicodeCharBit_inside inRange).mp keeps.unicodeCharInside
  · intro clears
    have after := tracked.perform clears
    constructor
    · intro name inRange
      cases name with
      | scanCode code => rw [KeyName.isDown_scanCode inRange, after.scanCodes code inRange]
      | unicodeChar char =>
          rw [KeyName.isDown_unicodeChar inRange, after.unicodeChars, after.unset char inRange]
    · intro name inRange unnamed
      cases name with
      | scanCode code =>
          rw [KeyName.isDown_scanCode inRange, KeyName.isDown_scanCode inRange]
          have other : call.scanCode ≠ code := by simpa [KeyCall.names] using unnamed
          exact (call.scanCodes_test _ inRange).trans (if_neg other)
      | unicodeChar char =>
          rw [KeyName.isDown_unicodeChar inRange, KeyName.isDown_unicodeChar inRange,
            after.unicodeChars, tracked.unicodeChars]
    · exact call.scanCodeBit_inside
    · by_cases inRange : (KeyName.unicodeChar call.unicodeChar).InRange
      · exact (call.unicodeCharBit_inside inRange).mpr (clears inRange).2
      · simp [KeyCall.unicodeCharBit, inRange]

end Step

/-- Along any sequence of calls, the bitmaps are the set of the keys that were set last
exactly when no call sets a character. -/
theorem keys_kept_iff (calls : List KeyCall) :
    (∀ step ∈ trace KeyStates.perform .initial calls, KeepsKeys step) ↔
      ∀ step ∈ trace KeyStates.perform .initial calls, ClearsCharacters step := by
  apply (run_trace_self KeyStates.perform .initial calls).forall_iff (I := KeyStates.Tracked)
  · exact ⟨fun _ _ => Bitmap.test_zero _, Bitmap.test_zero _, fun _ _ => rfl⟩
  · rintro before call _ tracked rfl
    exact tracked.keepsKeys_iff
  · rintro before call _ tracked rfl keeps
    exact tracked.perform (tracked.keepsKeys_iff.mp keeps)

/-- The back key is set, and the dial key counts as pressed. -/
theorem backspace_sets_return :
    ∃ step ∈ trace KeyStates.perform .initial [⟨0, CHAR_BACKSPACE, true⟩], ¬ KeepsKeys step := by
  refine ⟨_, .head _, fun keeps => ?_⟩
  have answer := keeps.answers (.unicodeChar CHAR_CARRIAGE_RETURN) (by decide)
  exact absurd (answer.mp (by decide +kernel)) (by decide)

end HtcLeo.Keypad
