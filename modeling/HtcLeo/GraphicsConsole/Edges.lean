import HtcLeo.GraphicsConsole.Start

/-!
# Edges of the graphics console

A string can be too long for the counter of `TestString`, and there can be no memory for
the line buffer of a new mode.
-/

namespace HtcLeo.GraphicsConsole

open Raster

/-! ## TestString -/

/-- The loop of `GraphicsConsoleConOutTestString`, with at most so many rounds: the counter has
16 bits.  `getGlyph` is the status of `GetGlyph`, which has a warning for a missing glyph. -/
def testString (getGlyph : U16 → EfiStatus) (string : List U16) : Nat → U16 → Option EfiStatus
  | 0, _ => none
  | fuel + 1, count =>
      match string[count.toNat]? with
      | none => some .success
      | some character =>
          if (getGlyph character).isError then some .unsupported
          else testString getGlyph string fuel (count + 1)

section TestString

variable {getGlyph : U16 → EfiStatus} {string : List U16} {fuel : Nat} {count : U16}

theorem toNat_add_one (inside : count.toNat + 1 < 65536) :
    (count + 1).toNat = count.toNat + 1 := by
  have one : (1 : U16).toNat = 1 := rfl
  rw [BitVec.toNat_add, one]
  exact Nat.mod_eq_of_lt inside

/-- Where the string has an end that the counter reaches, and no character is refused, the loop
comes to the end. -/
theorem testString_of_short (short : string.length < 65536)
    (drawn : ∀ character ∈ string, (getGlyph character).isError = false)
    (enough : string.length - count.toNat < fuel) :
    testString getGlyph string fuel count = some .success := by
  induction fuel generalizing count with
  | zero => exact absurd enough (Nat.not_lt_zero _)
  | succ fuel ih =>
      rw [testString]
      cases found : string[count.toNat]? with
      | none => rfl
      | some character =>
          obtain ⟨inside, rfl⟩ := List.getElem?_eq_some_iff.mp found
          have next := @toNat_add_one count (by omega)
          simp only [drawn _ (List.getElem_mem inside), Bool.false_eq_true, if_false]
          exact ih (by omega)

/-- Without an end that the counter reaches, the loop goes on. -/
theorem testString_of_long (long : 65536 ≤ string.length)
    (drawn : ∀ character ∈ string.take 65536, (getGlyph character).isError = false) :
    testString getGlyph string fuel count = none := by
  induction fuel generalizing count with
  | zero => rfl
  | succ fuel ih =>
      have inside : count.toNat < string.length := Nat.lt_of_lt_of_le count.isLt long
      have member : string[count.toNat] ∈ string.take 65536 :=
        List.mem_take_iff_getElem.mpr ⟨count.toNat, by have := count.isLt; omega, rfl⟩
      simp only [testString, List.getElem?_eq_getElem inside, drawn _ member,
        Bool.false_eq_true, if_false]
      exact ih

/-- A character that is refused is found before the counter comes round. -/
theorem testString_of_refused {index : Nat} (small : index < 65536)
    (inside : index < string.length) (refused : (getGlyph string[index]).isError = true)
    (before : count.toNat ≤ index) (enough : index - count.toNat < fuel) :
    testString getGlyph string fuel count = some .unsupported := by
  induction fuel generalizing count with
  | zero => exact absurd enough (Nat.not_lt_zero _)
  | succ fuel ih =>
      simp only [testString, List.getElem?_eq_getElem (Nat.lt_of_le_of_lt before inside)]
      split
      · rfl
      · next drawn =>
          have apart : count.toNat ≠ index := by
            rintro rfl
            exact drawn refused
          have next := @toNat_add_one count (by omega)
          exact ih (by omega) (by omega)

/-- More rounds do not change a result. -/
theorem testString_mono {more : Nat} {status : EfiStatus}
    (returned : testString getGlyph string fuel count = some status) (le : fuel ≤ more) :
    testString getGlyph string more count = some status := by
  induction fuel generalizing count more with
  | zero => exact nomatch returned
  | succ fuel ih =>
      cases more with
      | zero => exact absurd le (Nat.not_succ_le_zero _)
      | succ more =>
          rw [testString] at returned ⊢
          split
          · next found =>
              rw [found] at returned
              exact returned
          · next found =>
              rw [found] at returned
              simp only at returned
              split
              · next refused =>
                  rw [if_pos refused] at returned
                  exact returned
              · next drawn =>
                  rw [if_neg drawn] at returned
                  exact ih returned (Nat.le_of_succ_le_succ le)

/-- What `TestString` returns: only an error of `GetGlyph` is looked at, and where a string of
65536 characters or more begins with 65536 characters that have none, it returns nothing. -/
theorem testString_returns_iff (getGlyph : U16 → EfiStatus) (string : List U16)
    (status : EfiStatus) :
    (∃ fuel, testString getGlyph string fuel 0 = some status) ↔
      string.length < 65536 ∧ (∀ character ∈ string, (getGlyph character).isError = false) ∧
          status = .success ∨
        (∃ character ∈ string.take 65536, (getGlyph character).isError = true) ∧
          status = .unsupported := by
  have unsupported {index : Nat} (inside : index < (string.take 65536).length)
      (refused : (getGlyph (string.take 65536)[index]).isError = true) :
      testString getGlyph string (index + 1) 0 = some .unsupported := by
    rw [List.length_take] at inside
    rw [List.getElem_take] at refused
    exact testString_of_refused (by omega) (by omega) refused (Nat.zero_le _)
      (Nat.lt_succ_self _)
  have success (short : string.length < 65536)
      (drawn : ∀ character ∈ string, (getGlyph character).isError = false) :
      testString getGlyph string (string.length + 1) 0 = some .success :=
    testString_of_short short drawn (Nat.lt_succ_of_le (Nat.sub_le _ _))
  constructor
  · rintro ⟨fuel, returned⟩
    by_cases refused : ∃ character ∈ string.take 65536, (getGlyph character).isError = true
    · obtain ⟨character, member, refused⟩ := refused
      obtain ⟨index, inside, rfl⟩ := List.getElem_of_mem member
      have early := testString_mono (unsupported inside refused) (Nat.le_max_left _ fuel)
      rw [testString_mono returned (Nat.le_max_right (index + 1) fuel)] at early
      exact .inr ⟨⟨_, member, refused⟩, Option.some.inj early⟩
    · have drawn : ∀ character ∈ string.take 65536, (getGlyph character).isError = false :=
        fun character member =>
          eq_false_of_ne_true fun fails => refused ⟨character, member, fails⟩
      rcases Nat.lt_or_ge string.length 65536 with short | long
      · rw [List.take_of_length_le (Nat.le_of_lt short)] at drawn
        have ended := testString_mono (success short drawn) (Nat.le_max_left _ fuel)
        rw [testString_mono returned (Nat.le_max_right (string.length + 1) fuel)] at ended
        exact .inl ⟨short, drawn, Option.some.inj ended⟩
      · rw [testString_of_long long drawn] at returned
        exact nomatch returned
  · rintro (⟨short, drawn, rfl⟩ | ⟨⟨character, member, refused⟩, rfl⟩)
    · exact ⟨string.length + 1, success short drawn⟩
    · obtain ⟨index, inside, rfl⟩ := List.getElem_of_mem member
      exact ⟨index + 1, unsupported inside refused⟩

/-- A missing glyph is only warned about. -/
example : testString (fun _ => .warnUnknownGlyph) [0x0041] 2 0 = some .success :=
  rfl

end TestString

/-! ## No memory for a mode -/

/-- Every call of `FreePool` counts. -/
theorem LineBuffer.free_eq_self_iff {lineBuffer : LineBuffer} :
    lineBuffer.free = lineBuffer ↔ lineBuffer = .null := by
  cases lineBuffer with
  | null => exact iff_of_true rfl rfl
  | allocated => exact iff_of_false nofun nofun
  | dangling frees =>
      refine iff_of_false (fun same => ?_) nofun
      exact absurd (LineBuffer.dangling.inj same) (Nat.succ_ne_self frees)

namespace GraphicsConsoleDev

section NoMemory

variable {outside : Outside} {device : GraphicsConsoleDev} {mode : GraphicsConsoleModeData}
  {modeNumber : Nat} {foreground : U32}

/-- The cursor is on the screen and has a color that changes pixels. -/
def ShowsCursor (device : GraphicsConsoleDev) : Prop :=
  ∃ mode, device.currentMode = some mode ∧ device.cursorVisible = true ∧
    (glyphRect mode device.cursorColumn device.cursorRow).Inside device.graphicsOutput.screen ∧
    device.getTextColors.1 ≠ 0

theorem cursorPixel_zero (x y : Nat) (pixel : U32) : cursorPixel 0 x y pixel = pixel := by
  rw [cursorPixel]
  split
  · exact BitVec.xor_zero
  · rfl

/-- The bar of the cursor begins in the row 16. -/
theorem cursorPixel_bar (pixel : U32) : cursorPixel foreground 0 16 pixel = pixel ^^^ foreground :=
  rfl

theorem eq_zero_of_xor_eq {pixel : U32} (same : pixel ^^^ foreground = pixel) : foreground = 0 := by
  have cancelled := congrArg (pixel ^^^ ·) same
  simp only [← BitVec.xor_assoc, BitVec.xor_self, BitVec.zero_xor] at cancelled
  exact cancelled

/-- Drawing the cursor changes the screen exactly where the cursor can be seen. -/
theorem flushCursor_graphicsOutput_iff :
    device.flushCursor.graphicsOutput = device.graphicsOutput ↔ ¬ device.ShowsCursor := by
  constructor
  · rintro same ⟨mode, current, visible, inside, colored⟩
    have pixels : device.flushCursor.graphicsOutput.pixels = device.graphicsOutput.pixels := by
      rw [same]
    rw [flushCursor_eq] at pixels
    simp only [flipped, current, visible, inside, and_self, if_true] at pixels
    let rect := glyphRect mode device.cursorColumn device.cursorRow
    have contains : rect.Contains rect.left (rect.top + 16) := by
      refine ⟨Nat.le_refl _, ?_, Nat.le_add_right _ _, ?_⟩ <;> simp only [rect, glyphRect] <;> omega
    have bar := congrFun (congrFun pixels rect.left) (rect.top + 16)
    rw [stamp_of_contains contains, Nat.sub_self, Nat.add_sub_cancel_left, recolor,
      cursorPixel_bar] at bar
    exact colored (eq_zero_of_xor_eq bar)
  · intro hidden
    have unchanged : device.flipped device.cursorColumn device.cursorRow
        device.graphicsOutput.pixels = device.graphicsOutput.pixels := by
      cases current : device.currentMode with
      | none => simp only [flipped, current]
      | some mode =>
          simp only [flipped, current]
          split
          · next drawn =>
              have colorless : device.getTextColors.1 = 0 := by
                by_cases colored : device.getTextColors.1 = 0
                · exact colored
                · exact absurd ⟨mode, current, drawn.1, drawn.2, colored⟩ hidden
              funext x y
              rw [colorless, stamp]
              split
              · next contains => rw [recolor, cursorPixel_zero, cut_sub contains]
              · rfl
          · rfl
    rw [flushCursor_eq, unchanged]

@[simp]
theorem lineBuffer_leaveMode : device.leaveMode.lineBuffer = device.lineBuffer.free := by
  rw [leaveMode]
  split
  · next null => rw [null, LineBuffer.free]
  · rfl

/-- Without memory the mode that is set is left. -/
theorem setMode_without_memory
    (failed : (device.setMode outside false modeNumber).1 = .outOfResources) :
    (device.setMode outside false modeNumber).2 = device.leaveMode := by
  cases entry : device.modeData[modeNumber]? with
  | none =>
      simp only [setMode, entry] at failed
      cases failed
  | some mode =>
      simp only [setMode, entry, Bool.not_false, if_true] at failed ⊢
      split
      · next unusable =>
          rw [if_pos unusable] at failed
          cases failed
      · next usable =>
          rw [if_neg usable] at failed
          split
          · next same =>
              rw [if_pos same] at failed
              cases failed
          · rfl

/-- A mode that cannot be set for lack of memory leaves the console as it was exactly when there
was no line buffer yet: otherwise the buffer is freed once more.  The screen is as it was also
when there is no cursor to be seen. -/
theorem setMode_without_memory_iff
    (failed : (device.setMode outside false modeNumber).1 = .outOfResources) :
    ((device.setMode outside false modeNumber).2 = device ↔ device.lineBuffer = .null) ∧
      ((device.setMode outside false modeNumber).2.graphicsOutput = device.graphicsOutput ↔
        device.lineBuffer = .null ∨ ¬ device.ShowsCursor) := by
  rw [setMode_without_memory failed]
  by_cases null : device.lineBuffer = .null
  · have same : device.leaveMode = device := if_pos null
    rw [same]
    exact ⟨iff_of_true rfl null, iff_of_true rfl (.inl null)⟩
  · refine ⟨iff_of_false (fun same => ?_) null, ?_⟩
    · have freed := congrArg GraphicsConsoleDev.lineBuffer same
      rw [lineBuffer_leaveMode] at freed
      exact null (LineBuffer.free_eq_self_iff.mp freed)
    · have dark : device.leaveMode.graphicsOutput = device.flushCursor.graphicsOutput := by
        rw [leaveMode, if_neg null]
      rw [dark, flushCursor_graphicsOutput_iff, or_iff_right null]

/-- On the frame buffer of the platform, from the first mode to the last one. -/
theorem setMode_without_memory_iff_simpleFb :
    let outside : Outside := ⟨fun _ _ _ _ _ _ _ pixels => (.success, pixels), simpleFbSetMode⟩
    let device := ((started simpleFb 480 800).setMode outside true 0).2
    let after := (device.setMode outside false 2).2
    (after = device ↔ device.lineBuffer = .null) ∧
      (after.graphicsOutput = device.graphicsOutput ↔
        device.lineBuffer = .null ∨ ¬ device.ShowsCursor) :=
  setMode_without_memory_iff rfl

end NoMemory

end GraphicsConsoleDev

end HtcLeo.GraphicsConsole
