import HtcLeo.GraphicsConsole.Core
import HtcLeo.Terminal.Core

/-!
# What the graphics console shows

During a call nothing of the device changes but the wide attribute, the cursor and the
pixels.  The pixels show the page of a terminal, with the cursor drawn over it or not; what
that means for a pixel is left open, and so is what can be drawn.
-/

namespace HtcLeo.GraphicsConsole

open Raster Terminal

universe u

/-- The columns and rows of a mode. -/
def GraphicsConsoleModeData.size (mode : GraphicsConsoleModeData) : Size :=
  ⟨mode.columns.toNat, mode.rows.toNat⟩

namespace GraphicsConsoleDev

/-! ## What changes during a call -/

/-- An attribute with the wide attribute on or off. -/
def wideAttr (wide : Bool) (attr : U32) : U32 :=
  if wide then attr ||| EFI_WIDE_ATTRIBUTE else Flags.clear attr EFI_WIDE_ATTRIBUTE

/-- The device with another wide attribute, cursor and pixels. -/
def withState (base : GraphicsConsoleDev) (wide : Bool) (column row : Nat)
    (pixels : Nat → Nat → U32) : GraphicsConsoleDev :=
  { base with
    graphicsOutput := { base.graphicsOutput with pixels }
    attr := wideAttr wide base.attr
    cursorColumn := column
    cursorRow := row }

/-- The pixels after the cursor is flipped. -/
def flipped (base : GraphicsConsoleDev) (column row : Nat) (pixels : Nat → Nat → U32) :
    Nat → Nat → U32 :=
  match base.currentMode with
  | none => pixels
  | some mode =>
      let rect := glyphRect mode column row
      if base.cursorVisible ∧ rect.Inside base.graphicsOutput.screen then
        stamp rect (recolor (cursorPixel base.getTextColors.1) (cut rect pixels)) pixels
      else pixels

/-- What drawing characters gives, and the pixels after it. -/
def drawn (outside : Outside) (base : GraphicsConsoleDev) (column row : Nat) (string : List U16)
    (pixels : Nat → Nat → U32) : EfiStatus × (Nat → Nat → U32) :=
  match base.currentMode with
  | none => (.unsupported, pixels)
  | some mode =>
      let rect := glyphRect mode column row
      outside.stringToImage (mode.gopWidth.setWidth 16) (mode.gopHeight.setWidth 16) string
        base.getTextColors.1 base.getTextColors.2 rect.left rect.top pixels

/-- The rows of text that move, or where they move to, and the last one. -/
def movedRows (mode : GraphicsConsoleModeData) (offset : Nat) : Rect :=
  ⟨mode.deltaX.toNat, mode.deltaY.toNat + offset, mode.columns.toNat * 8,
    (mode.rows.toNat - 1) * 19⟩

/-- The pixels of the last row of text. -/
def lastRow (mode : GraphicsConsoleModeData) : Rect :=
  ⟨mode.deltaX.toNat, mode.deltaY.toNat + (mode.rows.toNat - 1) * 19, mode.columns.toNat * 8, 19⟩

/-- The pixels after the text is scrolled up. -/
def scrolled (base : GraphicsConsoleDev) (mode : GraphicsConsoleModeData)
    (pixels : Nat → Nat → U32) : Nat → Nat → U32 :=
  let screen := base.graphicsOutput.screen
  let moved :=
    if (movedRows mode 19).Inside screen ∧ (movedRows mode 0).Inside screen then
      stamp (movedRows mode 0) (cut (movedRows mode 19) pixels) pixels
    else pixels
  if (lastRow mode).Inside screen then fill (lastRow mode) base.getTextColors.2 moved else moved

section State

variable {outside : Outside} {base : GraphicsConsoleDev} {mode : GraphicsConsoleModeData}
  {wide : Bool} {column row : Nat} {string : List U16} {pixels : Nat → Nat → U32}

@[simp]
theorem wideAttr_or (wide : Bool) (attr : U32) :
    wideAttr wide attr ||| EFI_WIDE_ATTRIBUTE = wideAttr true attr := by
  cases wide with
  | false =>
      simp only [wideAttr, Flags.clear, Bool.false_eq_true, if_false, if_true]
      ext i
      simp
      cases attr[i] <;> cases EFI_WIDE_ATTRIBUTE[i] <;> rfl
  | true =>
      rw [wideAttr, if_pos rfl, BitVec.or_assoc, BitVec.or_self]

@[simp]
theorem clear_wideAttr (wide : Bool) (attr : U32) :
    Flags.clear (wideAttr wide attr) EFI_WIDE_ATTRIBUTE = wideAttr false attr := by
  cases wide with
  | false => rw [wideAttr, if_neg Bool.false_ne_true, Flags.clear, Flags.clear, BitVec.and_assoc,
      BitVec.and_self]
  | true =>
      simp only [wideAttr, Flags.clear, Bool.false_eq_true, if_false, if_true]
      ext i
      simp
      cases attr[i] <;> cases EFI_WIDE_ATTRIBUTE[i] <;> rfl

theorem isWide_withState : (base.withState wide column row pixels).isWide = wide := by
  cases wide with
  | false => exact Flags.test_clear_of_subset (BitVec.not_and_self _)
  | true => exact Flags.test_or_self base.attr (by decide)

theorem wideAttr_and_colors (wide : Bool) (attr : U32) :
    wideAttr wide attr &&& 0x7F = attr &&& 0x7F := by
  cases wide with
  | false =>
      have apart : ~~~EFI_WIDE_ATTRIBUTE &&& 0x7F = 0x7F := rfl
      rw [wideAttr, if_neg Bool.false_ne_true, Flags.clear, BitVec.and_assoc, apart]
  | true =>
      have apart : EFI_WIDE_ATTRIBUTE &&& 0x7F = 0#32 := rfl
      rw [wideAttr, if_pos rfl, BitVec.and_or_distrib_right, apart, BitVec.or_zero]

theorem getTextColors_withState :
    (base.withState wide column row pixels).getTextColors = base.getTextColors := by
  simp only [getTextColors, textColors, withState, wideAttr_and_colors]

theorem currentMode_withState :
    (base.withState wide column row pixels).currentMode = base.currentMode :=
  rfl

/-- Flipping the cursor changes nothing but pixels. -/
theorem flushCursor_eq (device : GraphicsConsoleDev) : device.flushCursor =
    { device with
      graphicsOutput := { device.graphicsOutput with
        pixels := device.flipped device.cursorColumn device.cursorRow
          device.graphicsOutput.pixels } } := by
  obtain ⟨graphicsOutput, modeData, lineBuffer, number, attr, column, row, visible⟩ := device
  cases visible with
  | false =>
      simp only [flushCursor, flipped, Bool.not_false, Bool.false_eq_true, false_and, if_true,
        if_false]
      split <;> rfl
  | true =>
      cases current : GraphicsConsoleDev.currentMode
          ⟨graphicsOutput, modeData, lineBuffer, number, attr, column, row, true⟩ with
      | none => simp only [flushCursor, flipped, current, ite_self]
      | some mode =>
          simp only [flushCursor, flipped, current, Bool.not_true, Bool.false_eq_true, if_false,
            true_and, GraphicsOutput.bltVideoToBltBuffer]
          by_cases inside : (glyphRect mode column row).Inside graphicsOutput.screen
          · simp only [if_pos inside, GraphicsOutput.getD_bltBufferToVideo]
          · simp only [if_neg inside]

theorem flipped_withState : (base.withState wide column row pixels).flipped = base.flipped := by
  funext column row pixels
  simp only [flipped, getTextColors_withState, currentMode_withState]
  rfl

theorem flushCursor_withState : (base.withState wide column row pixels).flushCursor =
    base.withState wide column row (base.flipped column row pixels) := by
  rw [flushCursor_eq, flipped_withState]
  rfl

theorem cursorPixel_cursorPixel (foreground : U32) (x y : Nat) (pixel : U32) :
    cursorPixel foreground x y (cursorPixel foreground x y pixel) = pixel := by
  simp only [cursorPixel]
  split
  · rw [BitVec.xor_assoc, BitVec.xor_self, BitVec.xor_zero]
  · rfl

/-- A cursor that is flipped twice is as it was. -/
theorem flipped_flipped : base.flipped column row (base.flipped column row pixels) = pixels := by
  simp only [flipped]
  cases base.currentMode with
  | none => rfl
  | some mode =>
      by_cases drawn : base.cursorVisible ∧
          (glyphRect mode column row).Inside base.graphicsOutput.screen
      · simp only [if_pos drawn]
        exact stamp_recolor_twice (cursorPixel_cursorPixel _)
      · simp only [if_neg drawn]

theorem draw_withState :
    drawUnicodeWeightAtCursorN outside (base.withState wide column row pixels) string =
      ((base.drawn outside column row string pixels).1,
        base.withState wide column row (base.drawn outside column row string pixels).2) := by
  simp only [drawn, drawUnicodeWeightAtCursorN, getTextColors_withState, currentMode_withState]
  cases base.currentMode with
  | none => rfl
  | some mode => rfl

theorem scrollUp_withState : (base.withState wide column row pixels).scrollUp mode =
    base.withState wide column row (base.scrolled mode pixels) := by
  simp only [scrolled, scrollUp, getTextColors_withState, GraphicsOutput.getD_bltVideoFill,
    GraphicsOutput.getD_bltVideoToVideo]
  rfl

end State

/-! ## What is on the screen -/

variable {γ : Type u}

/-- The pixels can be taken to show the page of a canvas: what is drawn where there is room
for it is what the canvas puts there, also where it covers the cursor. -/
structure Renders (outside : Outside) (base : GraphicsConsoleDev) (mode : GraphicsConsoleModeData)
    (canvas : Canvas γ U16) (shows : (Nat → Nat → U32) → γ → Prop)
    (drawable : Bool → U16 → Prop) (quiet : Prop) : Prop where
  space : drawable false CHAR_SPACE
  draw : ∀ wide column row string pixels page, (∀ character ∈ string, drawable wide character) →
    column + string.length * width wide ≤ mode.size.columns → row < mode.size.rows →
      shows pixels page →
        shows (base.drawn outside column row string pixels).2
          (canvas.putRow wide row column string page)
  cover : ∀ wide column row string pixels page, string ≠ [] →
    (∀ character ∈ string, drawable wide character) →
    column + string.length * width wide ≤ mode.size.columns → row < mode.size.rows →
      shows pixels page →
        shows (base.drawn outside column row string (base.flipped column row pixels)).2
          (canvas.putRow wide row column string page)
  scroll : ∀ pixels page, shows pixels page →
    shows (base.scrolled mode pixels) (canvas.scroll page)
  status : quiet → ∀ wide column row string pixels,
    (∀ character ∈ string, drawable wide character) →
    column + string.length * width wide ≤ mode.size.columns → row < mode.size.rows →
      (base.drawn outside column row string pixels).1 = .success

/-- The device shows the page of a terminal, and its cursor if `lit`. -/
def Shown (base : GraphicsConsoleDev) (shows : (Nat → Nat → U32) → γ → Prop) (lit wide : Bool)
    (device : GraphicsConsoleDev) (state : Terminal.State γ) : Prop :=
  ∃ pixels, device = base.withState wide state.column state.row
    (if lit then base.flipped state.column state.row pixels else pixels) ∧ shows pixels state.page

section Screen

variable {outside : Outside} {base device : GraphicsConsoleDev} {mode : GraphicsConsoleModeData}
  {canvas : Canvas γ U16} {shows : (Nat → Nat → U32) → γ → Prop} {drawable : Bool → U16 → Prop}
  {quiet : Prop} {lit wide : Bool} {state : Terminal.State γ} {string : List U16}

theorem Shown.flush (shown : Shown base shows lit wide device state) :
    Shown base shows (!lit) wide device.flushCursor state := by
  obtain ⟨pixels, rfl, showing⟩ := shown
  cases lit with
  | false => exact ⟨pixels, flushCursor_withState, showing⟩
  | true =>
      refine ⟨pixels, flushCursor_withState.trans ?_, showing⟩
      exact congrArg _ flipped_flipped

/-- The cursor can be moved while it is not on the screen. -/
theorem Shown.move (shown : Shown base shows false wide device state) (column row : Nat) :
    Shown base shows false wide (device.moveTo column row) ⟨state.page, column, row⟩ := by
  obtain ⟨pixels, rfl, showing⟩ := shown
  exact ⟨pixels, rfl, showing⟩

theorem Shown.moveColumn (shown : Shown base shows false wide device state) (column : Nat) :
    Shown base shows false wide (device.moveTo column device.cursorRow)
      ⟨state.page, column, state.row⟩ := by
  obtain ⟨pixels, rfl, showing⟩ := shown
  exact ⟨pixels, rfl, showing⟩

theorem Shown.widen (shown : Shown base shows lit wide device state) :
    Shown base shows lit true { device with attr := device.attr ||| EFI_WIDE_ATTRIBUTE } state := by
  obtain ⟨pixels, rfl, showing⟩ := shown
  refine ⟨pixels, ?_, showing⟩
  simp only [withState, wideAttr_or]

theorem Shown.narrow (shown : Shown base shows lit wide device state) :
    Shown base shows lit false
      { device with attr := Flags.clear device.attr EFI_WIDE_ATTRIBUTE } state := by
  obtain ⟨pixels, rfl, showing⟩ := shown
  refine ⟨pixels, ?_, showing⟩
  simp only [withState, clear_wideAttr]

/-- At the end of a call the attribute is what it was. -/
theorem Shown.restore {other : Bool} (shown : Shown base shows lit other device state) :
    Shown base shows lit wide { device with attr := wideAttr wide base.attr } state := by
  obtain ⟨pixels, rfl, showing⟩ := shown
  exact ⟨pixels, rfl, showing⟩

theorem Shown.cursorColumn (shown : Shown base shows lit wide device state) :
    device.cursorColumn = state.column := by
  obtain ⟨pixels, rfl, -⟩ := shown
  rfl

theorem Shown.cursorRow (shown : Shown base shows lit wide device state) :
    device.cursorRow = state.row := by
  obtain ⟨pixels, rfl, -⟩ := shown
  rfl

theorem Shown.attr (shown : Shown base shows lit wide device state) :
    device.attr = wideAttr wide base.attr := by
  obtain ⟨pixels, rfl, -⟩ := shown
  rfl

theorem Shown.isWide (shown : Shown base shows lit wide device state) : device.isWide = wide := by
  obtain ⟨pixels, rfl, -⟩ := shown
  exact isWide_withState

theorem Shown.currentMode (shown : Shown base shows lit wide device state) :
    device.currentMode = base.currentMode := by
  obtain ⟨pixels, rfl, -⟩ := shown
  rfl

theorem Shown.lineFeed (renders : Renders outside base mode canvas shows drawable quiet)
    (shown : Shown base shows false wide device state) :
    Shown base shows false wide (device.lineFeed mode)
      (Terminal.lineFeed mode.size canvas state) := by
  have rows : mode.size.rows = mode.rows.toNat := rfl
  rw [GraphicsConsoleDev.lineFeed, Terminal.lineFeed, shown.cursorRow, rows]
  obtain ⟨pixels, rfl, showing⟩ := shown
  split
  · exact ⟨_, scrollUp_withState, renders.scroll pixels state.page showing⟩
  · exact ⟨pixels, rfl, showing⟩

/-- The characters that are drawn at once are a row of the page, and cover the cursor if it
is there. -/
theorem Shown.draw (renders : Renders outside base mode canvas shows drawable quiet)
    (shown : Shown base shows lit wide device state) (covers : lit = true → string ≠ [])
    (drawables : ∀ character ∈ string, drawable wide character)
    (room : state.column + string.length * width wide ≤ mode.size.columns)
    (inside : state.row < mode.size.rows) :
    Shown base shows false wide (drawUnicodeWeightAtCursorN outside device string).2
        { state with page := canvas.putRow wide state.row state.column string state.page } ∧
      (quiet → (drawUnicodeWeightAtCursorN outside device string).1 = .success) := by
  obtain ⟨pixels, rfl, showing⟩ := shown
  rw [draw_withState]
  refine ⟨⟨_, rfl, ?_⟩, fun calm => renders.status calm wide _ _ string _ drawables room inside⟩
  cases lit with
  | false => exact renders.draw wide _ _ string pixels state.page drawables room inside showing
  | true =>
      exact renders.cover wide _ _ string pixels state.page (covers rfl) drawables room inside
        showing

end Screen

end GraphicsConsoleDev

end HtcLeo.GraphicsConsole
