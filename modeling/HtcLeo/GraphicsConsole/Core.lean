import HtcLeo.GraphicsConsole.Modes
import HtcLeo.Raster.Window

/-!
# The graphics console

`Simple Text Output` on a screen of pixels.  The console keeps a cursor that it draws by
inverting pixels, so that drawing it twice removes it: every function takes the cursor off
the screen, does its work, and puts the cursor back.

What the console gets from outside is the graphics output, with the behaviour that UEFI
gives it, and the font, which is open.  A string is the list of its characters without
the terminator.
-/

namespace HtcLeo.GraphicsConsole

open Raster

/-- The statuses of the driver and of what it calls. -/
inductive EfiStatus where
  | success
  | unsupported
  | outOfResources
  | deviceError
  | warnUnknownGlyph
  deriving DecidableEq, Repr

/-- `EFI_ERROR`: a warning is not an error. -/
def EfiStatus.isError : EfiStatus → Bool
  | success => false
  | warnUnknownGlyph => false
  | _ => true

/-! ## The screen -/

/-- What the console uses of `EFI_GRAPHICS_OUTPUT_PROTOCOL`. -/
structure GraphicsOutput where
  mode : U32
  width : Nat
  height : Nat
  pixels : Nat → Nat → U32

/-- The whole screen. -/
def GraphicsOutput.screen (graphicsOutput : GraphicsOutput) : Rect :=
  ⟨0, 0, graphicsOutput.width, graphicsOutput.height⟩

/-- `Blt` does nothing where a rectangle is not on the screen. -/
def GraphicsOutput.bltVideoFill (graphicsOutput : GraphicsOutput) (color : U32) (rect : Rect) :
    Option GraphicsOutput :=
  if rect.Inside graphicsOutput.screen then
    some { graphicsOutput with pixels := fill rect color graphicsOutput.pixels }
  else none

/-- `EfiBltVideoToVideo`; `none` is an error, and nothing is drawn. -/
def GraphicsOutput.bltVideoToVideo (graphicsOutput : GraphicsOutput) (source destination : Rect) :
    Option GraphicsOutput :=
  if source.Inside graphicsOutput.screen ∧ destination.Inside graphicsOutput.screen then
    some { graphicsOutput with
      pixels := stamp destination (cut source graphicsOutput.pixels) graphicsOutput.pixels }
  else none

/-- `EfiBltVideoToBltBuffer`. -/
def GraphicsOutput.bltVideoToBltBuffer (graphicsOutput : GraphicsOutput) (rect : Rect) :
    Option (Nat → Nat → U32) :=
  if rect.Inside graphicsOutput.screen then some (cut rect graphicsOutput.pixels) else none

/-- `EfiBltBufferToVideo`. -/
def GraphicsOutput.bltBufferToVideo (graphicsOutput : GraphicsOutput)
    (buffer : Nat → Nat → U32) (rect : Rect) : Option GraphicsOutput :=
  if rect.Inside graphicsOutput.screen then
    some { graphicsOutput with pixels := stamp rect buffer graphicsOutput.pixels }
  else none

section Blt

variable (graphicsOutput : GraphicsOutput) (rect source : Rect)

/-- Where the status of `Blt` is not looked at, only the pixels can change. -/
theorem GraphicsOutput.getD_bltVideoFill (color : U32) :
    (graphicsOutput.bltVideoFill color rect).getD graphicsOutput =
      { graphicsOutput with
        pixels := if rect.Inside graphicsOutput.screen then
            fill rect color graphicsOutput.pixels
          else graphicsOutput.pixels } := by
  rw [bltVideoFill]
  split <;> rfl

theorem GraphicsOutput.getD_bltVideoToVideo :
    (graphicsOutput.bltVideoToVideo source rect).getD graphicsOutput =
      { graphicsOutput with
        pixels := if source.Inside graphicsOutput.screen ∧ rect.Inside graphicsOutput.screen then
            stamp rect (cut source graphicsOutput.pixels) graphicsOutput.pixels
          else graphicsOutput.pixels } := by
  rw [bltVideoToVideo]
  split <;> rfl

theorem GraphicsOutput.getD_bltBufferToVideo (buffer : Nat → Nat → U32) :
    (graphicsOutput.bltBufferToVideo buffer rect).getD graphicsOutput =
      { graphicsOutput with
        pixels := if rect.Inside graphicsOutput.screen then
            stamp rect buffer graphicsOutput.pixels
          else graphicsOutput.pixels } := by
  rw [bltBufferToVideo]
  split <;> rfl

end Blt

/-- What is outside the console: `StringToImage` of the font, with the size of the image,
the string, the colors and the place, and the resolution after `SetMode` of the graphics
output, if it succeeds. -/
structure Outside where
  stringToImage : U16 → U16 → List U16 → U32 → U32 → Nat → Nat → (Nat → Nat → U32) →
    EfiStatus × (Nat → Nat → U32)
  setMode : U32 → Option (Nat × Nat)

/-- A mode that is set leaves the screen black; one that cannot be set changes nothing. -/
def GraphicsOutput.setMode (outside : Outside) (graphicsOutput : GraphicsOutput)
    (modeNumber : U32) : Option GraphicsOutput :=
  (outside.setMode modeNumber).map fun resolution =>
    { graphicsOutput with
      mode := modeNumber
      width := resolution.1
      height := resolution.2
      pixels := fun _ _ => 0 }

/-! ## The device -/

def CHAR_BACKSPACE : U16 := 0x0008
def CHAR_LINEFEED : U16 := 0x000A
def CHAR_CARRIAGE_RETURN : U16 := 0x000D
def NARROW_CHAR : U16 := 0xFFF0
def WIDE_CHAR : U16 := 0xFFF1
def CHAR_SPACE : U16 := 0x0020

def EFI_WIDE_ATTRIBUTE : U32 := 0x80

/-- `mCrLfString`. -/
def mCrLfString : List U16 := [CHAR_CARRIAGE_RETURN, CHAR_LINEFEED]

/-- `SpaceStr`. -/
def spaceStr : List U16 := [NARROW_CHAR, CHAR_SPACE]

/-- The pixels of the sixteen colors. -/
def mGraphicsEfiColors : List U32 :=
  [0x00000000, 0x00000098, 0x00009800, 0x00009898, 0x00980000, 0x00980098, 0x00989800, 0x00989898,
    0x00303030, 0x000000ff, 0x0000ff00, 0x0000ffff, 0x00ff0000, 0x00ff00ff, 0x00ffff00, 0x00ffffff]

/-- The rows of `mCursorGlyph`: a bar at the bottom. -/
def mCursorGlyph : List U8 :=
  [0x00, 0x00, 0x00, 0x00, 0x00, 0x00, 0x00, 0x00, 0x00, 0x00, 0x00, 0x00, 0x00, 0x00, 0x00, 0x00,
    0xFF, 0xFF, 0xFF]

/-- The pointer `LineBuffer`.  A buffer that has been freed leaves it as it is, and it is freed
again later: `frees` counts the calls of `FreePool`. -/
inductive LineBuffer where
  | null
  | allocated
  | dangling (frees : Nat)
  deriving DecidableEq, Repr

/-- `FreePool (Private->LineBuffer)`. -/
def LineBuffer.free : LineBuffer → LineBuffer
  | null => null
  | allocated => dangling 1
  | dangling frees => dangling (frees + 1)

/-- `GRAPHICS_CONSOLE_DEV`; `mode` is `none` for -1. -/
structure GraphicsConsoleDev where
  graphicsOutput : GraphicsOutput
  modeData : List GraphicsConsoleModeData
  lineBuffer : LineBuffer
  mode : Option Nat
  attr : U32
  cursorColumn : Nat
  cursorRow : Nat
  cursorVisible : Bool

/-- The foreground and the background of an attribute. -/
def textColors (attr : U32) : U32 × U32 :=
  let attr := attr &&& 0x7F
  (mGraphicsEfiColors.getD (attr &&& 0x0F).toNat 0, mGraphicsEfiColors.getD (attr >>> 4).toNat 0)

namespace GraphicsConsoleDev

/-- Both parts of the cursor's position. -/
def moveTo (device : GraphicsConsoleDev) (column row : Nat) : GraphicsConsoleDev :=
  { device with cursorColumn := column, cursorRow := row }

/-- `Private->ModeData[This->Mode->Mode]`. -/
def currentMode (device : GraphicsConsoleDev) : Option GraphicsConsoleModeData :=
  device.mode.bind fun mode => device.modeData[mode]?

/-- `GetTextColors` on the device's attribute. -/
def getTextColors (device : GraphicsConsoleDev) : U32 × U32 :=
  textColors device.attr

/-- Where a character of a column and a row is on the screen. -/
def glyphRect (mode : GraphicsConsoleModeData) (column row : Nat) : Rect :=
  ⟨column * 8 + mode.deltaX.toNat, row * 19 + mode.deltaY.toNat, 8, 19⟩

/-- A pixel of the cursor is the exclusive or with the foreground color. -/
def cursorPixel (foreground : U32) (x y : Nat) (pixel : U32) : U32 :=
  if (mCursorGlyph.getD y 0).getLsbD (7 - x) then pixel ^^^ foreground else pixel

/-- Draw the cursor, or remove it if it is there.  Where the first `Blt` is refused, the
second one is as well.  Before a mode is set there is no place for a cursor. -/
def flushCursor (device : GraphicsConsoleDev) : GraphicsConsoleDev :=
  if !device.cursorVisible then device
  else
    match device.currentMode with
    | none => device
    | some mode =>
        let rect := glyphRect mode device.cursorColumn device.cursorRow
        match device.graphicsOutput.bltVideoToBltBuffer rect with
        | none => device
        | some bltChar =>
            { device with
              graphicsOutput :=
                (device.graphicsOutput.bltBufferToVideo
                  (recolor (cursorPixel device.getTextColors.1) bltChar) rect).getD
                    device.graphicsOutput }

/-- Draw characters from the cursor on. -/
def drawUnicodeWeightAtCursorN (outside : Outside) (device : GraphicsConsoleDev)
    (string : List U16) : EfiStatus × GraphicsConsoleDev :=
  match device.currentMode with
  | none => (.unsupported, device)
  | some mode =>
      let rect := glyphRect mode device.cursorColumn device.cursorRow
      let colors := device.getTextColors
      let drawn := outside.stringToImage (mode.gopWidth.setWidth 16) (mode.gopHeight.setWidth 16)
        string colors.1 colors.2 rect.left rect.top device.graphicsOutput.pixels
      (drawn.1, { device with graphicsOutput := { device.graphicsOutput with pixels := drawn.2 } })

/-! ## OutputString -/

/-- The characters that end a run of printed ones. -/
def isControl (character : U16) : Bool :=
  character == CHAR_BACKSPACE || character == CHAR_LINEFEED ||
    character == CHAR_CARRIAGE_RETURN || character == WIDE_CHAR || character == NARROW_CHAR

/-- The loop that finds how many characters are drawn at once, with `Count` and `Index`: a
wide character that has no room in the row counts two columns and is not drawn. -/
def countRun (wide : Bool) (maxColumn column : Nat) : List U16 → Nat → Nat → Nat × Nat
  | [], count, index => (count, index)
  | character :: rest, count, index =>
      if column + index < maxColumn then
        if isControl character then (count, index)
        else if wide then
          if column + (index + 1) + 1 > maxColumn then (count, index + 2)
          else countRun wide maxColumn column rest (count + 1) (index + 2)
        else countRun wide maxColumn column rest (count + 1) (index + 1)
      else (count, index)

/-- The wide attribute is on. -/
def isWide (device : GraphicsConsoleDev) : Bool :=
  Flags.test device.attr EFI_WIDE_ATTRIBUTE

/-- Scroll the text up by one row and leave the last one blank. -/
def scrollUp (device : GraphicsConsoleDev) (mode : GraphicsConsoleModeData) : GraphicsConsoleDev :=
  let width := mode.columns.toNat * 8
  let height := (mode.rows.toNat - 1) * 19
  let left := mode.deltaX.toNat
  let top := mode.deltaY.toNat
  let moved := (device.graphicsOutput.bltVideoToVideo ⟨left, top + 19, width, height⟩
    ⟨left, top, width, height⟩).getD device.graphicsOutput
  { device with
    graphicsOutput :=
      (moved.bltVideoFill device.getTextColors.2 ⟨left, top + height, width, 19⟩).getD moved }

section Characters

variable (outside : Outside)
  (outputString : List U16 → GraphicsConsoleDev → Option GraphicsConsoleDev)
  (mode : GraphicsConsoleModeData)

/-- The branch of a backspace. -/
def backspace (device : GraphicsConsoleDev) : Option GraphicsConsoleDev :=
  let lastColumn := mode.columns.toNat - 1
  if device.cursorColumn = 0 ∧ 0 < device.cursorRow then
    (outputString spaceStr (device.moveTo lastColumn (device.cursorRow - 1))).map fun after =>
      after.flushCursor.moveTo lastColumn (after.flushCursor.cursorRow - 1)
  else if 0 < device.cursorColumn then
    (outputString spaceStr (device.moveTo (device.cursorColumn - 1) device.cursorRow)).map
      fun after =>
        after.flushCursor.moveTo (after.flushCursor.cursorColumn - 1) after.flushCursor.cursorRow
  else some device

/-- The branch of a line feed. -/
def lineFeed (device : GraphicsConsoleDev) : GraphicsConsoleDev :=
  if device.cursorRow + 1 = mode.rows.toNat then device.scrollUp mode
  else device.moveTo device.cursorColumn (device.cursorRow + 1)

/-- What follows the drawing of some characters: a row that has no room for a wide one is
filled with a space, and a full row ends. -/
def endOfRow (device : GraphicsConsoleDev) : Option GraphicsConsoleDev :=
  (if mode.columns.toNat < device.cursorColumn then
    outputString spaceStr (device.moveTo (device.cursorColumn - 2) device.cursorRow)
  else some device).bind fun device =>
    if mode.columns.toNat ≤ device.cursorColumn then
      (outputString mCrLfString device.flushCursor).map flushCursor
    else some device

/-- The loop over a string.  The result has the status, whether there is a warning, and the
device; there is none if the loop does not come to its end. -/
def characters : Nat → List U16 → EfiStatus → Bool → GraphicsConsoleDev →
    Option (EfiStatus × Bool × GraphicsConsoleDev)
  | _, [], status, warning, device => some (status, warning, device)
  | 0, _ :: _, _, _, _ => none
  | fuel + 1, character :: rest, status, warning, device =>
      if character = CHAR_BACKSPACE then
        (device.backspace outputString mode).bind (characters fuel rest status warning)
      else if character = CHAR_LINEFEED then
        characters fuel rest status warning (device.lineFeed mode)
      else if character = CHAR_CARRIAGE_RETURN then
        characters fuel rest status warning (device.moveTo 0 device.cursorRow)
      else if character = WIDE_CHAR then
        characters fuel rest status warning
          { device with attr := device.attr ||| EFI_WIDE_ATTRIBUTE }
      else if character = NARROW_CHAR then
        characters fuel rest status warning
          { device with attr := Flags.clear device.attr EFI_WIDE_ATTRIBUTE }
      else
        let run := countRun device.isWide mode.columns.toNat device.cursorColumn
          (character :: rest) 0 0
        let drawn := drawUnicodeWeightAtCursorN outside device ((character :: rest).take run.1)
        (endOfRow outputString mode
          (drawn.2.moveTo (drawn.2.cursorColumn + run.2) drawn.2.cursorRow)).bind
            (characters fuel ((character :: rest).drop run.1) drawn.1 (warning || drawn.1.isError))

end Characters

/-- `GraphicsConsoleConOutOutputString`, with at most so many rounds and nested calls. -/
def outputStringIn (outside : Outside) :
    Nat → List U16 → GraphicsConsoleDev → Option (EfiStatus × GraphicsConsoleDev)
  | 0, _, _ => none
  | fuel + 1, string, device =>
      match device.currentMode with
      | none => some (.unsupported, device)
      | some mode =>
          (characters outside
            (fun string device => (outputStringIn outside fuel string device).map Prod.snd) mode
            fuel string .success false device.flushCursor).map fun (status, warning, after) =>
              (if warning then .warnUnknownGlyph else status,
                { after with attr := device.attr }.flushCursor)

/-- The rounds that are always enough. -/
def rounds (string : List U16) : Nat :=
  2 * string.length + 6

/-- `GraphicsConsoleConOutOutputString`, with as many rounds as the string can take. -/
def outputString (outside : Outside) (string : List U16) (device : GraphicsConsoleDev) :
    Option (EfiStatus × GraphicsConsoleDev) :=
  outputStringIn outside (rounds string) string device

/-! ## The other functions -/

/-- `MaxMode`. -/
def maxMode (device : GraphicsConsoleDev) : Nat :=
  device.modeData.length

/-- The columns and rows of a mode; an empty place of the table is reported as well. -/
def queryMode (device : GraphicsConsoleDev) (modeNumber : Nat) : EfiStatus × Option (U32 × U32) :=
  match device.modeData[modeNumber]? with
  | none => (.unsupported, none)
  | some mode =>
      if mode.columns = 0 ∨ mode.rows = 0 then (.unsupported, some (mode.columns, mode.rows))
      else (.success, some (mode.columns, mode.rows))

/-- `GraphicsConsoleConOutClearScreen`. -/
def clearScreen (device : GraphicsConsoleDev) : EfiStatus × GraphicsConsoleDev :=
  match device.currentMode with
  | none => (.unsupported, device)
  | some mode =>
      let cleared := device.graphicsOutput.bltVideoFill device.getTextColors.2
        ⟨0, 0, mode.gopWidth.toNat, mode.gopHeight.toNat⟩
      let after := { device with graphicsOutput := cleared.getD device.graphicsOutput }
      (if cleared.isSome then .success else .deviceError, (after.moveTo 0 0).flushCursor)

/-- The graphics output is brought to the mode that the text mode was made for. -/
def prepareScreen (outside : Outside) (graphicsOutput : GraphicsOutput)
    (mode : GraphicsConsoleModeData) : Option GraphicsOutput :=
  if mode.gopModeNumber ≠ graphicsOutput.mode then
    graphicsOutput.setMode outside mode.gopModeNumber
  else
    some ((graphicsOutput.bltVideoFill (mGraphicsEfiColors.getD 0 0)
      ⟨0, 0, mode.gopWidth.toNat, mode.gopHeight.toNat⟩).getD graphicsOutput)

/-- Before a line buffer is allocated, the cursor is taken off the screen and the old line
buffer is freed. -/
def leaveMode (device : GraphicsConsoleDev) : GraphicsConsoleDev :=
  if device.lineBuffer = .null then device
  else { device.flushCursor with lineBuffer := device.lineBuffer.free }

/-- `allocated` says whether `AllocatePool` has memory for the line buffer.  Where it has none,
the pointer to the old one stays. -/
def setMode (outside : Outside) (allocated : Bool) (modeNumber : Nat)
    (device : GraphicsConsoleDev) : EfiStatus × GraphicsConsoleDev :=
  match device.modeData[modeNumber]? with
  | none => (.unsupported, device)
  | some mode =>
      if mode.columns = 0 ∧ mode.rows = 0 then (.unsupported, device)
      else if device.lineBuffer ≠ .null ∧ device.mode = some modeNumber then
        (.success, device.clearScreen.2)
      else
        if !allocated then (.outOfResources, device.leaveMode)
        else
          match prepareScreen outside device.leaveMode.graphicsOutput mode with
          | none => (.deviceError, { device.leaveMode with lineBuffer := .allocated })
          | some graphicsOutput =>
              (.success,
                ({ device.leaveMode with
                  lineBuffer := .allocated
                  graphicsOutput
                  mode := some modeNumber }.moveTo 0 0).flushCursor)

/-- `GraphicsConsoleConOutSetAttribute`. -/
def setAttribute (attr : U32) (device : GraphicsConsoleDev) : EfiStatus × GraphicsConsoleDev :=
  if attr ||| 0x7F ≠ 0x7F then (.unsupported, device)
  else if attr = device.attr then (.success, device)
  else (.success, { device.flushCursor with attr := attr }.flushCursor)

/-- `GraphicsConsoleConOutSetCursorPosition`. -/
def setCursorPosition (column row : Nat) (device : GraphicsConsoleDev) :
    EfiStatus × GraphicsConsoleDev :=
  match device.currentMode with
  | none => (.unsupported, device)
  | some mode =>
      if mode.columns.toNat ≤ column ∨ mode.rows.toNat ≤ row then (.unsupported, device)
      else if device.cursorColumn = column ∧ device.cursorRow = row then (.success, device)
      else (.success, (device.flushCursor.moveTo column row).flushCursor)

/-- `GraphicsConsoleConOutEnableCursor`. -/
def enableCursor (visible : Bool) (device : GraphicsConsoleDev) : EfiStatus × GraphicsConsoleDev :=
  match device.currentMode with
  | none => (.unsupported, device)
  | some _ => (.success, { device.flushCursor with cursorVisible := visible }.flushCursor)

/-- The mode is the first one, and the background is black. -/
def reset (outside : Outside) (allocated : Bool) (device : GraphicsConsoleDev) :
    EfiStatus × GraphicsConsoleDev :=
  let set := device.setMode outside allocated 0
  if set.1.isError then set else set.2.setAttribute (set.2.attr &&& 0x0F)

end GraphicsConsoleDev

/-- `mGraphicsConsoleDevTemplate`, with the modes for the resolution that was chosen. -/
def GraphicsConsoleDev.started (graphicsOutput : GraphicsOutput)
    (horizontalResolution verticalResolution : U32) : GraphicsConsoleDev where
  graphicsOutput
  modeData :=
    initializeGraphicsConsoleTextMode horizontalResolution verticalResolution graphicsOutput.mode
  lineBuffer := .null
  mode := none
  attr := 0x07
  cursorColumn := 0
  cursorRow := 0
  cursorVisible := true

end HtcLeo.GraphicsConsole
