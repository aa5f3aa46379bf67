import HtcLeo.ConSplitter.Runs
import HtcLeo.GraphicsConsole.Calls

/-!
# The calls of the console splitter

Every call goes to all consoles of the list, and the status is the last error.  The splitter
keeps its own mode data; without a console it moves the cursor itself.
-/

namespace HtcLeo.ConSplitter

open HtcLeo.GraphicsConsole TextOutSplitter

universe u

def EFI_BLACK : U32 := 0x00
def EFI_MAGENTA : U32 := 0x05
def EFI_LIGHTGRAY : U32 := 0x07

/-- `EFI_TEXT_ATTR`. -/
def efiTextAttr (foreground background : U32) : U32 :=
  foreground ||| background <<< 4

/-- A console that the splitter is in front of. -/
structure TextOut (γ : Type u) where
  table : List GraphicsConsoleModeData
  console : Console γ
  conventional : Conventional (table.map reportedMode)
  distinct : DistinctSizes (table.map reportedMode)
  wide : ∀ mode ∈ table, mode.Usable → 2 ≤ mode.columns.toNat
  few : table.length ≤ 255

namespace TextOut

variable {γ : Type u}

/-- The size under each mode number of a console; `none` where `QueryMode` fails. -/
def modes (textOut : TextOut γ) : List (Option TextSize) :=
  textOut.table.map reportedMode

/-- One call on a console, with the status that it returns. -/
def perform (paper : Paper γ) (call : Call) (textOut : TextOut γ) : EfiStatus × TextOut γ :=
  let result := textOut.console.step textOut.table paper call
  (result.1, { textOut with console := result.2 })

end TextOut

/-- The last error, or success. -/
def worstStatus (statuses : List EfiStatus) : EfiStatus :=
  statuses.foldl (fun worst status => if status.isError then status else worst) .success

/-- An `INT32` that is taken as a `UINTN`. -/
def unsigned (number : Int) : Nat :=
  (BitVec.ofInt 32 number).toNat

/-- The cursor without a console, for the size of the mode. -/
def moveCursor (size : TextSize) (cursor : Nat × Nat) (character : U16) : Nat × Nat :=
  if character = CHAR_BACKSPACE then
    if cursor.1 = 0 ∧ 0 < cursor.2 then (size.1 - 1, cursor.2 - 1)
    else if 0 < cursor.1 then (cursor.1 - 1, cursor.2)
    else cursor
  else if character = CHAR_LINEFEED then
    if cursor.2 < size.2 - 1 then (cursor.1, cursor.2 + 1) else cursor
  else if character = CHAR_CARRIAGE_RETURN then (0, cursor.2)
  else if cursor.1 < size.1 - 1 then (cursor.1 + 1, cursor.2)
  else if cursor.2 < size.2 - 1 then (0, cursor.2 + 1)
  else (0, cursor.2)

namespace TextOutSplitter

variable {γ : Type u} (paper : Paper γ) (splitter : TextOutSplitter (TextOut γ))

/-- A call of every console, which may depend on its place. -/
def callAll (call : Nat → Call) : EfiStatus × TextOutSplitter (TextOut γ) :=
  let results := splitter.textOutList.mapIdx fun index textOut =>
    textOut.perform paper (call index)
  (worstStatus (results.map Prod.fst), { splitter with textOutList := results.map Prod.snd })

/-- Both parts of the cursor's position. -/
def moveTo (cursor : Nat × Nat) : TextOutSplitter (TextOut γ) :=
  { splitter with
    textOutMode := { splitter.textOutMode with
      cursorColumn := cursor.1
      cursorRow := cursor.2 } }

/-- `CursorVisible`. -/
def setVisible (visible : Bool) : TextOutSplitter (TextOut γ) :=
  { splitter with textOutMode := { splitter.textOutMode with cursorVisible := visible } }

/-- `ConSplitterTextOutSetAttribute`. -/
def setAttribute (attr : U32) : EfiStatus × TextOutSplitter (TextOut γ) :=
  if attr ||| 0x7F ≠ 0x7F then (.unsupported, splitter)
  else
    let called := splitter.callAll paper fun _ => .setAttribute attr
    (called.1, { called.2 with textOutMode := { splitter.textOutMode with attr := attr } })

/-- `ConSplitterTextOutClearScreen`. -/
def clearScreen : EfiStatus × TextOutSplitter (TextOut γ) :=
  let called := splitter.callAll paper fun _ => .clearScreen
  (called.1, (called.2.moveTo (0, 0)).setVisible true)

/-- `ConSplitterTextOutSetMode`.  There is a table if there is a console. -/
def setMode (modeNumber : Nat) : EfiStatus × TextOutSplitter (TextOut γ) :=
  if splitter.textOutMode.maxMode ≤ modeNumber then (.unsupported, splitter)
  else if splitter.textOutMode.mode = modeNumber then splitter.clearScreen paper
  else
    let called := splitter.callAll paper fun index =>
      .setMode (unsigned ((splitter.numberOn modeNumber index).getD 0)) true
    (called.1, { called.2 with textOutMode := splitter.textOutMode.set modeNumber })

/-- `ConSplitterTextOutSetCursorPosition`, for a current mode that is a number of the table. -/
def setCursorPosition (column row : Nat) : EfiStatus × TextOutSplitter (TextOut γ) :=
  let size := splitter.modeSize splitter.textOutMode.mode.toNat
  if size.1 ≤ column ∨ size.2 ≤ row then (.unsupported, splitter)
  else
    let called := splitter.callAll paper fun _ => .setCursorPosition column row
    (called.1, called.2.moveTo (column, row))

/-- `ConSplitterTextOutEnableCursor`. -/
def enableCursor (visible : Bool) : EfiStatus × TextOutSplitter (TextOut γ) :=
  let called := splitter.callAll paper fun _ => .enableCursor visible
  (called.1, called.2.setVisible visible)

/-- `ConSplitterTextOutOutputString`, for a current mode that is offered. -/
def outputString (string : List U16) : EfiStatus × TextOutSplitter (TextOut γ) :=
  let set := (splitter.setAttribute paper splitter.textOutMode.attr).2
  let called := set.callAll paper fun _ => .outputString string
  match called.2.textOutList with
  | first :: _ =>
      (called.1, called.2.moveTo (first.console.terminal.column, first.console.terminal.row))
  | [] =>
      let size := (called.2.queryMode called.2.textOutMode.mode.toNat).getD (0, 0)
      (called.1, called.2.moveTo (string.foldl (moveCursor size)
        (called.2.textOutMode.cursorColumn, called.2.textOutMode.cursorRow)))

/-- `ConSplitterTextOutReset`. -/
def reset : EfiStatus × TextOutSplitter (TextOut γ) :=
  let called := splitter.callAll paper fun _ => .reset true
  let set := (called.2.setAttribute paper
    (efiTextAttr (called.2.textOutMode.attr &&& 0x0F) EFI_BLACK)).2
  (called.1, { set with textOutMode := set.textOutMode.set 0 })

/-- The function for a call. -/
def perform : Call → EfiStatus × TextOutSplitter (TextOut γ)
  | .reset _ => splitter.reset paper
  | .outputString string => splitter.outputString paper string
  | .setMode modeNumber _ => splitter.setMode paper modeNumber
  | .setAttribute attr => splitter.setAttribute paper attr
  | .clearScreen => splitter.clearScreen paper
  | .setCursorPosition column row => splitter.setCursorPosition paper column row
  | .enableCursor visible => splitter.enableCursor paper visible

end TextOutSplitter

/-! ## Starting -/

/-- What the search for a mode has found. -/
structure FoundModes where
  preferMode : Nat
  baseMode : Nat
  maxModeInfo : TextSize
  deriving DecidableEq, Repr

/-- A mode of the loop of `ConsplitterSetConsoleOutMode`: the preferred size is the highest one if
none is given. -/
def FoundModes.consider (modeInfo : TextSize) (found : FoundModes) (mode : Nat)
    (reported : Option TextSize) : FoundModes :=
  match reported with
  | none => found
  | some size =>
      let preferred :=
        if modeInfo.1 ≠ 0 ∧ modeInfo.2 ≠ 0 then
          if size = modeInfo then { found with preferMode := mode } else found
        else if found.maxModeInfo.1 ≤ size.1 ∧ found.maxModeInfo.2 ≤ size.2 then
          { found with maxModeInfo := size, preferMode := mode }
        else found
      if size = (40, 12) then { preferred with baseMode := mode } else preferred

namespace TextOutSplitter

variable {γ : Type u} (paper : Paper γ) (conOutSize : TextSize)
  (splitter : TextOutSplitter (TextOut γ))

/-- The search over all modes of the splitter. -/
def findModes : FoundModes :=
  (List.range splitter.textOutMode.maxMode).foldl
    (fun found mode => found.consider conOutSize mode (splitter.queryMode mode))
    ⟨0xFF, 0xFF, (0, 0)⟩

/-- `ConsplitterSetConsoleOutMode`, for `PcdConOutColumn` and `PcdConOutRow`, which it sets when
the size cannot be. -/
def setConsoleOutMode : TextOutSplitter (TextOut γ) × TextSize :=
  let found := splitter.findModes conOutSize
  let set := splitter.setMode paper found.preferMode
  if set.1.isError then ((set.2.setMode paper found.baseMode).2, (40, 12))
  else (set.2, conOutSize)

end TextOutSplitter

end HtcLeo.ConSplitter
