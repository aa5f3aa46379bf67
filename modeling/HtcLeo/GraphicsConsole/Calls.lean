import HtcLeo.GraphicsConsole.Output

/-!
# Calls of the graphics console

A run is a list of calls.  Over the device stands a console that has no pixels: a mode, an
attribute, whether the cursor is visible, and a terminal that writes on paper.  What paper
is stays open, as what the pixels show does; whatever it is, the device does what the
console does, call by call, and every call returns.
-/

namespace HtcLeo.GraphicsConsole

open Raster Terminal

universe u

/-- The functions that change something; `allocated` says whether there is memory for the
line buffer. -/
inductive Call where
  | reset (allocated : Bool)
  | outputString (string : List U16)
  | setMode (modeNumber : Nat) (allocated : Bool)
  | setAttribute (attr : U32)
  | clearScreen
  | setCursorPosition (column row : Nat)
  | enableCursor (visible : Bool)
  deriving DecidableEq, Repr

/-- One call on the driver; `none` where the call does not return. -/
def GraphicsConsoleDev.perform (outside : Outside) (device : GraphicsConsoleDev) :
    Call → Option (EfiStatus × GraphicsConsoleDev)
  | .reset allocated => some (device.reset outside allocated)
  | .outputString string => GraphicsConsoleDev.outputString outside string device
  | .setMode modeNumber allocated => some (device.setMode outside allocated modeNumber)
  | .setAttribute attr => some (device.setAttribute attr)
  | .clearScreen => some device.clearScreen
  | .setCursorPosition column row => some (device.setCursorPosition column row)
  | .enableCursor visible => some (device.enableCursor visible)

/-- The device after some calls, and what they return. -/
def GraphicsConsoleDev.performAll (outside : Outside) (device : GraphicsConsoleDev) :
    List Call → Option (List EfiStatus × GraphicsConsoleDev)
  | [] => some ([], device)
  | call :: rest =>
      (device.perform outside call).bind fun result =>
        (result.2.performAll outside rest).map fun later => (result.1 :: later.1, later.2)

/-! ## The console without pixels -/

/-- Something of a size to write on in the colors of an attribute, and the clear page of a
color. -/
structure Paper (γ : Type u) where
  canvas : Size → U32 → U32 → Canvas γ U16
  clear : U32 → γ

/-- A console without pixels: the current mode, the color, the cursor and the text. -/
structure Console (γ : Type u) where
  mode : Option Nat
  attr : U32
  visible : Bool
  terminal : Terminal.State γ

namespace Console

variable {γ : Type u} (table : List GraphicsConsoleModeData) (paper : Paper γ)

/-- The mode data of the current mode. -/
def currentMode (console : Console γ) : Option GraphicsConsoleModeData :=
  console.mode.bind fun mode => table[mode]?

/-- A clear page, with the cursor in its first place. -/
def clear (console : Console γ) (color : U32) : Console γ :=
  { console with terminal := ⟨paper.clear color, 0, 0⟩ }

/-- `GraphicsConsoleConOutOutputString` on the text. -/
def outputString (console : Console γ) (string : List U16) : EfiStatus × Console γ :=
  match console.currentMode table with
  | none => (.unsupported, console)
  | some mode =>
      let colors := textColors console.attr
      (.success, { console with
        terminal := run mode.size (paper.canvas mode.size colors.1 colors.2) CHAR_SPACE
          console.terminal (tokens false string) })

/-- There is always memory for the console. -/
def setMode (console : Console γ) (modeNumber : Nat) : EfiStatus × Console γ :=
  match table[modeNumber]? with
  | none => (.unsupported, console)
  | some mode =>
      if mode.columns = 0 ∧ mode.rows = 0 then (.unsupported, console)
      else if console.mode = some modeNumber then
        (.success, console.clear paper (textColors console.attr).2)
      else (.success, { console with mode := some modeNumber }.clear paper 0)

/-- `GraphicsConsoleConOutSetAttribute` on the text. -/
def setAttribute (console : Console γ) (attr : U32) : EfiStatus × Console γ :=
  if attr ||| 0x7F ≠ 0x7F then (.unsupported, console)
  else (.success, { console with attr := attr })

/-- One call on the console without pixels. -/
def step (console : Console γ) : Call → EfiStatus × Console γ
  | .reset _ =>
      let set := console.setMode table paper 0
      if set.1.isError then set else set.2.setAttribute (set.2.attr &&& 0x0F)
  | .outputString string => console.outputString table paper string
  | .setMode modeNumber _ => console.setMode table paper modeNumber
  | .setAttribute attr => console.setAttribute attr
  | .clearScreen =>
      match console.currentMode table with
      | none => (.unsupported, console)
      | some _ => (.success, console.clear paper (textColors console.attr).2)
  | .setCursorPosition column row =>
      match console.currentMode table with
      | none => (.unsupported, console)
      | some mode =>
          if mode.columns.toNat ≤ column ∨ mode.rows.toNat ≤ row then (.unsupported, console)
          else (.success, { console with terminal := ⟨console.terminal.page, column, row⟩ })
  | .enableCursor visible =>
      match console.currentMode table with
      | none => (.unsupported, console)
      | some _ => (.success, { console with visible := visible })

/-- The statuses of a list of calls, and the console afterwards. -/
def steps (console : Console γ) : List Call → List EfiStatus × Console γ
  | [] => ([], console)
  | call :: rest =>
      let next := console.step table paper call
      let later := next.2.steps rest
      (next.1 :: later.1, later.2)

end Console

/-! ## The device follows the console -/

/-- The table was made for the screen, and no mode has a single column. -/
structure Suits (graphicsOutput : GraphicsOutput) (table : List GraphicsConsoleModeData) :
    Prop where
  number : ∀ mode ∈ table, mode.gopModeNumber = graphicsOutput.mode
  screen : ∀ mode ∈ table, (⟨0, 0, mode.gopWidth.toNat, mode.gopHeight.toNat⟩ : Rect) =
    graphicsOutput.screen
  sizes : ∀ mode ∈ table, mode.columns = 0 ∧ mode.rows = 0 ∨
    2 ≤ mode.columns.toNat ∧ 0 < mode.rows.toNat

/-- The pixels show what is on paper: also a clear screen does. -/
structure Presents {γ : Type u} (outside : Outside) (graphicsOutput : GraphicsOutput)
    (table : List GraphicsConsoleModeData) (paper : Paper γ)
    (shows : GraphicsConsoleModeData → (Nat → Nat → U32) → γ → Prop)
    (drawable : Bool → U16 → Prop) (quiet : Prop) : Prop where
  renders : ∀ (base : GraphicsConsoleDev) (mode : GraphicsConsoleModeData), mode ∈ table →
    2 ≤ mode.columns.toNat → base.currentMode = some mode →
    base.graphicsOutput.screen = graphicsOutput.screen →
      GraphicsConsoleDev.Renders outside base mode
        (paper.canvas mode.size base.getTextColors.1 base.getTextColors.2) (shows mode) drawable
        quiet
  clear : ∀ mode ∈ table, 2 ≤ mode.columns.toNat → ∀ color pixels,
    shows mode (fill graphicsOutput.screen color pixels) (paper.clear color)

/-- The device is in the state of the console, and shows its page, and its cursor if `lit`. -/
structure Follows {γ : Type u} (graphicsOutput : GraphicsOutput)
    (table : List GraphicsConsoleModeData)
    (shows : GraphicsConsoleModeData → (Nat → Nat → U32) → γ → Prop) (lit : Bool)
    (device : GraphicsConsoleDev) (console : Console γ) : Prop where
  modes : device.modeData = table
  number : device.graphicsOutput.mode = graphicsOutput.mode
  screen : device.graphicsOutput.screen = graphicsOutput.screen
  mode : device.mode = console.mode
  lineBuffer : device.lineBuffer = if console.mode.isSome then .allocated else .null
  attr : device.attr = console.attr
  colors : console.attr ||| 0x7F = 0x7F
  visible : device.cursorVisible = console.visible
  page : ∀ number, console.mode = some number → ∃ mode, table[number]? = some mode ∧
    console.terminal.Within mode.size ∧
    GraphicsConsoleDev.Shown device (shows mode) lit false device console.terminal

section Follows

variable {γ : Type u} {outside : Outside} {graphicsOutput : GraphicsOutput}
  {table : List GraphicsConsoleModeData} {paper : Paper γ}
  {shows : GraphicsConsoleModeData → (Nat → Nat → U32) → γ → Prop}
  {showing : (Nat → Nat → U32) → γ → Prop}
  {drawable : Bool → U16 → Prop} {quiet : Prop} {lit : Bool} {device : GraphicsConsoleDev}
  {console : Console γ} {state : Terminal.State γ} {page : γ} {attr : U32}

namespace GraphicsConsoleDev

section Flush

variable (device : GraphicsConsoleDev)

@[simp]
theorem flushCursor_modeData : device.flushCursor.modeData = device.modeData := by
  rw [flushCursor_eq]

@[simp]
theorem flushCursor_lineBuffer : device.flushCursor.lineBuffer = device.lineBuffer := by
  rw [flushCursor_eq]

@[simp]
theorem flushCursor_mode : device.flushCursor.mode = device.mode := by
  rw [flushCursor_eq]

@[simp]
theorem flushCursor_attr : device.flushCursor.attr = device.attr := by
  rw [flushCursor_eq]

@[simp]
theorem flushCursor_cursorVisible : device.flushCursor.cursorVisible = device.cursorVisible := by
  rw [flushCursor_eq]

@[simp]
theorem flushCursor_cursorColumn : device.flushCursor.cursorColumn = device.cursorColumn := by
  rw [flushCursor_eq]

@[simp]
theorem flushCursor_cursorRow : device.flushCursor.cursorRow = device.cursorRow := by
  rw [flushCursor_eq]

@[simp]
theorem flushCursor_gopMode :
    device.flushCursor.graphicsOutput.mode = device.graphicsOutput.mode := by
  rw [flushCursor_eq]

@[simp]
theorem flushCursor_screen :
    device.flushCursor.graphicsOutput.screen = device.graphicsOutput.screen := by
  rw [flushCursor_eq]
  rfl

end Flush

/-- An attribute that can be set has no wide attribute. -/
theorem wideAttr_of_colors (colors : attr ||| 0x7F = 0x7F) : wideAttr false attr = attr := by
  have without : attr &&& EFI_WIDE_ATTRIBUTE = 0#32 := by
    have masked : (attr ||| 0x7F) &&& EFI_WIDE_ATTRIBUTE = attr &&& EFI_WIDE_ATTRIBUTE := by
      rw [BitVec.and_or_distrib_right]
      exact BitVec.or_zero
    rw [← masked, colors]
    rfl
  have parts : attr = attr &&& EFI_WIDE_ATTRIBUTE ||| attr &&& ~~~EFI_WIDE_ATTRIBUTE := by
    rw [← BitVec.and_or_distrib_left, BitVec.or_not_self, BitVec.and_allOnes]
  rw [wideAttr, if_neg Bool.false_ne_true, Flags.clear]
  rw [without, BitVec.zero_or] at parts
  exact parts.symm

theorem wideAttr_wideAttr (wide other : Bool) (attr : U32) :
    wideAttr other (wideAttr wide attr) = wideAttr other attr := by
  cases other with
  | false => exact clear_wideAttr wide attr
  | true => exact wideAttr_or wide attr

/-- What a device shows does not depend on the device that it is compared to. -/
theorem Shown.rebase {base : GraphicsConsoleDev} {wide : Bool}
    (shown : Shown base showing lit wide device state) :
    Shown device showing lit wide device state := by
  obtain ⟨pixels, rfl, is_shown⟩ := shown
  refine ⟨pixels, ?_, is_shown⟩
  rw [flipped_withState]
  simp only [withState, wideAttr_wideAttr]

/-- Without the cursor the pixels show the page. -/
theorem Shown.pixels {base : GraphicsConsoleDev} {wide : Bool}
    (shown : Shown base showing false wide device state) :
    showing device.graphicsOutput.pixels state.page := by
  obtain ⟨pixels, rfl, is_shown⟩ := shown
  exact is_shown

theorem shown_self (colors : device.attr ||| 0x7F = 0x7F)
    (column : device.cursorColumn = state.column) (row : device.cursorRow = state.row)
    (is_shown : showing device.graphicsOutput.pixels state.page) :
    Shown device showing false false device state := by
  refine ⟨device.graphicsOutput.pixels, ?_, is_shown⟩
  simp only [withState, wideAttr_of_colors colors, ← column, ← row]
  rfl

end GraphicsConsoleDev

open GraphicsConsoleDev

theorem Follows.flush (follows : Follows graphicsOutput table shows lit device console) :
    Follows graphicsOutput table shows (!lit) device.flushCursor console where
  modes := by simpa using follows.modes
  number := by simpa using follows.number
  screen := by simpa using follows.screen
  mode := by simpa using follows.mode
  lineBuffer := by simpa using follows.lineBuffer
  attr := by simpa using follows.attr
  colors := follows.colors
  visible := by simpa using follows.visible
  page number set := by
    obtain ⟨mode, entry, within, shown⟩ := follows.page number set
    exact ⟨mode, entry, within, shown.flush.rebase⟩

theorem Follows.setAttr (follows : Follows graphicsOutput table shows false device console)
    (colors : attr ||| 0x7F = 0x7F) :
    Follows graphicsOutput table shows false { device with attr := attr }
      { console with attr := attr } where
  modes := follows.modes
  number := follows.number
  screen := follows.screen
  mode := follows.mode
  lineBuffer := follows.lineBuffer
  attr := rfl
  colors := colors
  visible := follows.visible
  page number set := by
    obtain ⟨mode, entry, within, shown⟩ := follows.page number set
    exact ⟨mode, entry, within,
      shown_self colors shown.cursorColumn shown.cursorRow shown.pixels⟩

theorem Follows.setVisible (follows : Follows graphicsOutput table shows false device console)
    (visible : Bool) :
    Follows graphicsOutput table shows false { device with cursorVisible := visible }
      { console with visible := visible } where
  modes := follows.modes
  number := follows.number
  screen := follows.screen
  mode := follows.mode
  lineBuffer := follows.lineBuffer
  attr := follows.attr
  colors := follows.colors
  visible := rfl
  page number set := by
    obtain ⟨mode, entry, within, shown⟩ := follows.page number set
    have colors : device.attr ||| 0x7F = 0x7F := by
      rw [follows.attr]
      exact follows.colors
    exact ⟨mode, entry, within,
      shown_self colors shown.cursorColumn shown.cursorRow shown.pixels⟩

theorem Follows.moveTo (follows : Follows graphicsOutput table shows false device console)
    {mode : GraphicsConsoleModeData} {column row : Nat}
    (current : console.currentMode table = some mode) (insideColumn : column < mode.columns.toNat)
    (insideRow : row < mode.rows.toNat) :
    Follows graphicsOutput table shows false (device.moveTo column row)
      { console with terminal := ⟨console.terminal.page, column, row⟩ } where
  modes := follows.modes
  number := follows.number
  screen := follows.screen
  mode := follows.mode
  lineBuffer := follows.lineBuffer
  attr := follows.attr
  colors := follows.colors
  visible := follows.visible
  page number set := by
    obtain ⟨mode', entry, -, shown⟩ := follows.page number set
    have same : mode' = mode := by
      have found : console.mode.bind (fun mode => table[mode]?) = some mode := current
      rw [set, Option.bind_some, entry] at found
      exact Option.some.inj found
    subst same
    have colors : device.attr ||| 0x7F = 0x7F := by
      rw [follows.attr]
      exact follows.colors
    exact ⟨mode', entry, ⟨insideColumn, insideRow⟩, shown_self colors rfl rfl shown.pixels⟩

/-- The screen is filled with a color, and the cursor goes to the first place. -/
def GraphicsConsoleDev.filled (device : GraphicsConsoleDev) (color : U32) : GraphicsConsoleDev :=
  { device with
    graphicsOutput := { device.graphicsOutput with
      pixels := fill device.graphicsOutput.screen color device.graphicsOutput.pixels } }.moveTo 0 0

/-- The device shows a clear page in a mode, whatever it showed before. -/
theorem Follows.filled (suits : Suits graphicsOutput table)
    (presents : Presents outside graphicsOutput table paper shows drawable quiet)
    (follows : Follows graphicsOutput table shows lit device console) (color : U32)
    {number : Nat} {mode : GraphicsConsoleModeData} (entry : table[number]? = some mode)
    (usable : ¬ (mode.columns = 0 ∧ mode.rows = 0)) :
    Follows graphicsOutput table shows false
      { device.filled color with lineBuffer := .allocated, mode := some number }
      ({ console with mode := some number }.clear paper color) where
  modes := follows.modes
  number := follows.number
  screen := follows.screen
  mode := rfl
  lineBuffer := rfl
  attr := follows.attr
  colors := follows.colors
  visible := follows.visible
  page other set := by
    obtain rfl := Option.some.inj set
    have member := List.mem_of_getElem? entry
    obtain ⟨columns, rows⟩ := (suits.sizes mode member).resolve_left usable
    have colors : device.attr ||| 0x7F = 0x7F := by
      rw [follows.attr]
      exact follows.colors
    refine ⟨mode, entry, ⟨Nat.zero_lt_of_lt columns, rows⟩, shown_self colors rfl rfl ?_⟩
    have clear := presents.clear mode member columns color device.graphicsOutput.pixels
    rw [← follows.screen] at clear
    exact clear

theorem Follows.currentMode (follows : Follows graphicsOutput table shows lit device console) :
    device.currentMode = console.currentMode table := by
  rw [GraphicsConsoleDev.currentMode, Console.currentMode, follows.mode, follows.modes]

/-- The mode that is set is in the table. -/
theorem Follows.current (follows : Follows graphicsOutput table shows lit device console)
    {mode : GraphicsConsoleModeData} (current : console.currentMode table = some mode) :
    ∃ number, console.mode = some number ∧ table[number]? = some mode ∧
      console.terminal.Within mode.size ∧
      Shown device (shows mode) lit false device console.terminal := by
  obtain ⟨number, set, entry⟩ := Option.bind_eq_some_iff.mp current
  obtain ⟨mode', entry', within, shown⟩ := follows.page number set
  rw [entry] at entry'
  obtain rfl := Option.some.inj entry'
  exact ⟨number, set, entry, within, shown⟩

theorem Follows.outputString (suits : Suits graphicsOutput table)
    (presents : Presents outside graphicsOutput table paper shows drawable quiet)
    (follows : Follows graphicsOutput table shows true device console) (string : List U16)
    (drawables : ∀ token ∈ tokens false string, DrawableToken drawable token) :
    ∃ status after, GraphicsConsoleDev.outputString outside string device = some (status, after) ∧
      Follows graphicsOutput table shows true after (console.outputString table paper string).2 ∧
      (quiet → status = (console.outputString table paper string).1) := by
  have same := follows.currentMode
  rw [Console.outputString]
  cases current : console.currentMode table with
  | none =>
      refine ⟨.unsupported, device, ?_, follows, fun _ => rfl⟩
      rw [GraphicsConsoleDev.outputString, rounds, outputStringIn, same, current]
  | some mode =>
      obtain ⟨number, set, entry, within, shown⟩ := follows.current current
      have member := List.mem_of_getElem? entry
      have columns : 2 ≤ mode.columns.toNat := by
        rcases suits.sizes mode member with empty | usable
        · have inside : console.terminal.column < mode.columns.toNat := within.column
          rw [empty.1] at inside
          exact absurd inside (Nat.not_lt_zero _)
        · exact usable.1
      have colors : device.getTextColors = textColors console.attr := by
        rw [getTextColors, follows.attr]
      have renders :=
        presents.renders device mode member columns (same.trans current) follows.screen
      obtain ⟨status, after, returned, ended, calm⟩ :=
        shown.outputString renders (same.trans current) columns within drawables
      refine ⟨status, after, returned, ?_, calm⟩
      rw [colors] at ended
      obtain ⟨pixels, is_after, is_shown⟩ := ended
      have rebased := Shown.rebase ⟨pixels, is_after, is_shown⟩
      have narrow : wideAttr false device.attr = console.attr := by
        rw [follows.attr, wideAttr_of_colors follows.colors]
      subst is_after
      exact
        { modes := follows.modes
          number := follows.number
          screen := follows.screen
          mode := follows.mode
          lineBuffer := follows.lineBuffer
          attr := narrow
          colors := follows.colors
          visible := follows.visible
          page := fun other set' => by
            obtain rfl := Option.some.inj (set.symm.trans set')
            exact ⟨mode, entry, within.run, rebased⟩ }

/-- The whole screen is filled. -/
theorem bltVideoFill_screen (suits : Suits graphicsOutput table)
    (follows : Follows graphicsOutput table shows lit device console)
    {mode : GraphicsConsoleModeData} (member : mode ∈ table) (color : U32) :
    device.graphicsOutput.bltVideoFill color
        ⟨0, 0, mode.gopWidth.toNat, mode.gopHeight.toNat⟩ =
      some { device.graphicsOutput with
        pixels := fill device.graphicsOutput.screen color device.graphicsOutput.pixels } := by
  have whole := (suits.screen mode member).trans follows.screen.symm
  have inside : device.graphicsOutput.screen.Inside device.graphicsOutput.screen :=
    ⟨Nat.le_refl _, Nat.le_refl _, Nat.le_refl _, Nat.le_refl _⟩
  rw [GraphicsOutput.bltVideoFill, whole, if_pos inside]

theorem Follows.clearScreen (suits : Suits graphicsOutput table)
    (presents : Presents outside graphicsOutput table paper shows drawable quiet)
    (follows : Follows graphicsOutput table shows true device console)
    {mode : GraphicsConsoleModeData} (current : console.currentMode table = some mode) :
    device.clearScreen.1 = .success ∧
      Follows graphicsOutput table shows true device.clearScreen.2
        (console.clear paper (textColors console.attr).2) := by
  obtain ⟨number, set, entry, within, shown⟩ := follows.current current
  have member := List.mem_of_getElem? entry
  have usable : ¬ (mode.columns = 0 ∧ mode.rows = 0) := by
    rintro ⟨columns, -⟩
    have inside : console.terminal.column < mode.columns.toNat := within.column
    rw [columns] at inside
    exact Nat.not_lt_zero _ inside
  have colors : device.getTextColors = textColors console.attr := by
    rw [getTextColors, follows.attr]
  have lineBuffer : device.lineBuffer = .allocated := by
    rw [follows.lineBuffer, set]
    rfl
  have filled := (follows.filled suits presents (textColors console.attr).2 entry usable).flush
  have same : ({ device.filled (textColors console.attr).2 with
      lineBuffer := .allocated, mode := some number } : GraphicsConsoleDev) =
      device.filled (textColors console.attr).2 := by
    rw [← lineBuffer, ← set, ← follows.mode]
    rfl
  rw [same] at filled
  rw [GraphicsConsoleDev.clearScreen, follows.currentMode, current]
  simp only [bltVideoFill_screen suits follows member, colors, Option.isSome_some, if_true,
    Option.getD_some]
  have console_same : ({ console with mode := some number } : Console γ) = console := by
    rw [← set]
  rw [console_same] at filled
  exact ⟨trivial, filled⟩

/-- Before a mode is set, only the pixels depend on whether there was a cursor to take off; the
line buffer is about to be replaced. -/
theorem Follows.leaveMode (follows : Follows graphicsOutput table shows true device console) :
    ∃ lit dark lineBuffer,
      device.leaveMode = ({ dark with lineBuffer := lineBuffer } : GraphicsConsoleDev) ∧
        Follows graphicsOutput table shows lit dark console := by
  rw [GraphicsConsoleDev.leaveMode]
  split
  · exact ⟨true, device, device.lineBuffer, rfl, follows⟩
  · exact ⟨false, device.flushCursor, device.lineBuffer.free, rfl, follows.flush⟩

theorem Follows.setMode (suits : Suits graphicsOutput table)
    (presents : Presents outside graphicsOutput table paper shows drawable quiet)
    (follows : Follows graphicsOutput table shows true device console) (modeNumber : Nat) :
    (device.setMode outside true modeNumber).1 = (console.setMode table paper modeNumber).1 ∧
      Follows graphicsOutput table shows true (device.setMode outside true modeNumber).2
        (console.setMode table paper modeNumber).2 := by
  rw [GraphicsConsoleDev.setMode, Console.setMode, follows.modes]
  cases entry : table[modeNumber]? with
  | none => exact ⟨rfl, follows⟩
  | some mode =>
      have member := List.mem_of_getElem? entry
      simp only
      split
      · exact ⟨rfl, follows⟩
      · next usable =>
          rw [follows.mode]
          by_cases same : console.mode = some modeNumber
          · have again : device.lineBuffer ≠ .null ∧ console.mode = some modeNumber := by
              rw [follows.lineBuffer, same]
              exact ⟨nofun, rfl⟩
            have current : console.currentMode table = some mode := by
              rw [Console.currentMode, same, Option.bind_some, entry]
            rw [if_pos again, if_pos same]
            exact ⟨rfl, (follows.clearScreen suits presents current).2⟩
          · rw [if_neg fun again => same again.2, if_neg same, Bool.not_true,
              if_neg Bool.false_ne_true]
            obtain ⟨lit, dark, lineBuffer, is_left, darkened⟩ := follows.leaveMode
            rw [is_left]
            have number : mode.gopModeNumber = dark.graphicsOutput.mode :=
              (suits.number mode member).trans darkened.number.symm
            rw [prepareScreen, if_neg (not_not_intro number),
              bltVideoFill_screen suits darkened member]
            exact ⟨rfl, (darkened.filled suits presents 0 entry usable).flush⟩

theorem Follows.setAttribute (follows : Follows graphicsOutput table shows true device console)
    (attr : U32) :
    (device.setAttribute attr).1 = (console.setAttribute attr).1 ∧
      Follows graphicsOutput table shows true (device.setAttribute attr).2
        (console.setAttribute attr).2 := by
  rw [GraphicsConsoleDev.setAttribute, Console.setAttribute]
  split
  · exact ⟨rfl, follows⟩
  · next colors =>
      split
      · next same =>
          have unchanged : ({ console with attr := attr } : Console γ) = console := by
            rw [same, follows.attr]
          rw [unchanged]
          exact ⟨rfl, follows⟩
      · exact ⟨rfl, (follows.flush.setAttr (not_not.mp colors)).flush⟩

theorem Follows.setCursorPosition
    (follows : Follows graphicsOutput table shows true device console) (column row : Nat) :
    (device.setCursorPosition column row).1 =
        (console.step table paper (.setCursorPosition column row)).1 ∧
      Follows graphicsOutput table shows true (device.setCursorPosition column row).2
        (console.step table paper (.setCursorPosition column row)).2 := by
  rw [GraphicsConsoleDev.setCursorPosition, Console.step, follows.currentMode]
  cases current : console.currentMode table with
  | none => exact ⟨rfl, follows⟩
  | some mode =>
      simp only
      split
      · exact ⟨rfl, follows⟩
      · next notBeyond =>
          rw [not_or, Nat.not_le, Nat.not_le] at notBeyond
          split
          · next here =>
              obtain ⟨number, -, -, -, shown⟩ := follows.current current
              rw [shown.cursorColumn, shown.cursorRow] at here
              rw [← here.1, ← here.2]
              exact ⟨rfl, follows⟩
          · exact ⟨rfl, (follows.flush.moveTo current notBeyond.1 notBeyond.2).flush⟩

theorem Follows.enableCursor (follows : Follows graphicsOutput table shows true device console)
    (visible : Bool) :
    (device.enableCursor visible).1 = (console.step table paper (.enableCursor visible)).1 ∧
      Follows graphicsOutput table shows true (device.enableCursor visible).2
        (console.step table paper (.enableCursor visible)).2 := by
  rw [GraphicsConsoleDev.enableCursor, Console.step, follows.currentMode]
  cases console.currentMode table with
  | none => exact ⟨rfl, follows⟩
  | some mode => exact ⟨rfl, (follows.flush.setVisible visible).flush⟩

theorem Follows.reset (suits : Suits graphicsOutput table)
    (presents : Presents outside graphicsOutput table paper shows drawable quiet)
    (follows : Follows graphicsOutput table shows true device console) :
    (device.reset outside true).1 = (console.step table paper (.reset true)).1 ∧
      Follows graphicsOutput table shows true (device.reset outside true).2
        (console.step table paper (.reset true)).2 := by
  obtain ⟨status, after⟩ := follows.setMode suits presents 0
  simp only [GraphicsConsoleDev.reset, Console.step, status]
  split
  · exact ⟨status, after⟩
  · rw [after.attr]
    exact after.setAttribute _

/-! ## Runs -/

/-- A call that can be made: there is memory, and what is printed can be drawn. -/
def Call.Allowed (drawable : Bool → U16 → Prop) : Call → Prop
  | .reset allocated => allocated = true
  | .outputString string => ∀ token ∈ tokens false string, DrawableToken drawable token
  | .setMode _ allocated => allocated = true
  | _ => True

theorem Follows.step (suits : Suits graphicsOutput table)
    (presents : Presents outside graphicsOutput table paper shows drawable quiet)
    (follows : Follows graphicsOutput table shows true device console) {call : Call}
    (allowed : call.Allowed drawable) :
    ∃ status after, device.perform outside call = some (status, after) ∧
      Follows graphicsOutput table shows true after (console.step table paper call).2 ∧
      (quiet → status = (console.step table paper call).1) := by
  cases call with
  | reset allocated =>
      obtain rfl : allocated = true := allowed
      obtain ⟨status, after⟩ := follows.reset suits presents
      exact ⟨_, _, rfl, after, fun _ => status⟩
  | outputString string => exact follows.outputString suits presents string allowed
  | setMode modeNumber allocated =>
      obtain rfl : allocated = true := allowed
      obtain ⟨status, after⟩ := follows.setMode suits presents modeNumber
      exact ⟨_, _, rfl, after, fun _ => status⟩
  | setAttribute attr =>
      obtain ⟨status, after⟩ := follows.setAttribute attr
      exact ⟨_, _, rfl, after, fun _ => status⟩
  | clearScreen =>
      refine ⟨device.clearScreen.1, device.clearScreen.2, rfl, ?_⟩
      rw [Console.step]
      cases current : console.currentMode table with
      | none =>
          have unsupported : device.clearScreen = (.unsupported, device) := by
            rw [GraphicsConsoleDev.clearScreen, follows.currentMode, current]
          rw [unsupported]
          exact ⟨follows, fun _ => rfl⟩
      | some mode =>
          obtain ⟨status, after⟩ := follows.clearScreen suits presents current
          exact ⟨after, fun _ => status⟩
  | setCursorPosition column row =>
      obtain ⟨status, after⟩ := follows.setCursorPosition column row
      exact ⟨_, _, rfl, after, fun _ => status⟩
  | enableCursor visible =>
      obtain ⟨status, after⟩ := follows.enableCursor visible
      exact ⟨_, _, rfl, after, fun _ => status⟩

/-- Every run of calls returns, and the device follows the console all the way. -/
theorem Follows.steps (suits : Suits graphicsOutput table)
    (presents : Presents outside graphicsOutput table paper shows drawable quiet)
    (follows : Follows graphicsOutput table shows true device console) {calls : List Call}
    (allowed : ∀ call ∈ calls, call.Allowed drawable) :
    ∃ statuses after, device.performAll outside calls = some (statuses, after) ∧
      Follows graphicsOutput table shows true after (console.steps table paper calls).2 ∧
      (quiet → statuses = (console.steps table paper calls).1) := by
  induction calls generalizing device console with
  | nil => exact ⟨[], device, rfl, follows, fun _ => rfl⟩
  | cons call rest ih =>
      rw [List.forall_mem_cons] at allowed
      obtain ⟨status, after, returned, follows, calm⟩ := follows.step suits presents allowed.1
      obtain ⟨statuses, later, returnedAll, follows, calmAll⟩ := ih follows allowed.2
      refine ⟨status :: statuses, later, ?_, follows, fun quiet => ?_⟩
      · rw [performAll, returned, Option.bind_some, returnedAll]
        rfl
      · rw [Console.steps, calm quiet, calmAll quiet]

end Follows

end HtcLeo.GraphicsConsole
