import HtcLeo.GraphicsConsole.Start

/-!
# What is on the screen

With a font that draws its glyphs in a row, the screen shows a sheet of characters, the
border around it, and the cursor where it is visible.  The sheet is written by a terminal
that knows nothing of pixels.
-/

namespace HtcLeo.GraphicsConsole

open Raster Terminal

/-! ## The font -/

/-- A glyph takes one column or two, and has 19 rows of pixels. -/
structure Glyph where
  wide : Bool
  bitmap : Nat → Nat → Bool

/-- The glyph of each character, where there is one. -/
abbrev Font :=
  U16 → Option Glyph

/-- The pixels of a glyph in two colors. -/
def Glyph.image (glyph : Glyph) (foreground background : U32) : Nat → Nat → U32 :=
  fun x y => if glyph.bitmap x y then foreground else background

/-- The glyphs of a string side by side, without those that are missing. -/
def drawGlyphs (font : Font) (foreground background : U32) (top : Nat) :
    Nat → List U16 → (Nat → Nat → U32) → Nat → Nat → U32
  | _, [], pixels => pixels
  | left, character :: rest, pixels =>
      match font character with
      | none => drawGlyphs font foreground background top left rest pixels
      | some glyph =>
          drawGlyphs font foreground background top (left + width glyph.wide * 8) rest
            (stamp ⟨left, top, width glyph.wide * 8, 19⟩ (glyph.image foreground background) pixels)

/-- The font has a glyph for a character that takes so many columns. -/
def Font.Has (font : Font) (wide : Bool) (character : U16) : Prop :=
  ∃ glyph, font character = some glyph ∧ glyph.wide = wide

/-- `StringToImage` draws the glyphs of a string on the screen where there is room for
them. -/
def DrawsGlyphs (outside : Outside) (font : Font) : Prop :=
  ∀ (screenWidth screenHeight : U16) (wide : Bool) (string : List U16)
    (foreground background : U32) (left top : Nat) (pixels : Nat → Nat → U32),
    (∀ character ∈ string, font.Has wide character) →
    left + string.length * width wide * 8 ≤ screenWidth.toNat → top + 19 ≤ screenHeight.toNat →
      outside.stringToImage screenWidth screenHeight string foreground background left top pixels =
        (.success, drawGlyphs font foreground background top left string pixels)

/-! ## The sheet -/

/-- What is in a cell: one of the halves of a glyph, or nothing. -/
inductive Cell where
  | blank (color : U32)
  | glyph (character : U16) (half : Nat) (foreground background : U32)
  deriving DecidableEq, Repr

/-- What is in each cell, and the color around the cells. -/
structure Sheet where
  cell : Nat → Nat → Cell
  border : U32

namespace Sheet

/-- Blank cells of one color. -/
def clear (color : U32) : Sheet :=
  ⟨fun _ _ => .blank color, color⟩

/-- A character in one cell, or in two cells when it is wide. -/
def put (foreground background : U32) (wide : Bool) (column row : Nat) (character : U16)
    (sheet : Sheet) : Sheet :=
  { sheet with
    cell := fun c r =>
      if c = column ∧ r = row then .glyph character 0 foreground background
      else if wide ∧ c = column + 1 ∧ r = row then .glyph character 1 foreground background
      else sheet.cell c r }

/-- All rows up by one, with a blank last row. -/
def scroll (rows : Nat) (background : U32) (sheet : Sheet) : Sheet :=
  { sheet with
    cell := fun c r => if r + 1 < rows then sheet.cell c (r + 1) else .blank background }

end Sheet

/-- Sheets as the paper of a terminal. -/
def sheetPaper : Paper Sheet where
  canvas size foreground background :=
    { put := Sheet.put foreground background
      scroll := Sheet.scroll size.rows background }
  clear := Sheet.clear

/-! ## The sheet in pixels -/

/-- The pixels of a cell. -/
def Cell.image (font : Font) : Cell → Nat → Nat → U32
  | .blank color => fun _ _ => color
  | .glyph character half foreground background =>
      match font character with
      | none => fun _ _ => background
      | some found => fun x y => found.image foreground background (half * 8 + x) y

/-- The pixels of all cells. -/
def Sheet.page (font : Font) (sheet : Sheet) : Page U32 :=
  fun column row => (sheet.cell column row).image font

/-- Where the text of a mode is. -/
def GraphicsConsoleModeData.window (mode : GraphicsConsoleModeData) : Window where
  left := mode.deltaX.toNat
  top := mode.deltaY.toNat
  columns := mode.columns.toNat
  rows := mode.rows.toNat
  cellWidth := 8
  cellHeight := 19
  width_pos := by decide
  height_pos := by decide

/-- The pixels of the screen show a sheet in a mode. -/
def ShowsSheet (font : Font) (screen : Rect) (mode : GraphicsConsoleModeData)
    (pixels : Nat → Nat → U32) (sheet : Sheet) : Prop :=
  ∃ raster, pixels = mode.window.paint (sheet.page font) (fill screen sheet.border raster)

section Draw

variable {font : Font} {foreground background : U32} {mode : GraphicsConsoleModeData}
  {sheet : Sheet} {raster : Nat → Nat → U32} {wide : Bool} {column row : Nat} {character : U16}
  {string : List U16}

theorem cells_eq (mode : GraphicsConsoleModeData) (column row count : Nat) :
    mode.window.cells column row count =
      ⟨column * 8 + mode.deltaX.toNat, row * 19 + mode.deltaY.toNat, count * 8, 19⟩ := by
  rw [Nat.add_comm _ mode.deltaX.toNat, Nat.add_comm _ mode.deltaY.toNat]
  rfl

theorem glyphRect_eq (mode : GraphicsConsoleModeData) (column row : Nat) :
    GraphicsConsoleDev.glyphRect mode column row = mode.window.cells column row 1 :=
  (cells_eq mode column row 1).symm

theorem image_glyph {glyph : Glyph} (known : font character = some glyph) (half : Nat) :
    (Cell.glyph character half foreground background).image font =
      fun x y => glyph.image foreground background (half * 8 + x) y := by
  simp only [Cell.image, known]

/-- A glyph in its cells is a character on the sheet. -/
theorem stamp_glyph {glyph : Glyph} (known : font character = some glyph)
    (room : column + width glyph.wide ≤ mode.window.columns) (inside : row < mode.window.rows) :
    stamp (mode.window.cells column row (width glyph.wide)) (glyph.image foreground background)
        (mode.window.paint (sheet.page font) raster) =
      mode.window.paint
        ((sheet.put foreground background glyph.wide column row character).page font) raster := by
  have first : (Cell.glyph character 0 foreground background).image font =
      glyph.image foreground background := by
    simp only [image_glyph known, Nat.zero_mul, Nat.zero_add]
  cases wide : glyph.wide with
  | false =>
      rw [wide, width_false] at room
      rw [width_false, Window.stamp_cell room inside]
      congr 1
      funext c r
      simp only [Page.set, Sheet.page, Sheet.put, Bool.false_eq_true, false_and, if_false]
      split
      · exact first.symm
      · rfl
  | true =>
      rw [wide, width_true] at room
      rw [width_true, Window.stamp_two_cells room inside]
      congr 1
      funext c r
      simp only [Page.set, Sheet.page, Sheet.put, true_and]
      by_cases second : c = column + 1 ∧ r = row
      · have other : ¬ (c = column ∧ r = row) := by omega
        rw [if_pos second, if_neg other, if_pos second, image_glyph known]
        rfl
      · rw [if_neg second, if_neg second]
        split
        · exact first.symm
        · rfl

/-- The glyphs of a string are a row of the sheet. -/
theorem drawGlyphs_eq (known : ∀ character ∈ string, font.Has wide character)
    (room : column + string.length * width wide ≤ mode.window.columns)
    (inside : row < mode.window.rows) :
    drawGlyphs font foreground background (row * 19 + mode.deltaY.toNat)
        (column * 8 + mode.deltaX.toNat) string (mode.window.paint (sheet.page font) raster) =
      mode.window.paint
        (((sheetPaper.canvas mode.size foreground background).putRow wide row column string
          sheet).page font) raster := by
  induction string generalizing column sheet with
  | nil => rfl
  | cons character rest ih =>
      rw [List.forall_mem_cons] at known
      obtain ⟨⟨glyph, found, rfl⟩, known⟩ := known
      rw [List.length_cons, Nat.succ_mul] at room
      have further : column * 8 + mode.deltaX.toNat + width glyph.wide * 8 =
          (column + width glyph.wide) * 8 + mode.deltaX.toNat := by
        rw [Nat.add_mul, Nat.add_right_comm]
      simp only [drawGlyphs, found]
      rw [further, ← cells_eq, stamp_glyph found (by omega) inside]
      exact ih known (by omega)

theorem putRow_border (size : Size) (wide : Bool) (row column : Nat) (string : List U16)
    (sheet : Sheet) :
    ((sheetPaper.canvas size foreground background).putRow wide row column string sheet).border =
      sheet.border := by
  induction string generalizing column sheet with
  | nil => rfl
  | cons character rest ih => exact ih (column + width wide) _

/-- The first glyph covers its first cell. -/
theorem drawGlyphs_stamp {image pixels : Nat → Nat → U32} (nonempty : string ≠ [])
    (known : ∀ character ∈ string, font.Has wide character) (left top : Nat) :
    drawGlyphs font foreground background top left string (stamp ⟨left, top, 8, 19⟩ image pixels) =
      drawGlyphs font foreground background top left string pixels := by
  cases string with
  | nil => exact absurd rfl nonempty
  | cons character rest =>
      obtain ⟨glyph, found, -⟩ := known character List.mem_cons_self
      have covered : (⟨left, top, 8, 19⟩ : Rect).Inside ⟨left, top, width glyph.wide * 8, 19⟩ := by
        have positive := width_pos glyph.wide
        refine ⟨Nat.le_refl _, ?_, Nat.le_refl _, Nat.le_refl _⟩
        simp only
        omega
      simp only [drawGlyphs, found]
      rw [stamp_stamp_of_inside covered]

theorem page_scroll (rows : Nat) :
    (sheet.scroll rows background).page font = Page.scroll rows background (sheet.page font) := by
  funext column row
  simp only [Sheet.page, Sheet.scroll, Page.scroll]
  split <;> rfl

end Draw

/-! ## The screen shows the sheet -/

/-- The text is on the screen, and the resolution can be given to the font. -/
structure GraphicsConsoleModeData.OnScreen (mode : GraphicsConsoleModeData) (screen : Rect) :
    Prop where
  rows : 0 < mode.window.rows
  inside : mode.window.rect.Inside screen
  width : screen.left + screen.width ≤ (mode.gopWidth.setWidth 16).toNat
  height : screen.top + screen.height ≤ (mode.gopHeight.setWidth 16).toNat

section Screen

variable {outside : Outside} {font : Font} {base : GraphicsConsoleDev}
  {mode : GraphicsConsoleModeData} {wide : Bool} {column row : Nat} {string : List U16}
  {pixels : Nat → Nat → U32} {sheet : Sheet}

open GraphicsConsoleDev

theorem drawn_eq (draws : DrawsGlyphs outside font) (current : base.currentMode = some mode)
    (onScreen : mode.OnScreen base.graphicsOutput.screen)
    (known : ∀ character ∈ string, font.Has wide character)
    (room : column + string.length * width wide ≤ mode.size.columns)
    (inside : row < mode.size.rows) :
    base.drawn outside column row string pixels =
      (.success, drawGlyphs font base.getTextColors.1 base.getTextColors.2
        (row * 19 + mode.deltaY.toNat) (column * 8 + mode.deltaX.toNat) string pixels) := by
  simp only [drawn, current]
  apply draws _ _ wide _ _ _ _ _ _ known
  · have right := Nat.le_trans onScreen.inside.right onScreen.width
    have across := Nat.mul_le_mul_right 8 room
    rw [Nat.add_mul] at across
    simp only [Window.rect, GraphicsConsoleModeData.window, GraphicsConsoleModeData.size,
      glyphRect] at right across ⊢
    omega
  · have bottom := Nat.le_trans onScreen.inside.bottom onScreen.height
    have down := Nat.mul_le_mul_right 19 (Nat.succ_le_of_lt inside)
    rw [Nat.succ_mul] at down
    simp only [Window.rect, GraphicsConsoleModeData.window, GraphicsConsoleModeData.size,
      glyphRect] at bottom down ⊢
    omega

theorem showsSheet_putRow (draws : DrawsGlyphs outside font)
    (current : base.currentMode = some mode) (onScreen : mode.OnScreen base.graphicsOutput.screen)
    (known : ∀ character ∈ string, font.Has wide character)
    (room : column + string.length * width wide ≤ mode.size.columns)
    (inside : row < mode.size.rows)
    (shows : ShowsSheet font base.graphicsOutput.screen mode pixels sheet) :
    ShowsSheet font base.graphicsOutput.screen mode
      (base.drawn outside column row string pixels).2
      ((sheetPaper.canvas mode.size base.getTextColors.1 base.getTextColors.2).putRow wide row
        column string sheet) := by
  obtain ⟨raster, rfl⟩ := shows
  refine ⟨raster, ?_⟩
  rw [drawn_eq draws current onScreen known room inside, putRow_border]
  exact drawGlyphs_eq known room inside

theorem drawn_flipped (draws : DrawsGlyphs outside font)
    (current : base.currentMode = some mode) (onScreen : mode.OnScreen base.graphicsOutput.screen)
    (nonempty : string ≠ []) (known : ∀ character ∈ string, font.Has wide character)
    (room : column + string.length * width wide ≤ mode.size.columns)
    (inside : row < mode.size.rows) :
    base.drawn outside column row string (base.flipped column row pixels) =
      base.drawn outside column row string pixels := by
  rw [drawn_eq draws current onScreen known room inside,
    drawn_eq draws current onScreen known room inside]
  simp only [flipped, current]
  split
  · rw [glyphRect, drawGlyphs_stamp nonempty known]
  · rfl

theorem showsSheet_scroll (onScreen : mode.OnScreen base.graphicsOutput.screen)
    (shows : ShowsSheet font base.graphicsOutput.screen mode pixels sheet) :
    ShowsSheet font base.graphicsOutput.screen mode (base.scrolled mode pixels)
      ((sheetPaper.canvas mode.size base.getTextColors.1 base.getTextColors.2).scroll sheet) := by
  obtain ⟨raster, rfl⟩ := shows
  refine ⟨raster, ?_⟩
  have all_rows : mode.window.rows - 1 + 1 = mode.window.rows := Nat.sub_add_cancel onScreen.rows
  have within {first count : Nat} (inside : first + count ≤ mode.window.rows) :
      (mode.window.band first count).Inside base.graphicsOutput.screen :=
    (Window.band_inside inside).trans onScreen.inside
  have source : movedRows mode 19 = mode.window.band 1 (mode.window.rows - 1) := rfl
  have destination : movedRows mode 0 = mode.window.band 0 (mode.window.rows - 1) := rfl
  have last : lastRow mode = mode.window.band (mode.window.rows - 1) 1 := by
    rw [lastRow, Window.band, Nat.one_mul]
    rfl
  have moves : (movedRows mode 19).Inside base.graphicsOutput.screen ∧
      (movedRows mode 0).Inside base.graphicsOutput.screen := by
    rw [source, destination]
    exact ⟨within (by omega), within (by omega)⟩
  have fills : (lastRow mode).Inside base.graphicsOutput.screen := by
    rw [last]
    exact within (by omega)
  simp only [scrolled, if_pos moves, if_pos fills]
  rw [source, destination, last, Window.scroll_eq onScreen.rows, ← page_scroll]
  rfl

theorem renders_sheet (draws : DrawsGlyphs outside font) (space : font.Has false CHAR_SPACE)
    (current : base.currentMode = some mode)
    (onScreen : mode.OnScreen base.graphicsOutput.screen) :
    Renders outside base mode
      (sheetPaper.canvas mode.size base.getTextColors.1 base.getTextColors.2)
      (ShowsSheet font base.graphicsOutput.screen mode) font.Has True where
  space := space
  draw _ _ _ _ _ _ known room inside shows :=
    showsSheet_putRow draws current onScreen known room inside shows
  cover _ _ _ _ _ _ nonempty known room inside shows := by
    rw [drawn_flipped draws current onScreen nonempty known room inside]
    exact showsSheet_putRow draws current onScreen known room inside shows
  scroll _ _ shows := showsSheet_scroll onScreen shows
  status _ _ _ _ _ _ known room inside := by
    rw [drawn_eq draws current onScreen known room inside]

theorem presents_sheet {graphicsOutput : GraphicsOutput} {table : List GraphicsConsoleModeData}
    (draws : DrawsGlyphs outside font) (space : font.Has false CHAR_SPACE)
    (onScreen : ∀ mode ∈ table, 2 ≤ mode.columns.toNat → mode.OnScreen graphicsOutput.screen) :
    Presents outside graphicsOutput table sheetPaper (ShowsSheet font graphicsOutput.screen)
      font.Has True where
  renders base mode member columns current screen := by
    have fits := onScreen mode member columns
    rw [← screen] at fits ⊢
    exact renders_sheet draws space current fits
  clear mode member columns color pixels :=
    ⟨pixels, Window.fill_eq_paint (onScreen mode member columns).inside color⟩

end Screen

/-! ## Runs -/

theorem usable_of_size {mode : GraphicsConsoleModeData} (columns : 0 < mode.columns.toNat)
    (rows : 0 < mode.rows.toNat) : mode.Usable := by
  constructor <;> intro zero
  · rw [zero] at columns
    exact Nat.lt_irrefl 0 columns
  · rw [zero] at rows
    exact Nat.lt_irrefl 0 rows

theorem toNat_setWidth_of_lt {resolution : U32} (small : resolution.toNat < 65536) :
    (resolution.setWidth 16).toNat = resolution.toNat := by
  rw [BitVec.toNat_setWidth]
  exact Nat.mod_eq_of_lt small

/-- The modes of a large enough screen are on it. -/
theorem onScreen_table {graphicsOutput : GraphicsOutput}
    {horizontalResolution verticalResolution : U32}
    (has : graphicsOutput.HasResolution horizontalResolution verticalResolution)
    (columns : 320 ≤ graphicsOutput.width) (rows : 228 ≤ graphicsOutput.height)
    (width : graphicsOutput.width < 65536) (height : graphicsOutput.height < 65536) :
    ∀ mode ∈ initializeGraphicsConsoleTextMode horizontalResolution verticalResolution
        graphicsOutput.mode,
      0 < mode.columns.toNat → mode.OnScreen graphicsOutput.screen := by
  intro mode member wide
  have screen : graphicsOutput.screen =
      ⟨0, 0, horizontalResolution.toNat, verticalResolution.toNat⟩ := by
    rw [GraphicsOutput.screen, has.1, has.2]
  rw [screen]
  rw [has.1] at columns width
  rw [has.2] at rows height
  have more : horizontalResolution.toNat / 8 ≠ 1 := by omega
  obtain ⟨⟨-, isWidth, isHeight⟩, sizes⟩ := forall_mem_table _ _ _ more mode member
  have high : 0 < mode.rows.toNat := by
    rcases sizes with ⟨zero, -⟩ | ⟨-, high⟩
    · rw [zero] at wide
      exact absurd wide (Nat.lt_irrefl 0)
    · exact high
  have usable := usable_of_size wide high
  have centred := forall_centred _ _ _ columns rows mode member usable
  have right := centred.right
  have bottom := centred.bottom
  refine ⟨high, ⟨Nat.zero_le _, ?_, Nat.zero_le _, ?_⟩, ?_, ?_⟩
  · simp only [Window.rect, GraphicsConsoleModeData.window]
    omega
  · simp only [Window.rect, GraphicsConsoleModeData.window]
    omega
  · apply Nat.le_of_eq
    rw [isWidth, toNat_setWidth_of_lt width, Nat.zero_add]
  · apply Nat.le_of_eq
    rw [isHeight, toNat_setWidth_of_lt height, Nat.zero_add]

/-- What is in a cell of the screen: the cursor is drawn over its cell where it is visible. -/
def Console.picture (font : Font) (console : Console Sheet) (column row x y : Nat) : U32 :=
  let pixel := console.terminal.page.page font column row x y
  if console.visible ∧ column = console.terminal.column ∧ row = console.terminal.row then
    GraphicsConsoleDev.cursorPixel (textColors console.attr).1 x y pixel
  else pixel

section Runs

variable {outside : Outside} {modes : GraphicsModes} {graphicsOutput : GraphicsOutput}
  {font : Font} {horizontalResolution verticalResolution : U32} {device : GraphicsConsoleDev}
  {table : List GraphicsConsoleModeData} {console : Console Sheet}
  {mode : GraphicsConsoleModeData} {number : Nat}

/-- The cursor is drawn over the image of its cell. -/
theorem flipped_eq {base : GraphicsConsoleDev} (current : base.currentMode = some mode)
    (onScreen : mode.OnScreen base.graphicsOutput.screen)
    (within : console.terminal.Within mode.size) (visible : base.cursorVisible = console.visible)
    (attr : base.attr = console.attr) (raster : Nat → Nat → U32) :
    base.flipped console.terminal.column console.terminal.row
        (mode.window.paint (console.terminal.page.page font) raster) =
      mode.window.paint (console.picture font) raster := by
  have columns : console.terminal.column < mode.window.columns := within.column
  have rows : console.terminal.row < mode.window.rows := within.row
  have inside : (mode.window.cells console.terminal.column console.terminal.row 1).Inside
      base.graphicsOutput.screen :=
    (Window.cells_inside columns rows).trans onScreen.inside
  simp only [GraphicsConsoleDev.flipped, current, glyphRect_eq, visible,
    GraphicsConsoleDev.getTextColors, attr]
  by_cases shown : console.visible = true
  · rw [if_pos ⟨shown, inside⟩, Window.recolor_cell columns rows]
    congr 1
    funext column row x y
    simp only [Page.set, Console.picture, shown, true_and]
    split
    · next here =>
        rw [here.1, here.2]
        rfl
    · rfl
  · rw [if_neg fun both => shown both.1]
    congr 1
    funext column row x y
    exact (if_neg fun both => shown both.1).symm

/-- A device that follows a console shows its picture. -/
theorem Follows.pixels_eq
    (follows : Follows graphicsOutput table (ShowsSheet font graphicsOutput.screen) true device
      console)
    (set : console.mode = some number) (entry : table[number]? = some mode)
    (onScreen : mode.OnScreen graphicsOutput.screen) :
    ∃ raster, device.graphicsOutput.pixels =
      mode.window.paint (console.picture font)
        (fill graphicsOutput.screen console.terminal.page.border raster) := by
  obtain ⟨mode', entry', within, pixels, is_device, raster, rfl⟩ := follows.page number set
  obtain rfl := Option.some.inj (entry'.symm.trans entry)
  have current : device.currentMode = some mode' := by
    rw [follows.currentMode, Console.currentMode, set, Option.bind_some, entry]
  rw [← follows.screen] at onScreen
  refine ⟨raster, ?_⟩
  rw [is_device]
  exact flipped_eq current onScreen within follows.visible follows.attr _

/-- Once a mode is set, a run of calls shows what the console without pixels has written:
its sheet in the cells of the mode, its cursor over one of them, and its border around
them.  Every call returns what it returns there. -/
theorem display_of_calls (sets : SetsModes outside modes) (coherent : Coherent modes graphicsOutput)
    (started : start outside modes horizontalResolution verticalResolution graphicsOutput =
      some device)
    (columns : 320 ≤ device.graphicsOutput.width) (rows : 228 ≤ device.graphicsOutput.height)
    (width : device.graphicsOutput.width < 65536) (height : device.graphicsOutput.height < 65536)
    (draws : DrawsGlyphs outside font) (space : font.Has false CHAR_SPACE) (modeNumber : Nat)
    (set : (device.setMode outside true modeNumber).1 = .success) (calls : List Call)
    (allowed : ∀ call ∈ calls, call.Allowed font.Has) :
    let ended := (Console.started (Sheet.clear 0)).steps device.modeData sheetPaper
      (.setMode modeNumber true :: calls)
    ∃ after mode,
      device.performAll outside (.setMode modeNumber true :: calls) = some (ended.1, after) ∧
        after.currentMode = some mode ∧
        (∀ column < mode.columns.toNat, ∀ row < mode.rows.toNat, ∀ x < 8, ∀ y < 19,
          after.graphicsOutput.pixels (mode.deltaX.toNat + (column * 8 + x))
              (mode.deltaY.toNat + (row * 19 + y)) =
            ended.2.picture font column row x y) ∧
        ∀ x < device.graphicsOutput.width, ∀ y < device.graphicsOutput.height,
          ¬ mode.window.rect.Contains x y →
            after.graphicsOutput.pixels x y = ended.2.terminal.page.border := by
  intro ended
  obtain ⟨horizontal, vertical, -, has, is_started⟩ := start_resolution sets coherent started
  have onScreen : ∀ mode ∈ device.modeData, 0 < mode.columns.toNat →
      mode.OnScreen device.graphicsOutput.screen := by
    rw [is_started]
    exact onScreen_table has columns rows width height
  have presents : Presents outside device.graphicsOutput device.modeData sheetPaper
      (ShowsSheet font device.graphicsOutput.screen) font.Has True :=
    presents_sheet draws space fun mode member wide =>
      onScreen mode member (Nat.lt_of_lt_of_le Nat.zero_lt_two wide)
  have more : device.graphicsOutput.width / 8 ≠ 1 := by omega
  obtain ⟨statuses, after, returned, follows, ready, same⟩ :=
    runs_of_started sets coherent started more presents (Sheet.clear 0) set allowed
  rw [same trivial] at returned
  obtain ⟨number, is_set⟩ := Option.isSome_iff_exists.mp ready
  obtain ⟨mode, entry, within, -⟩ := follows.page number is_set
  have wide : ended.2.terminal.column < mode.columns.toNat := within.column
  have fits := onScreen mode (List.mem_of_getElem? entry) (Nat.zero_lt_of_lt wide)
  obtain ⟨raster, pixels⟩ := follows.pixels_eq is_set entry fits
  refine ⟨after, mode, returned, ?_, ?_, ?_⟩
  · rw [follows.currentMode, Console.currentMode, is_set, Option.bind_some, entry]
  · intro column insideColumn row insideRow x insideX y insideY
    rw [pixels]
    exact Window.paint_cell insideColumn insideRow insideX insideY
  · intro x insideX y insideY outside
    have contains : device.graphicsOutput.screen.Contains x y := by
      refine ⟨Nat.zero_le _, ?_, Nat.zero_le _, ?_⟩
      · exact Nat.lt_of_lt_of_le insideX (Nat.le_add_left _ _)
      · exact Nat.lt_of_lt_of_le insideY (Nat.le_add_left _ _)
    rw [pixels, Window.paint_of_not_contains outside, fill, stamp_of_contains contains]

end Runs

/-! ## A font of blocks -/

/-- A space is empty, and every other character is a block. -/
def blockFont : Font :=
  fun character => some ⟨0x4E00 ≤ character, fun _ _ => character ≠ CHAR_SPACE⟩

/-- A frame buffer whose font has one glyph for all characters. -/
def blockOutside : Outside where
  stringToImage _ _ string foreground background left top pixels :=
    (.success, drawGlyphs blockFont foreground background top left string pixels)
  setMode := simpleFbSetMode

theorem blockFont_has (character : U16) :
    blockFont.Has (0x4E00 ≤ character) character :=
  ⟨_, rfl, rfl⟩

/-- On the frame buffer of the platform. -/
theorem display_of_calls_simpleFb :
    let device : GraphicsConsoleDev := .started simpleFb 480 800
    let calls : List Call := [.setMode 2 true, .setAttribute 0x1F,
      .outputString [0x0041, CHAR_LINEFEED, WIDE_CHAR, 0x4E2D, CHAR_BACKSPACE]]
    let ended := (Console.started (Sheet.clear 0)).steps device.modeData sheetPaper calls
    ∃ after mode,
      device.performAll blockOutside calls = some (ended.1, after) ∧
        after.currentMode = some mode ∧
        (∀ column < mode.columns.toNat, ∀ row < mode.rows.toNat, ∀ x < 8, ∀ y < 19,
          after.graphicsOutput.pixels (mode.deltaX.toNat + (column * 8 + x))
              (mode.deltaY.toNat + (row * 19 + y)) =
            ended.2.picture blockFont column row x y) ∧
        ∀ x < device.graphicsOutput.width, ∀ y < device.graphicsOutput.height,
          ¬ mode.window.rect.Contains x y →
            after.graphicsOutput.pixels x y = ended.2.terminal.page.border :=
  display_of_calls simpleFb_sets simpleFb_coherent (start_simpleFb blockOutside) (by decide)
    (by decide) (by decide) (by decide) (fun _ _ _ _ _ _ _ _ _ _ _ _ => rfl)
    (blockFont_has CHAR_SPACE) 2 rfl _ (by
      rw [List.forall_mem_cons, List.forall_mem_singleton]
      refine ⟨trivial, List.forall_mem_cons.mpr ⟨blockFont_has 0x0041, ?_⟩⟩
      exact List.forall_mem_cons.mpr ⟨trivial, List.forall_mem_cons.mpr
        ⟨blockFont_has 0x4E2D, List.forall_mem_singleton.mpr trivial⟩⟩)

end HtcLeo.GraphicsConsole
