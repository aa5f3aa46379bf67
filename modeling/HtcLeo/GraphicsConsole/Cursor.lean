import HtcLeo.GraphicsConsole.Start

/-!
# Where the cursor is

Whatever the font does, the cursor goes where it goes on a terminal without a page, and it
stays inside the text mode.
-/

namespace HtcLeo.GraphicsConsole

open Terminal

universe u

/-- Paper that keeps nothing. -/
def blankPaper : Paper Unit where
  canvas _ _ _ := bare U16
  clear _ := ()

/-- Every font can be taken to write on such paper. -/
theorem presents_blankPaper (outside : Outside) (graphicsOutput : GraphicsOutput)
    (table : List GraphicsConsoleModeData) :
    Presents outside graphicsOutput table blankPaper (fun _ _ _ => True) (fun _ _ => True)
      False where
  renders _ _ _ _ _ _ :=
    { space := trivial
      draw := fun _ _ _ _ _ _ _ _ _ _ => trivial
      cover := fun _ _ _ _ _ _ _ _ _ _ _ => trivial
      scroll := fun _ _ _ => trivial
      status := fun quiet => quiet.elim }
  clear _ _ _ _ _ := trivial

/-- There is memory for a line buffer where the call needs one. -/
def Call.allocated : Call → Bool
  | .reset allocated => allocated
  | .setMode _ allocated => allocated
  | _ => true

theorem Call.allowed_of_allocated {call : Call} (allocated : call.allocated) :
    call.Allowed fun _ _ => True := by
  cases call with
  | reset _ => exact allocated
  | setMode _ _ => exact allocated
  | outputString string =>
      intro token _
      cases token <;> trivial
  | setAttribute _ => trivial
  | clearScreen => trivial
  | setCursorPosition _ _ => trivial
  | enableCursor _ => trivial

section Cursor

variable {outside : Outside} {modes : GraphicsModes} {graphicsOutput : GraphicsOutput}
  {horizontalResolution verticalResolution : U32} {device : GraphicsConsoleDev}

/-- Once a mode is set, every run of calls returns, and the mode, the attribute and the cursor
are those of a console without pixels; the cursor is inside the mode. -/
theorem cursor_of_calls (sets : SetsModes outside modes) (coherent : Coherent modes graphicsOutput)
    (started : start outside modes horizontalResolution verticalResolution graphicsOutput =
      some device)
    (columns : device.graphicsOutput.width / 8 ≠ 1) (modeNumber : Nat)
    (set : (device.setMode outside true modeNumber).1 = .success) (calls : List Call)
    (allocated : ∀ call ∈ calls, call.allocated) :
    ∃ statuses after,
      device.performAll outside (.setMode modeNumber true :: calls) = some (statuses, after) ∧
        (let console := ((Console.started ()).steps device.modeData blankPaper
          (.setMode modeNumber true :: calls)).2
        after.mode = console.mode ∧ after.attr = console.attr ∧
          after.cursorVisible = console.visible ∧
          after.cursorColumn = console.terminal.column ∧
          after.cursorRow = console.terminal.row) ∧
        ∃ mode, after.currentMode = some mode ∧ after.cursorColumn < mode.columns.toNat ∧
          after.cursorRow < mode.rows.toNat := by
  have presents := presents_blankPaper outside device.graphicsOutput device.modeData
  obtain ⟨statuses, after, returned, follows, ready, -⟩ :=
    runs_of_started sets coherent started columns presents () set fun call member =>
      Call.allowed_of_allocated (allocated call member)
  obtain ⟨number, is_set⟩ := Option.isSome_iff_exists.mp ready
  obtain ⟨mode, entry, within, shown⟩ := follows.page number is_set
  refine ⟨statuses, after, returned,
    ⟨follows.mode, follows.attr, follows.visible, shown.cursorColumn, shown.cursorRow⟩,
    mode, ?_, ?_, ?_⟩
  · rw [follows.currentMode, Console.currentMode, is_set, Option.bind_some, entry]
  · rw [shown.cursorColumn]
    exact within.column
  · rw [shown.cursorRow]
    exact within.row

/-- On the frame buffer of the platform, with a font that draws nothing. -/
theorem cursor_of_calls_simpleFb :
    let outside : Outside := ⟨fun _ _ _ _ _ _ _ pixels => (.success, pixels), simpleFbSetMode⟩
    let device : GraphicsConsoleDev := .started simpleFb 480 800
    let calls : List Call := [.setMode 2 true, .setAttribute 0x1F,
      .outputString [0x0041, CHAR_LINEFEED, WIDE_CHAR, 0x4E2D, CHAR_BACKSPACE], .enableCursor false]
    ∃ statuses after, device.performAll outside calls = some (statuses, after) ∧
        (let console := ((Console.started ()).steps device.modeData blankPaper calls).2
        after.mode = console.mode ∧ after.attr = console.attr ∧
          after.cursorVisible = console.visible ∧
          after.cursorColumn = console.terminal.column ∧
          after.cursorRow = console.terminal.row) ∧
        ∃ mode, after.currentMode = some mode ∧ after.cursorColumn < mode.columns.toNat ∧
          after.cursorRow < mode.rows.toNat :=
  cursor_of_calls simpleFb_sets simpleFb_coherent (start_simpleFb _) (by decide) 2 rfl _
    (by decide)

end Cursor

end HtcLeo.GraphicsConsole
