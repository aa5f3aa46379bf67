import HtcLeo.GraphicsConsole.Shown

/-!
# OutputString writes on a terminal

`OutputString` draws as many characters at once as it can, calls itself for spaces and line
ends, and flips the cursor on the way.  Whatever the drawn pixels are taken to show, it
does what a terminal does that takes the characters one at a time and has no cursor to
draw: the cursor is off the screen when something is drawn, or it is covered.
-/

namespace HtcLeo.GraphicsConsole

open Terminal

universe u

variable {γ : Type u}

/-- The characters of a string as a terminal gets them: the wide and narrow characters only
say how the following ones are to be taken. -/
def tokens : Bool → List U16 → List (Token U16)
  | _, [] => []
  | wide, character :: rest =>
      if character = CHAR_BACKSPACE then .backspace :: tokens wide rest
      else if character = CHAR_LINEFEED then .lineFeed :: tokens wide rest
      else if character = CHAR_CARRIAGE_RETURN then .carriageReturn :: tokens wide rest
      else if character = WIDE_CHAR then tokens true rest
      else if character = NARROW_CHAR then tokens false rest
      else .print wide character :: tokens wide rest

namespace GraphicsConsoleDev

/-- What is printed can be drawn. -/
def DrawableToken (drawable : Bool → U16 → Prop) : Token U16 → Prop
  | .print wide character => drawable wide character
  | _ => True

/-! ## The loop, character by character -/

section Loop

variable (outside : Outside) (call : List U16 → GraphicsConsoleDev → Option GraphicsConsoleDev)
  (mode : GraphicsConsoleModeData) (fuel : Nat) (rest : List U16) (status : EfiStatus)
  (warning : Bool) (device : GraphicsConsoleDev)

theorem characters_nil : characters outside call mode fuel [] status warning device =
    some (status, warning, device) := by
  cases fuel <;> rfl

theorem characters_backspace :
    characters outside call mode (fuel + 1) (CHAR_BACKSPACE :: rest) status warning device =
      (device.backspace call mode).bind (characters outside call mode fuel rest status warning) :=
  rfl

theorem characters_lineFeed :
    characters outside call mode (fuel + 1) (CHAR_LINEFEED :: rest) status warning device =
      characters outside call mode fuel rest status warning (device.lineFeed mode) :=
  rfl

theorem characters_carriageReturn :
    characters outside call mode (fuel + 1) (CHAR_CARRIAGE_RETURN :: rest) status warning device =
      characters outside call mode fuel rest status warning (device.moveTo 0 device.cursorRow) :=
  rfl

theorem characters_narrow :
    characters outside call mode (fuel + 1) (NARROW_CHAR :: rest) status warning device =
      characters outside call mode fuel rest status warning
        { device with attr := Flags.clear device.attr EFI_WIDE_ATTRIBUTE } :=
  rfl

theorem isControl_eq_false_iff {character : U16} : isControl character = false ↔
    character ≠ CHAR_BACKSPACE ∧ character ≠ CHAR_LINEFEED ∧ character ≠ CHAR_CARRIAGE_RETURN ∧
      character ≠ WIDE_CHAR ∧ character ≠ NARROW_CHAR := by
  simp [isControl, and_assoc]

/-- A run of characters that are drawn. -/
theorem characters_print {character : U16} (printed : isControl character = false) {run : Nat × Nat}
    (counted : run =
      countRun device.isWide mode.columns.toNat device.cursorColumn (character :: rest) 0 0)
    {drawn : EfiStatus × GraphicsConsoleDev}
    (drew : drawn =
      drawUnicodeWeightAtCursorN outside device ((character :: rest).take run.1)) :
    characters outside call mode (fuel + 1) (character :: rest) status warning device =
      (endOfRow call mode
        (drawn.2.moveTo (drawn.2.cursorColumn + run.2) drawn.2.cursorRow)).bind
          (characters outside call mode fuel ((character :: rest).drop run.1) drawn.1
            (warning || drawn.1.isError)) := by
  obtain ⟨noBackspace, noLineFeed, noReturn, noWide, noNarrow⟩ := isControl_eq_false_iff.mp printed
  subst drew counted
  rw [characters, if_neg noBackspace, if_neg noLineFeed, if_neg noReturn, if_neg noWide,
    if_neg noNarrow]

end Loop

theorem tokens_cons {character : U16} (printed : isControl character = false) (wide : Bool)
    (rest : List U16) :
    tokens wide (character :: rest) = .print wide character :: tokens wide rest := by
  obtain ⟨noBackspace, noLineFeed, noReturn, noWide, noNarrow⟩ := isControl_eq_false_iff.mp printed
  rw [tokens, if_neg noBackspace, if_neg noLineFeed, if_neg noReturn, if_neg noWide,
    if_neg noNarrow]

theorem tokens_append {first : List U16}
    (printed : ∀ character ∈ first, isControl character = false) (wide : Bool) (rest : List U16) :
    tokens wide (first ++ rest) = first.map (.print wide) ++ tokens wide rest := by
  induction first with
  | nil => rfl
  | cons character first ih =>
      rw [List.forall_mem_cons] at printed
      rw [List.cons_append, tokens_cons printed.1, ih printed.2, List.map_cons, List.cons_append]

/-! ## How many characters are drawn at once -/

/-- The characters that are drawn are the first ones of the string up to a control
character, as far as they have room.  The columns of a wide character that has no room are
counted too, so that the count goes beyond the row. -/
def Counted (wide : Bool) (maxColumn column : Nat) (string : List U16) (count index : Nat)
    (result : Nat × Nat) : Prop :=
  ∃ n, (∀ character ∈ string.take n, isControl character = false) ∧ n ≤ string.length ∧
    (result = (count + n, index + n * width wide) ∧
        column + (index + n * width wide) ≤ maxColumn ∧
        (n = 0 → column + index < maxColumn →
          ∀ character ∈ string.head?, isControl character = true) ∨
      wide = true ∧ result = (count + n, index + n * width wide + 2) ∧
        column + (index + n * width wide) + 1 = maxColumn ∧
        ∃ character rest, string.drop n = character :: rest ∧ isControl character = false)

section Count

variable {wide : Bool} {maxColumn column count index : Nat} {string rest : List U16}
  {character : U16} {result : Nat × Nat}

/-- No character is drawn. -/
theorem counted_none (notBeyond : column + index ≤ maxColumn)
    (stops : column + index < maxColumn →
      ∀ character ∈ string.head?, isControl character = true) :
    Counted wide maxColumn column string count index (count, index) := by
  refine ⟨0, by simp, Nat.zero_le _, .inl ⟨?_, by simpa using notBeyond, fun _ => stops⟩⟩
  rw [Nat.zero_mul, Nat.add_zero, Nat.add_zero]

/-- One more character is drawn in front of the others. -/
theorem Counted.cons (printed : isControl character = false)
    (counted : Counted wide maxColumn column rest (count + 1) (index + width wide) result) :
    Counted wide maxColumn column (character :: rest) count index result := by
  obtain ⟨n, printable, short, counted⟩ := counted
  have counts : count + 1 + n = count + (n + 1) := by omega
  have indices : index + width wide + n * width wide = index + (n + 1) * width wide := by
    rw [Nat.succ_mul]
    omega
  rw [counts, indices] at counted
  refine ⟨n + 1, ?_, Nat.succ_le_succ short, ?_⟩
  · rw [List.take_succ_cons, List.forall_mem_cons]
    exact ⟨printed, printable⟩
  · rcases counted with ⟨equal, within, -⟩ | ⟨isWide, equal, full, left⟩
    · exact .inl ⟨equal, within, fun zero => absurd zero (Nat.succ_ne_zero n)⟩
    · exact .inr ⟨isWide, equal, full, left⟩

theorem countRun_counted (notBeyond : column + index ≤ maxColumn) :
    Counted wide maxColumn column string count index
      (countRun wide maxColumn column string count index) := by
  induction string generalizing count index with
  | nil => exact counted_none notBeyond fun _ _ member => absurd member (Option.not_mem_none _)
  | cons character rest ih =>
      rw [countRun]
      split
      · next before =>
        split
        · next control =>
          refine counted_none notBeyond fun _ first member => ?_
          obtain rfl := Option.some.inj member
          exact control
        · next printed =>
          rw [Bool.not_eq_true] at printed
          cases wide with
          | false => exact (ih before).cons printed
          | true =>
              rw [if_pos rfl]
              split
              · next noRoom =>
                exact ⟨0, by simp, Nat.zero_le _,
                  .inr ⟨rfl, by simp, by omega, character, rest, rfl, printed⟩⟩
              · next room => exact (ih (Nat.not_lt.mp room)).cons printed
      · next full => exact counted_none notBeyond fun before => absurd before full

end Count

/-! ## Nested calls -/

section Nested

variable {outside : Outside} {base device : GraphicsConsoleDev} {mode : GraphicsConsoleModeData}
  {canvas : Canvas γ U16} {shows : (Nat → Nat → U32) → γ → Prop} {drawable : Bool → U16 → Prop}
  {quiet : Prop} {lit wide : Bool} {state : Terminal.State γ} {string : List U16}

/-- The call of `OutputString` that its loop makes. -/
def nested (outside : Outside) (fuel : Nat) (string : List U16) (device : GraphicsConsoleDev) :
    Option GraphicsConsoleDev :=
  (outputStringIn outside fuel string device).map Prod.snd

/-- A call ends when its loop does, with the cursor on the screen. -/
theorem Shown.ends (fuel : Nat) (current : base.currentMode = some mode)
    (shown : Shown base shows lit wide device state)
    {status : EfiStatus} {warning other : Bool} {after : GraphicsConsoleDev}
    {final : Terminal.State γ}
    (looped : characters outside (nested outside fuel) mode fuel string .success false
      device.flushCursor = some (status, warning, after))
    (ended : Shown base shows false other after final) :
    ∃ result, outputStringIn outside (fuel + 1) string device =
        some (if warning then .warnUnknownGlyph else status, result) ∧
      Shown base shows true wide result final := by
  have restored : Shown base shows false wide { after with attr := device.attr } final := by
    rw [shown.attr]
    exact ended.restore
  refine ⟨_, ?_, restored.flush⟩
  rw [outputStringIn, shown.currentMode.trans current]
  change Option.map _ (characters outside (nested outside fuel) mode fuel string .success false
    device.flushCursor) = _
  rw [looped]
  rfl

/-- A new line, with the cursor on the screen before and after. -/
theorem Shown.newLine (fuel : Nat) (renders : Renders outside base mode canvas shows drawable quiet)
    (current : base.currentMode = some mode) (shown : Shown base shows true wide device state) :
    ∃ after, nested outside (fuel + 3) mCrLfString device = some after ∧
      Shown base shows true wide after (Terminal.newLine mode.size canvas state) := by
  have dark : Shown base shows false wide device.flushCursor state := shown.flush
  have looped : characters outside (nested outside (fuel + 2)) mode (fuel + 2) mCrLfString .success
      false device.flushCursor = some (.success, false,
        GraphicsConsoleDev.lineFeed mode
          (device.flushCursor.moveTo 0 device.flushCursor.cursorRow)) := by
    rw [mCrLfString, characters_carriageReturn, characters_lineFeed, characters_nil]
  obtain ⟨after, returned, ended⟩ :=
    shown.ends _ current looped ((dark.moveColumn 0).lineFeed renders)
  exact ⟨after, congrArg (Option.map Prod.snd) returned, ended⟩

/-- A full row ends, with the cursor off the screen before and after. -/
theorem Shown.wrap (fuel : Nat) (renders : Renders outside base mode canvas shows drawable quiet)
    (current : base.currentMode = some mode) (shown : Shown base shows false wide device state)
    (notBeyond : state.column ≤ mode.size.columns) :
    ∃ after, endOfRow (nested outside (fuel + 3)) mode device = some after ∧
      Shown base shows false wide after (Terminal.wrap mode.size canvas state) := by
  have columns : mode.size.columns = mode.columns.toNat := rfl
  rw [columns] at notBeyond
  rw [endOfRow, shown.cursorColumn, if_neg (Nat.not_lt.mpr notBeyond), Option.bind_some,
    shown.cursorColumn, Terminal.wrap, columns]
  split
  · obtain ⟨after, returned, lit⟩ := (shown.flush).newLine fuel renders current
    exact ⟨after.flushCursor, by rw [returned]; rfl, lit.flush⟩
  · exact ⟨device, rfl, shown⟩

/-- Characters that have room are drawn at once, and the row ends if it is full. -/
theorem Shown.prints (fuel : Nat) (string : List U16)
    (renders : Renders outside base mode canvas shows drawable quiet)
    (current : base.currentMode = some mode) (shown : Shown base shows lit wide device state)
    (covers : lit = true → string ≠ [])
    (drawables : ∀ character ∈ string, drawable wide character)
    (inside : state.Within mode.size)
    (room : state.column + string.length * width wide ≤ mode.size.columns) :
    let drawn := (drawUnicodeWeightAtCursorN outside device string).2
    ∃ after, endOfRow (nested outside (fuel + 3)) mode
        (drawn.moveTo (drawn.cursorColumn + string.length * width wide) drawn.cursorRow) =
          some after ∧
      Shown base shows false wide after
        (Terminal.run mode.size canvas CHAR_SPACE state (string.map (.print wide))) := by
  intro drawn
  have dark : Shown base shows false wide drawn _ :=
    (shown.draw renders covers drawables room inside.row).1
  rw [dark.cursorColumn, run_prints inside.column room]
  exact (dark.moveColumn (state.column + string.length * width wide)).wrap fuel renders current room

/-- A space, with the cursor off the screen before, and on it afterwards. -/
theorem Shown.space (fuel : Nat) (renders : Renders outside base mode canvas shows drawable quiet)
    (current : base.currentMode = some mode) (shown : Shown base shows false wide device state)
    (inside : state.Within mode.size) :
    ∃ after, nested outside (fuel + 4) spaceStr device = some after ∧
      Shown base shows true wide after
        (Terminal.print mode.size canvas false CHAR_SPACE state) := by
  have columns : state.column < mode.columns.toNat := inside.column
  have room : state.column + width false ≤ mode.size.columns := columns
  have printed : isControl CHAR_SPACE = false := by decide
  have counted : (1, 1) = countRun false mode.columns.toNat state.column [CHAR_SPACE] 0 0 := by
    rw [countRun, Nat.add_zero, if_pos columns, printed, if_neg Bool.false_ne_true,
      if_neg Bool.false_ne_true]
    rfl
  obtain ⟨narrowed, is_narrowed⟩ : ∃ narrowed, narrowed = { device.flushCursor with
    attr := Flags.clear device.flushCursor.attr EFI_WIDE_ATTRIBUTE } := ⟨_, rfl⟩
  have lit : Shown base shows true false narrowed state := by
    rw [is_narrowed]
    exact (shown.flush).narrow
  obtain ⟨after, returned, ended⟩ := lit.prints fuel [CHAR_SPACE] renders
    current (fun _ => List.cons_ne_nil _ _)
    (List.forall_mem_singleton.mpr renders.space) inside columns
  rw [List.map_singleton, run_cons, run_nil, feed_print_of_room CHAR_SPACE room] at ended
  rw [← lit.isWide, ← lit.cursorColumn] at counted
  have looped := characters_print outside (nested outside (fuel + 3)) mode (fuel + 1) [] .success
    false narrowed printed counted rfl
  rw [List.take_succ_cons, List.take_zero] at looped
  have continued := looped.trans (congrArg (Option.bind · _) returned)
  rw [Option.bind_some, List.drop_succ_cons, List.drop_nil, characters_nil] at continued
  rw [is_narrowed, ← characters_narrow] at continued
  obtain ⟨result, returned, shown⟩ := shown.ends (fuel + 3) current continued ended
  exact ⟨result, congrArg (Option.map Prod.snd) returned, shown⟩

/-- A space in the last column leads to the next row. -/
theorem print_last (canvas : Canvas γ U16) (blank : U16)
    (inside : state.column + 1 = mode.size.columns) :
    (Terminal.print mode.size canvas false blank state).column = 0 := by
  have ended : mode.size.columns ≤ state.column + width false := Nat.le_of_eq inside.symm
  rw [Terminal.print, Terminal.wrap, if_pos ended, Terminal.newLine, lineFeed_column]

/-- The place that a wide character has no room in is filled with a space; the cursor is left
on the screen. -/
theorem Shown.fillRow (fuel : Nat) (renders : Renders outside base mode canvas shows drawable quiet)
    (current : base.currentMode = some mode) (shown : Shown base shows false wide device state)
    (inside : state.Within mode.size) (last : state.column + 1 = mode.size.columns) :
    ∃ after, endOfRow (nested outside (fuel + 4)) mode
        (device.moveTo (state.column + 2) device.cursorRow) = some after ∧
      Shown base shows true wide after
        (Terminal.print mode.size canvas false CHAR_SPACE state) := by
  have columns : mode.size.columns = mode.columns.toNat := rfl
  obtain ⟨after, returned, lit⟩ := (shown.moveColumn state.column).space fuel renders current inside
  have beyond : mode.columns.toNat < state.column + 2 := by omega
  have begun : after.cursorColumn = 0 := lit.cursorColumn.trans (print_last canvas CHAR_SPACE last)
  refine ⟨after, ?_, lit⟩
  rw [endOfRow]
  have filled : (if mode.columns.toNat <
        (device.moveTo (state.column + 2) device.cursorRow).cursorColumn
      then nested outside (fuel + 4) spaceStr
        ((device.moveTo (state.column + 2) device.cursorRow).moveTo
          ((device.moveTo (state.column + 2) device.cursorRow).cursorColumn - 2)
          (device.moveTo (state.column + 2) device.cursorRow).cursorRow)
      else some (device.moveTo (state.column + 2) device.cursorRow)) = some after :=
    (if_pos beyond).trans returned
  rw [filled, Option.bind_some, begun, if_neg (by omega)]

/-- The character before the cursor is replaced by a space. -/
theorem Shown.backspace (fuel : Nat)
    (renders : Renders outside base mode canvas shows drawable quiet)
    (current : base.currentMode = some mode) (shown : Shown base shows false wide device state)
    (inside : state.Within mode.size) :
    ∃ after, GraphicsConsoleDev.backspace (nested outside (fuel + 4)) mode device = some after ∧
      Shown base shows false wide after
        (feed mode.size canvas CHAR_SPACE state .backspace) := by
  obtain ⟨page, column, row⟩ := state
  have insideColumn : column < mode.size.columns := inside.column
  have insideRow : row < mode.size.rows := inside.row
  have cursorColumn := shown.cursorColumn
  have cursorRow := shown.cursorRow
  rw [GraphicsConsoleDev.backspace, cursorColumn, cursorRow]
  cases column with
  | succ column =>
      have before : column < mode.size.columns := Nat.lt_of_succ_lt insideColumn
      obtain ⟨after, returned, lit⟩ :=
        (shown.move column row).space fuel renders current ⟨before, insideRow⟩
      have dark : Shown base shows false wide after.flushCursor _ := lit.flush
      rw [Terminal.print, wrap_of_lt insideColumn] at dark
      refine ⟨_, ?_, dark.moveColumn column⟩
      rw [if_neg fun atStart => Nat.succ_ne_zero column atStart.1, if_pos (Nat.succ_pos column),
        Nat.add_sub_cancel, returned, Option.map_some, dark.cursorColumn]
      rfl
  | zero =>
      cases row with
      | zero => exact ⟨device, rfl, shown⟩
      | succ row =>
          -- The space fills the row above, so that the cursor comes back to where it was.
          have last : mode.size.columns - 1 + width false = mode.size.columns :=
            Nat.sub_add_cancel insideColumn
          obtain ⟨after, returned, lit⟩ :=
            (shown.move (mode.size.columns - 1) row).space fuel renders current
              ⟨Nat.sub_one_lt_of_lt insideColumn, Nat.lt_of_succ_lt insideRow⟩
          have dark : Shown base shows false wide after.flushCursor _ := lit.flush
          rw [Terminal.print, Terminal.wrap, if_pos (Nat.le_of_eq last.symm), Terminal.newLine,
            Terminal.lineFeed, if_neg (Nat.ne_of_lt insideRow)] at dark
          refine ⟨_, ?_, dark.move (mode.size.columns - 1) row⟩
          rw [if_pos ⟨rfl, Nat.succ_pos row⟩, Nat.add_sub_cancel]
          refine (congrArg (Option.map _) returned).trans ?_
          rw [Option.map_some, dark.cursorRow]
          rfl

end Nested

/-! ## The loop -/

section Run

variable {outside : Outside} {base device : GraphicsConsoleDev} {mode : GraphicsConsoleModeData}
  {canvas : Canvas γ U16} {shows : (Nat → Nat → U32) → γ → Prop} {drawable : Bool → U16 → Prop}
  {quiet : Prop} {lit wide : Bool} {state : Terminal.State γ} {character : U16}
  {string rest : List U16}

/-- Where the cursor is on the screen in the loop, a character comes next that covers it. -/
def Covered (size : Size) (wide : Bool) (string : List U16) (state : Terminal.State γ) : Prop :=
  ∃ character rest, string = character :: rest ∧ isControl character = false ∧
    state.column + width wide ≤ size.columns

/-- The rounds that a string needs: each takes a character or puts the cursor on the
screen. -/
def roundsFor (lit : Bool) (string : List U16) : Nat :=
  2 * string.length + if lit then 0 else 1

/-- What is left after a round of the loop: the rest of the string, and a device that shows
what the terminal has when it was fed the part before. -/
structure Left (base : GraphicsConsoleDev) (mode : GraphicsConsoleModeData) (canvas : Canvas γ U16)
    (shows : (Nat → Nat → U32) → γ → Prop) (lit wide : Bool) (string : List U16)
    (state : Terminal.State γ) (lit' : Bool) (rest : List U16) (after : GraphicsConsoleDev)
    (state' : Terminal.State γ) : Prop where
  shown : Shown base shows lit' wide after state'
  inside : state'.Within mode.size
  covered : lit' = true → Covered mode.size wide rest state'
  fed : run mode.size canvas CHAR_SPACE state (tokens wide string) =
    run mode.size canvas CHAR_SPACE state' (tokens wide rest)
  fewer : roundsFor lit' rest < roundsFor lit string
  subset : tokens wide rest ⊆ tokens wide string

/-- A round of the loop that draws characters.  It leaves the cursor on the screen where a
wide character has no room, and then that character covers it. -/
theorem Shown.round (fuel loops : Nat) (status : EfiStatus) (warning : Bool)
    (renders : Renders outside base mode canvas shows drawable quiet)
    (current : base.currentMode = some mode) (columns : 2 ≤ mode.size.columns)
    (shown : Shown base shows lit wide device state) (inside : state.Within mode.size)
    (covered : lit = true → Covered mode.size wide (character :: rest) state)
    (printed : isControl character = false)
    (drawables : ∀ token ∈ tokens wide (character :: rest), DrawableToken drawable token) :
    ∃ lit' left status' after state',
      characters outside (nested outside (fuel + 4)) mode (loops + 1) (character :: rest) status
          warning device =
        characters outside (nested outside (fuel + 4)) mode loops left status'
          (warning || status'.isError) after ∧
      Left base mode canvas shows lit wide (character :: rest) state lit' left after state' ∧
      (quiet → status' = .success) := by
  have start : state.column + 0 ≤ mode.columns.toNat := Nat.le_of_lt inside.column
  obtain ⟨n, printable, short, counted⟩ :=
    @countRun_counted wide mode.columns.toNat state.column 0 0 (character :: rest) start
  rw [Nat.zero_add, Nat.zero_add] at counted
  have length : ((character :: rest).take n).length = n := List.length_take_of_le short
  have whole := tokens_append printable wide ((character :: rest).drop n)
  rw [List.take_append_drop] at whole
  have drawn : ∀ other ∈ (character :: rest).take n, drawable wide other := by
    intro other member
    refine drawables (.print wide other) ?_
    rw [whole]
    exact List.mem_append_left _ (List.mem_map_of_mem member)
  have some_taken : 0 < n → (character :: rest).take n ≠ [] := by
    intro positive taken
    rw [taken] at length
    exact absurd length (Nat.ne_of_lt positive)
  have counting : countRun device.isWide mode.columns.toNat device.cursorColumn
      (character :: rest) 0 0 = countRun wide mode.columns.toNat state.column
        (character :: rest) 0 0 := by
    rw [shown.isWide, shown.cursorColumn]
  have subset : tokens wide ((character :: rest).drop n) ⊆ tokens wide (character :: rest) := by
    rw [whole]
    exact List.subset_append_right _ _
  have shorter : ((character :: rest).drop n).length + n = (character :: rest).length := by
    rw [List.length_drop]
    exact Nat.sub_add_cancel short
  rcases counted with ⟨run, room, stopped⟩ | ⟨rfl, run, full, next, left, following, other⟩
  · have positive : 0 < n := by
      rcases Nat.eq_zero_or_pos n with zero | positive
      · have control := stopped zero inside.column character rfl
        rw [printed] at control
        exact absurd control Bool.false_ne_true
      · exact positive
    have room : state.column + ((character :: rest).take n).length * width wide ≤
        mode.size.columns := by
      rw [length]
      exact room
    have drew := shown.draw renders (fun _ => some_taken positive) drawn room inside.row
    obtain ⟨after, returned, ended⟩ := shown.prints (fuel + 1) _ renders current
      (fun _ => some_taken positive) drawn inside room
    rw [length] at returned
    refine ⟨false, _, _, after, _, ?_, ⟨ended, inside.run,
      fun lit => absurd lit Bool.false_ne_true, ?_, ?_, subset⟩, drew.2⟩
    · rw [characters_print outside _ mode loops rest status warning device printed
        (run.symm.trans counting.symm) rfl, returned, Option.bind_some]
    · rw [whole, run_append]
    · rw [roundsFor, roundsFor, if_neg Bool.false_ne_true]
      omega
  · -- There is no room for the next character: the last place of the row gets a space.
    have room : state.column + ((character :: rest).take n).length * width true ≤
        mode.size.columns := by
      rw [length]
      exact Nat.le_of_succ_le (Nat.le_of_eq full)
    have advances : lit = true → 0 < n := by
      intro isLit
      obtain ⟨_, _, _, _, fits⟩ := covered isLit
      rcases Nat.eq_zero_or_pos n with rfl | positive
      · have columns : mode.size.columns = mode.columns.toNat := rfl
        rw [width_true] at fits
        omega
      · exact positive
    have drew := shown.draw renders (fun isLit => some_taken (advances isLit)) drawn room inside.row
    obtain ⟨filled, is_filled⟩ : ∃ filled : Terminal.State γ, filled =
        ⟨canvas.putRow true state.row state.column ((character :: rest).take n) state.page,
          state.column + n * width true, state.row⟩ := ⟨_, rfl⟩
    have last : filled.column + 1 = mode.size.columns := by
      rw [is_filled]
      exact full
    have within : filled.Within mode.size :=
      ⟨Nat.lt_of_succ_le (Nat.le_of_eq last), by rw [is_filled]; exact inside.row⟩
    have moved := drew.1.moveColumn (state.column + n * width true)
    rw [← is_filled] at moved
    obtain ⟨after, returned, ended⟩ := moved.fillRow fuel renders current within last
    have begun := print_last canvas CHAR_SPACE last
    refine ⟨true, _, _, after, _, ?_, ⟨ended, within.print false CHAR_SPACE, fun _ => ?_, ?_, ?_,
      subset⟩, drew.2⟩
    · rw [characters_print outside _ mode loops rest status warning device printed
        (run.symm.trans counting.symm) rfl, drew.1.cursorColumn]
      rw [is_filled] at returned
      exact congrArg (Option.bind · _) returned
    · refine ⟨next, left, following, other, ?_⟩
      rw [begun, width_true, Nat.zero_add]
      exact columns
    · have noRoom : ¬ filled.column + width true ≤ mode.size.columns := by
        rw [width_true]
        omega
      have fits : (Terminal.print mode.size canvas false CHAR_SPACE filled).column + width true ≤
          mode.size.columns := by
        rw [begun, width_true, Nat.zero_add]
        exact columns
      rw [whole, run_append, run_prints inside.column room, length, ← is_filled,
        wrap_of_lt within.column, following, tokens_cons other, run_cons, run_cons,
        feed_print_of_room next fits, feed, if_neg noRoom]
    · rw [roundsFor, roundsFor, if_pos rfl]
      split
      · next isLit =>
          have positive := advances isLit
          omega
      · omega

/-- The loop comes to its end, and has fed the terminal the tokens of the string. -/
theorem Shown.characters (fuel : Nat) {loops : Nat} {status : EfiStatus} {warning : Bool}
    (renders : Renders outside base mode canvas shows drawable quiet)
    (current : base.currentMode = some mode) (columns : 2 ≤ mode.size.columns)
    (shown : Shown base shows lit wide device state) (inside : state.Within mode.size)
    (covered : lit = true → Covered mode.size wide string state)
    (enough : roundsFor lit string ≤ loops)
    (drawables : ∀ token ∈ tokens wide string, DrawableToken drawable token) :
    ∃ status' warning' other after,
      GraphicsConsoleDev.characters outside (nested outside (fuel + 4)) mode loops string status
          warning device = some (status', warning', after) ∧
        Shown base shows false other after
          (run mode.size canvas CHAR_SPACE state (tokens wide string)) ∧
        (quiet → status = .success → warning = false → status' = .success ∧ warning' = false) := by
  induction loops generalizing lit wide device state string status warning with
  | zero =>
      cases lit with
      | false => exact absurd enough (Nat.not_succ_le_zero _)
      | true =>
          obtain ⟨_, _, rfl, -⟩ := covered rfl
          exact absurd enough (Nat.not_succ_le_zero _)
  | succ loops ih =>
      cases string with
      | nil =>
          cases lit with
          | false =>
              exact ⟨status, warning, wide, device, characters_nil .., shown,
                fun _ success silent => ⟨success, silent⟩⟩
          | true =>
              obtain ⟨_, _, empty, -⟩ := covered rfl
              exact absurd empty.symm (List.cons_ne_nil _ _)
      | cons character rest =>
          cases printed : isControl character with
          | false =>
              obtain ⟨lit', left, status', after, state', went, onward, calm⟩ :=
                shown.round fuel loops status warning renders current columns inside covered printed
                  drawables
              obtain ⟨status'', warning'', other, last, returned, ended, calm'⟩ :=
                ih onward.shown onward.inside onward.covered (by have := onward.fewer; omega)
                  fun token member => drawables token (onward.subset member)
              refine ⟨status'', warning'', other, last, went.trans returned, ?_, ?_⟩
              · rw [onward.fed]
                exact ended
              · intro quietly _ silent
                have success := calm quietly
                exact calm' quietly success (by rw [silent, success]; rfl)
          | true =>
              have dark : lit = false := by
                cases lit with
                | false => rfl
                | true =>
                    obtain ⟨_, _, same, other, -⟩ := covered rfl
                    rw [← (List.cons.inj same).1, printed] at other
                    exact absurd other.symm Bool.false_ne_true
              subst dark
              have fewer : roundsFor false rest ≤ loops := by
                rw [roundsFor, List.length_cons] at enough
                rw [roundsFor]
                omega
              have uncovered : ∀ state' : Terminal.State γ, ∀ wide',
                  false = true → Covered mode.size wide' rest state' :=
                fun _ _ impossible => absurd impossible Bool.false_ne_true
              simp only [isControl, Bool.or_eq_true, beq_iff_eq] at printed
              rcases printed with (((rfl | rfl) | rfl) | rfl) | rfl
              · obtain ⟨after, returned, ended⟩ :=
                  shown.backspace fuel renders current inside
                rw [characters_backspace, returned, Option.bind_some]
                exact ih ended (inside.feed _) (uncovered _ _) fewer
                  fun token member => drawables token (List.mem_cons_of_mem _ member)
              · exact ih (shown.lineFeed renders) inside.lineFeed (uncovered _ _) fewer
                  fun token member => drawables token (List.mem_cons_of_mem _ member)
              · exact ih (shown.moveColumn 0) ⟨Nat.zero_lt_of_lt inside.column, inside.row⟩
                  (uncovered _ _) fewer
                  fun token member => drawables token (List.mem_cons_of_mem _ member)
              · exact ih shown.widen inside (uncovered _ _) fewer drawables
              · exact ih shown.narrow inside (uncovered _ _) fewer drawables

/-- A call returns, and has fed the terminal the tokens of the string.  The cursor is on the
screen before and after. -/
theorem Shown.outputString (renders : Renders outside base mode canvas shows drawable quiet)
    (current : base.currentMode = some mode) (columns : 2 ≤ mode.size.columns)
    (shown : Shown base shows true wide device state) (inside : state.Within mode.size)
    (drawables : ∀ token ∈ tokens wide string, DrawableToken drawable token) :
    ∃ status after, GraphicsConsoleDev.outputString outside string device = some (status, after) ∧
      Shown base shows true wide after
        (run mode.size canvas CHAR_SPACE state (tokens wide string)) ∧
      (quiet → status = .success) := by
  have enough : roundsFor false string ≤ 2 * string.length + 1 + 4 := Nat.le_add_right _ _
  obtain ⟨status, warning, other, after, looped, ended, calm⟩ :=
    Shown.characters (2 * string.length + 1) renders current columns shown.flush inside
      (fun lit => absurd lit Bool.false_ne_true) enough drawables
  obtain ⟨result, returned, final⟩ :=
    shown.ends (2 * string.length + 1 + 4) current looped ended
  refine ⟨_, result, returned, final, fun quietly => ?_⟩
  obtain ⟨success, silent⟩ := calm quietly rfl rfl
  rw [silent, if_neg Bool.false_ne_true, success]

end Run

end GraphicsConsoleDev

end HtcLeo.GraphicsConsole
