import HtcLeo.ConSplitter.Core
import HtcLeo.ConSplitter.Current

/-!
# Consoles in lockstep

The consoles are in lockstep with the splitter when all of them have the size of its current
mode, its colors and its cursor.  Every call keeps them so, but for the setting of a mode that
is not offered.
-/

namespace HtcLeo.ConSplitter

open HtcLeo.GraphicsConsole Terminal TextOutSplitter

universe u

/-- A console has a size, and the cursor of a mode data.  A cursor that is hidden is so on the
console as well. -/
structure TextOut.Placed {γ : Type u} (size : TextSize) (data : TextOutMode)
    (textOut : TextOut γ) : Prop where
  mode : ∃ mode, textOut.console.currentMode textOut.table = some mode ∧
    (mode.columns.toNat, mode.rows.toNat) = size
  column : textOut.console.terminal.column = data.cursorColumn
  row : textOut.console.terminal.row = data.cursorRow
  hidden : data.cursorVisible = false → textOut.console.visible = false

/-- It has the colors as well. -/
structure TextOut.InStep {γ : Type u} (size : TextSize) (data : TextOutMode)
    (textOut : TextOut γ) : Prop extends textOut.Placed size data where
  attr : textOut.console.attr = data.attr

/-- The splitter, whose mode has the given size, and all its consoles agree: the mode data is
right, and color and cursor are ones that every console can have. -/
structure Lockstep {γ : Type u} (size : TextSize) (splitter : TextOutSplitter (TextOut γ)) :
    Prop where
  right : Right TextOut.modes splitter
  isAt : splitter.IsAt size
  colors : splitter.textOutMode.attr ||| 0x7F = 0x7F
  column : splitter.textOutMode.cursorColumn < size.1
  row : splitter.textOutMode.cursorRow < size.2
  consoles : ∀ textOut ∈ splitter.textOutList, textOut.InStep size splitter.textOutMode

/-! ## One console -/

section Console

variable {γ : Type u} {paper : Paper γ} {size : TextSize} {data : TextOutMode}
  {textOut : TextOut γ} {attr : U32} {number column row : Nat}

/-- The sizes of the modes of a console. -/
theorem TextOut.exists_mode {reported : TextSize}
    (known : textOut.modes[number]? = some (some reported)) :
    ∃ mode, textOut.table[number]? = some mode ∧ mode.Usable ∧
      (mode.columns.toNat, mode.rows.toNat) = reported := by
  rw [modes, List.getElem?_map, Option.map_eq_some_iff] at known
  obtain ⟨mode, listed, same⟩ := known
  refine ⟨mode, listed, ?_, Prod.ext (size_of_reportedMode same).1 (size_of_reportedMode same).2⟩
  rw [reportedMode] at same
  split at same
  · cases same
  · next usable => exact not_or.mp usable

/-- A mode that is set. -/
theorem TextOut.setMode_spec (textOut : TextOut γ) {reported : TextSize}
    (known : textOut.modes[number]? = some (some reported)) (allocated : Bool)
    (data : TextOutMode) (modeNumber : Int) :
    (textOut.perform paper (.setMode number allocated)).1 = .success ∧
      (textOut.perform paper (.setMode number allocated)).2.Placed reported
        (data.set modeNumber) ∧
      (textOut.perform paper (.setMode number allocated)).2.console.attr =
        textOut.console.attr := by
  obtain ⟨mode, listed, usable, sized⟩ := TextOut.exists_mode known
  have some_size : ¬ (mode.columns = 0 ∧ mode.rows = 0) := fun none => usable.1 none.1
  rw [TextOut.perform, Console.step, Console.setMode, listed]
  simp only [some_size, if_false]
  split
  · next same =>
      refine ⟨rfl, ⟨⟨mode, ?_, sized⟩, rfl, rfl, fun shown => by cases shown⟩, rfl⟩
      rw [Console.currentMode]
      exact (congrArg (Option.bind · _) same).trans listed
  · exact ⟨rfl, ⟨⟨mode, listed, sized⟩, rfl, rfl, fun shown => by cases shown⟩, rfl⟩

theorem TextOut.Placed.setAttribute (valid : attr ||| 0x7F = 0x7F)
    (placed : textOut.Placed size data) :
    (textOut.perform paper (.setAttribute attr)).1 = .success ∧
      (textOut.perform paper (.setAttribute attr)).2.InStep size { data with attr } := by
  rw [TextOut.perform, Console.step, Console.setAttribute, if_neg (not_not.mpr valid)]
  exact ⟨rfl, ⟨placed.mode, placed.column, placed.row, placed.hidden⟩, rfl⟩

theorem TextOut.InStep.clearScreen (inStep : textOut.InStep size data) :
    (textOut.perform paper .clearScreen).1 = .success ∧
      (textOut.perform paper .clearScreen).2.InStep size
        { data with cursorColumn := 0, cursorRow := 0, cursorVisible := true } := by
  obtain ⟨mode, current, sized⟩ := inStep.mode
  rw [TextOut.perform, Console.step, current]
  exact ⟨rfl, ⟨⟨mode, current, sized⟩, rfl, rfl, fun shown => by cases shown⟩, inStep.attr⟩

theorem TextOut.InStep.setCursorPosition (inStep : textOut.InStep size data)
    (inside : column < size.1 ∧ row < size.2) :
    (textOut.perform paper (.setCursorPosition column row)).1 = .success ∧
      (textOut.perform paper (.setCursorPosition column row)).2.InStep size
        { data with cursorColumn := column, cursorRow := row } := by
  obtain ⟨mode, current, rfl⟩ := inStep.mode
  have within : ¬ (mode.columns.toNat ≤ column ∨ mode.rows.toNat ≤ row) := by
    rw [not_or, Nat.not_le, Nat.not_le]
    exact inside
  rw [TextOut.perform, Console.step, current]
  simp only [within, if_false]
  exact ⟨trivial, ⟨⟨mode, current, rfl⟩, rfl, rfl, inStep.hidden⟩, inStep.attr⟩

theorem TextOut.InStep.enableCursor (inStep : textOut.InStep size data) (visible : Bool) :
    (textOut.perform paper (.enableCursor visible)).1 = .success ∧
      (textOut.perform paper (.enableCursor visible)).2.InStep size
        { data with cursorVisible := visible } := by
  obtain ⟨mode, current, sized⟩ := inStep.mode
  rw [TextOut.perform, Console.step, current]
  exact ⟨rfl, ⟨⟨mode, current, sized⟩, inStep.column, inStep.row, id⟩, inStep.attr⟩

/-- Where the cursor of every console of a size is after a string. -/
def cursorAfter (size : TextSize) (cursor : Nat × Nat) (string : List U16) : Nat × Nat :=
  let ended := run ⟨size.1, size.2⟩ (bare.{0, 0} U16) CHAR_SPACE
    ⟨PUnit.unit, cursor.1, cursor.2⟩ (tokens false string)
  (ended.column, ended.row)

theorem cursorAfter_within {cursor : Nat × Nat} (inside : cursor.1 < size.1 ∧ cursor.2 < size.2)
    (string : List U16) :
    (cursorAfter size cursor string).1 < size.1 ∧ (cursorAfter size cursor string).2 < size.2 := by
  have within : (⟨PUnit.unit, cursor.1, cursor.2⟩ : Terminal.State PUnit.{1}).Within
      ⟨size.1, size.2⟩ := ⟨inside.1, inside.2⟩
  have last := @State.Within.run _ _ _ (bare U16) CHAR_SPACE _ (tokens false string) within
  exact ⟨last.column, last.row⟩

theorem TextOut.InStep.outputString (inStep : textOut.InStep size data)
    (inside : data.cursorColumn < size.1 ∧ data.cursorRow < size.2)
    (string : List U16) :
    (textOut.perform paper (.outputString string)).1 = .success ∧
      (textOut.perform paper (.outputString string)).2.InStep size
        { data with
          cursorColumn := (cursorAfter size (data.cursorColumn, data.cursorRow) string).1
          cursorRow := (cursorAfter size (data.cursorColumn, data.cursorRow) string).2 } := by
  obtain ⟨mode, current, rfl⟩ := inStep.mode
  have listed : mode ∈ textOut.table := by
    rw [Console.currentMode, Option.bind_eq_some_iff] at current
    obtain ⟨number, -, found⟩ := current
    exact List.mem_of_getElem? found
  have usable : mode.Usable := by
    refine ⟨?_, ?_⟩
    · intro none
      have low := inside.1
      rw [none] at low
      exact absurd low (Nat.not_lt_zero _)
    · intro none
      have low := inside.2
      rw [none] at low
      exact absurd low (Nat.not_lt_zero _)
  have within : textOut.console.terminal.Within mode.size :=
    ⟨by rw [inStep.column]; exact inside.1, by rw [inStep.row]; exact inside.2⟩
  obtain ⟨columns, rows⟩ := cursor_run
    (paper.canvas mode.size (textColors textOut.console.attr).1 (textColors textOut.console.attr).2)
    CHAR_SPACE within (textOut.wide mode listed usable) (tokens false string)
  rw [inStep.column, inStep.row] at columns rows
  rw [TextOut.perform, Console.step, Console.outputString, current]
  exact ⟨rfl, ⟨⟨mode, current, rfl⟩, columns, rows, inStep.hidden⟩, inStep.attr⟩

/-- The first mode of every console is 40x12. -/
theorem TextOut.InStep.reset (inStep : textOut.InStep size data)
    (valid : (data.attr &&& 0x0F) ||| 0x7F = 0x7F) (allocated : Bool) (modeNumber : Int) :
    (textOut.perform paper (.reset allocated)).1 = .success ∧
      (textOut.perform paper (.reset allocated)).2.InStep (40, 12)
        { data.set modeNumber with attr := data.attr &&& 0x0F } := by
  obtain ⟨success, set, kept⟩ := @TextOut.setMode_spec _ paper 0 textOut _
    textOut.conventional.first allocated data modeNumber
  have success : (textOut.console.setMode textOut.table paper 0).1 = .success := success
  obtain ⟨mode, current, sized⟩ := set.mode
  have colors : (textOut.console.setMode textOut.table paper 0).2.attr = data.attr :=
    kept.trans inStep.attr
  rw [TextOut.perform, Console.step]
  simp only [success, EfiStatus.isError, Bool.false_eq_true, if_false, Console.setAttribute, colors,
    valid, ne_eq, not_true_eq_false]
  exact ⟨trivial, ⟨⟨mode, current, sized⟩, set.column, set.row, set.hidden⟩, rfl⟩

end Console

/-! ## All consoles -/

/-- Another splitter has the same table, for consoles with the same modes. -/
structure SameTable {γ : Type u} (splitter after : TextOutSplitter (TextOut γ)) : Prop where
  list : after.textOutList.map TextOut.modes = splitter.textOutList.map TextOut.modes
  count : after.textOutListCount = splitter.textOutListCount
  number : after.currentNumberOfConsoles = splitter.currentNumberOfConsoles
  queryData : after.textOutQueryData = splitter.textOutQueryData
  modeMap : after.textOutModeMap = splitter.textOutModeMap
  maxMode : after.textOutMode.maxMode = splitter.textOutMode.maxMode

section All

variable {γ : Type u} {paper : Paper γ} {splitter after : TextOutSplitter (TextOut γ)}
  {size : TextSize} {data : TextOutMode} {call : Nat → Call}

theorem SameTable.right (same : SameTable splitter after) (right : Right TextOut.modes splitter) :
    Right TextOut.modes after := by
  have length := congrArg List.length same.list
  rw [List.length_map, List.length_map] at length
  have empty : after.textOutList = [] ↔ splitter.textOutList = [] := by
    rw [← List.length_eq_zero_iff, ← List.length_eq_zero_iff, length]
  constructor
  · rw [same.number, length]
    exact right.number
  · rw [same.count]
    exact right.some_step
  · rw [length, same.count]
    exact right.room
  · rw [empty, same.maxMode, same.queryData, same.modeMap, same.count]
    exact right.empty
  · rw [ne_eq, empty, Tabled, same.maxMode, same.modeMap, same.count, same.queryData, same.list]
    exact right.table

theorem SameTable.refl (splitter : TextOutSplitter (TextOut γ)) : SameTable splitter splitter :=
  ⟨rfl, rfl, rfl, rfl, rfl, rfl⟩

/-- The table is the same with other mode data. -/
theorem SameTable.withMode (same : SameTable splitter after)
    (maxMode : data.maxMode = splitter.textOutMode.maxMode) :
    SameTable splitter { after with textOutMode := data } where
  list := same.list
  count := same.count
  number := same.number
  queryData := same.queryData
  modeMap := same.modeMap
  maxMode := maxMode

theorem SameTable.queryMode_eq (same : SameTable splitter after) (modeNumber : Nat) :
    after.queryMode modeNumber = splitter.queryMode modeNumber := by
  rw [queryMode, queryMode, modeSize, modeSize, same.maxMode, same.modeMap, same.count,
    same.queryData]

theorem SameTable.trans {last : TextOutSplitter (TextOut γ)} (first : SameTable splitter after)
    (second : SameTable after last) : SameTable splitter last where
  list := second.list.trans first.list
  count := second.count.trans first.count
  number := second.number.trans first.number
  queryData := second.queryData.trans first.queryData
  modeMap := second.modeMap.trans first.modeMap
  maxMode := second.maxMode.trans first.maxMode

theorem worstStatus_of_forall {statuses : List EfiStatus}
    (all : ∀ status ∈ statuses, status = .success) : worstStatus statuses = .success := by
  rw [worstStatus]
  induction statuses with
  | nil => rfl
  | cons status rest ih =>
      rw [List.forall_mem_cons] at all
      rw [List.foldl_cons, all.1]
      exact ih all.2

theorem callAll_getElem? (paper : Paper γ) (splitter : TextOutSplitter (TextOut γ))
    (call : Nat → Call) (index : Nat) :
    (splitter.callAll paper call).2.textOutList[index]? =
      splitter.textOutList[index]?.map fun textOut => (textOut.perform paper (call index)).2 := by
  rw [callAll]
  dsimp only
  rw [List.getElem?_map, List.getElem?_mapIdx, Option.map_map]
  rfl

/-- The modes of the consoles do not change. -/
theorem callAll_sameTable (paper : Paper γ) (splitter : TextOutSplitter (TextOut γ))
    (call : Nat → Call) : SameTable splitter (splitter.callAll paper call).2 where
  list := by
    apply List.ext_getElem?
    intro index
    rw [List.getElem?_map, List.getElem?_map, callAll_getElem?, Option.map_map]
    rfl
  count := rfl
  number := rfl
  queryData := rfl
  modeMap := rfl
  maxMode := rfl

/-- What a call does on each console, it does on all. -/
theorem callAll_spec {holds : TextOut γ → Prop}
    (each : ∀ (index : Nat) (textOut : TextOut γ), splitter.textOutList[index]? = some textOut →
      (textOut.perform paper (call index)).1 = .success ∧
        holds (textOut.perform paper (call index)).2) :
    (splitter.callAll paper call).1 = .success ∧
      ∀ textOut ∈ (splitter.callAll paper call).2.textOutList, holds textOut := by
  constructor
  · apply worstStatus_of_forall
    intro status member
    obtain ⟨result, listed, rfl⟩ := List.mem_map.mp member
    obtain ⟨index, inside, rfl⟩ := List.mem_mapIdx.mp listed
    exact (each index _ (List.getElem?_eq_getElem inside)).1
  · intro textOut member
    obtain ⟨index, known⟩ := List.mem_iff_getElem?.mp member
    rw [callAll_getElem?, Option.map_eq_some_iff] at known
    obtain ⟨before, listed, rfl⟩ := known
    exact (each index before listed).2

/-- A call that every console takes. -/
theorem callAll_of_forall {held holds : TextOut γ → Prop}
    (consoles : ∀ textOut ∈ splitter.textOutList, held textOut) {call : Call}
    (each : ∀ textOut : TextOut γ, held textOut →
      (textOut.perform paper call).1 = .success ∧ holds (textOut.perform paper call).2) :
    (splitter.callAll paper fun _ => call).1 = .success ∧
      ∀ textOut ∈ (splitter.callAll paper fun _ => call).2.textOutList, holds textOut :=
  callAll_spec fun _ textOut listed => each textOut (consoles textOut (List.mem_of_getElem? listed))

/-- A splitter that keeps its table is in lockstep if its current mode and its consoles are. -/
theorem Lockstep.of_sameTable {splitter after : TextOutSplitter (TextOut γ)}
    (same : SameTable splitter after) (right : Right TextOut.modes splitter)
    (high : 0 ≤ after.textOutMode.mode)
    (offered : splitter.queryMode after.textOutMode.mode.toNat = some size)
    (colors : after.textOutMode.attr ||| 0x7F = 0x7F)
    (cursor : after.textOutMode.cursorColumn < size.1 ∧ after.textOutMode.cursorRow < size.2)
    (consoles : ∀ textOut ∈ after.textOutList, textOut.InStep size after.textOutMode) :
    Lockstep size after where
  right := same.right right
  isAt := ⟨high, (same.queryMode_eq _).trans offered⟩
  colors := colors
  column := cursor.1
  row := cursor.2
  consoles := consoles

end All

/-! ## Without a console -/

/-- What a character does to the cursor without a console. -/
def plainToken (character : U16) : Token U16 :=
  if character = CHAR_BACKSPACE then .backspace
  else if character = CHAR_LINEFEED then .lineFeed
  else if character = CHAR_CARRIAGE_RETURN then .carriageReturn
  else .print false character

section Virtual

variable {size : TextSize} {cursor : Nat × Nat}

/-- The cursor is moved as the one of a terminal that takes every character as a narrow one. -/
theorem moveCursor_eq (inside : cursor.1 < size.1 ∧ cursor.2 < size.2) (character : U16) :
    let moved := feed ⟨size.1, size.2⟩ (bare.{0, 0} U16) CHAR_SPACE
      ⟨PUnit.unit, cursor.1, cursor.2⟩ (plainToken character)
    moveCursor size cursor character = (moved.column, moved.row) := by
  obtain ⟨column, row⟩ := cursor
  obtain ⟨columns, rows⟩ := size
  obtain ⟨across, down⟩ : column < columns ∧ row < rows := inside
  have fed (column : Nat) : lineFeed ⟨columns, rows⟩ (bare.{0, 0} U16) ⟨PUnit.unit, column, row⟩ =
      ⟨PUnit.unit, column, if row < rows - 1 then row + 1 else row⟩ := by
    rw [lineFeed]
    rcases Nat.lt_or_ge (row + 1) rows with inner | last
    · rw [if_neg (Nat.ne_of_lt inner), if_pos (Nat.lt_sub_of_add_lt inner)]
    · rw [if_pos (Nat.le_antisymm down last), if_neg (by omega)]
  intro moved
  rw [moveCursor]
  dsimp only [moved]
  rw [plainToken]
  split
  · rcases column with - | column
    · rcases row with - | row
      · rfl
      · simp [feed, previous, bare]
    · simp [feed, previous, bare]
  · split
    · rw [feed, fed]
      split <;> rfl
    · split
      · rfl
      · have room : column + width false ≤ columns := across
        rw [feed_print_of_room character room]
        rcases Nat.lt_or_ge (column + 1) columns with inner | last
        · rw [Terminal.print, wrap_of_lt inner, if_pos (Nat.lt_sub_of_add_lt inner)]
          rfl
        · have ended : Terminal.print ⟨columns, rows⟩ (bare.{0, 0} U16) false character
              ⟨PUnit.unit, column, row⟩ =
              lineFeed ⟨columns, rows⟩ (bare.{0, 0} U16) ⟨PUnit.unit, 0, row⟩ := if_pos last
          rw [ended, fed, if_neg (by omega)]
          split <;> rfl

theorem foldl_moveCursor (inside : cursor.1 < size.1 ∧ cursor.2 < size.2) (string : List U16) :
    let ended := run ⟨size.1, size.2⟩ (bare.{0, 0} U16) CHAR_SPACE
      ⟨PUnit.unit, cursor.1, cursor.2⟩ (string.map plainToken)
    string.foldl (moveCursor size) cursor = (ended.column, ended.row) ∧
      ended.column < size.1 ∧ ended.row < size.2 := by
  intro ended
  have within : (⟨PUnit.unit, cursor.1, cursor.2⟩ : Terminal.State PUnit.{1}).Within
      ⟨size.1, size.2⟩ := ⟨inside.1, inside.2⟩
  have last : ended.Within ⟨size.1, size.2⟩ := within.run
  refine ⟨?_, last.column, last.row⟩
  clear last
  induction string generalizing cursor with
  | nil => rfl
  | cons character rest ih =>
      have moved := moveCursor_eq inside character
      have next : (feed ⟨size.1, size.2⟩ (bare.{0, 0} U16) CHAR_SPACE
          ⟨PUnit.unit, cursor.1, cursor.2⟩ (plainToken character)).Within ⟨size.1, size.2⟩ :=
        within.feed _
      rw [List.foldl_cons, moved]
      exact ih ⟨next.column, next.row⟩ ⟨next.column, next.row⟩

theorem foldl_moveCursor_within (inside : cursor.1 < size.1 ∧ cursor.2 < size.2)
    (string : List U16) :
    (string.foldl (moveCursor size) cursor).1 < size.1 ∧
      (string.foldl (moveCursor size) cursor).2 < size.2 := by
  obtain ⟨moved, within⟩ := foldl_moveCursor inside string
  rw [moved]
  exact within

/-- Without the wide and the narrow character, a string is taken as by a console. -/
theorem tokens_eq_map_plainToken {string : List U16}
    (plain : WIDE_CHAR ∉ string ∧ NARROW_CHAR ∉ string) :
    tokens false string = string.map plainToken := by
  induction string with
  | nil => rfl
  | cons character rest ih =>
      simp only [List.mem_cons, not_or] at plain
      rw [List.map_cons, ← ih ⟨plain.1.2, plain.2.2⟩, tokens, plainToken,
        if_neg (Ne.symm plain.1.1), if_neg (Ne.symm plain.2.1)]
      repeat' split
      all_goals rfl

/-- Without a console the cursor goes where those of consoles would go. -/
theorem foldl_moveCursor_eq_cursorAfter (inside : cursor.1 < size.1 ∧ cursor.2 < size.2)
    {string : List U16} (plain : WIDE_CHAR ∉ string ∧ NARROW_CHAR ∉ string) :
    string.foldl (moveCursor size) cursor = cursorAfter size cursor string := by
  rw [(foldl_moveCursor inside string).1, cursorAfter, tokens_eq_map_plainToken plain]

end Virtual

end HtcLeo.ConSplitter
