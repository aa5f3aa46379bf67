import Mathlib.Data.List.Basic

/-!
# Terminals

A terminal writes characters at a cursor that moves over columns and rows.  What it
writes on is a canvas: anything that takes a character of one or two columns at a place
and scrolls by a row.  Nothing else is known of a canvas, so where the cursor goes does
not depend on it.
-/

namespace HtcLeo.Terminal

universe u v w

/-- What is sent to a terminal. -/
inductive Token (κ : Type u) where
  | print (wide : Bool) (character : κ)
  | backspace
  | lineFeed
  | carriageReturn
  deriving DecidableEq, Repr

/-- The columns that a character takes. -/
def width (wide : Bool) : Nat :=
  if wide then 2 else 1

@[simp]
theorem width_false : width false = 1 :=
  rfl

@[simp]
theorem width_true : width true = 2 :=
  rfl

theorem width_pos (wide : Bool) : 0 < width wide := by
  cases wide <;> decide

/-- Put a character in a column and a row, and scroll up by a row. -/
structure Canvas (γ : Type v) (κ : Type u) where
  put : Bool → Nat → Nat → κ → γ → γ
  scroll : γ → γ

/-- The characters of a row from a column on. -/
def Canvas.putRow {γ : Type v} {κ : Type u} (canvas : Canvas γ κ) (wide : Bool) (row : Nat) :
    Nat → List κ → γ → γ
  | _, [], page => page
  | column, character :: rest, page =>
      canvas.putRow wide row (column + width wide) rest (canvas.put wide column row character page)

/-- The size of a page in cells. -/
structure Size where
  columns : Nat
  rows : Nat
  deriving DecidableEq, Repr

/-- A page that is written on, and where the cursor is. -/
structure State (γ : Type v) where
  page : γ
  column : Nat
  row : Nat
  deriving DecidableEq, Repr

section Feed

variable {γ : Type v} {κ : Type u} (size : Size) (canvas : Canvas γ κ) (blank : κ)

/-- In the last row the page scrolls and the cursor stays. -/
def lineFeed (state : State γ) : State γ :=
  if state.row + 1 = size.rows then { state with page := canvas.scroll state.page }
  else { state with row := state.row + 1 }

/-- To the first column of the next row. -/
def newLine (state : State γ) : State γ :=
  lineFeed size canvas { state with column := 0 }

/-- Behind the last column a new line begins. -/
def wrap (state : State γ) : State γ :=
  if size.columns ≤ state.column then newLine size canvas state else state

/-- One character at the cursor, which moves on and wraps. -/
def print (wide : Bool) (character : κ) (state : State γ) : State γ :=
  wrap size canvas
    { state with
      page := canvas.put wide state.column state.row character state.page
      column := state.column + width wide }

/-- Where the cursor goes back to: before the first place it goes nowhere. -/
def previous (column row : Nat) : Option (Nat × Nat) :=
  match column, row with
  | 0, 0 => none
  | 0, row + 1 => some (size.columns - 1, row)
  | column + 1, row => some (column, row)

/-- A character that has no room left in its row goes into the next one, behind a blank. -/
def feed (state : State γ) : Token κ → State γ
  | .print wide character =>
      print size canvas wide character
        (if state.column + width wide ≤ size.columns then state
        else print size canvas false blank state)
  | .backspace =>
      match previous size state.column state.row with
      | none => state
      | some (column, row) => ⟨canvas.put false column row blank state.page, column, row⟩
  | .lineFeed => lineFeed size canvas state
  | .carriageReturn => { state with column := 0 }

/-- The state after a list of tokens. -/
def run (state : State γ) (tokens : List (Token κ)) : State γ :=
  tokens.foldl (feed size canvas blank) state

@[simp]
theorem run_nil (state : State γ) : run size canvas blank state [] = state :=
  rfl

@[simp]
theorem run_cons (state : State γ) (token : Token κ) (rest : List (Token κ)) :
    run size canvas blank state (token :: rest) =
      run size canvas blank (feed size canvas blank state token) rest :=
  rfl

theorem run_append (state : State γ) (first rest : List (Token κ)) :
    run size canvas blank state (first ++ rest) =
      run size canvas blank (run size canvas blank state first) rest :=
  List.foldl_append

end Feed

/-! ## The cursor stays on the page -/

/-- The cursor is on the page. -/
structure State.Within {γ : Type v} (size : Size) (state : State γ) : Prop where
  column : state.column < size.columns
  row : state.row < size.rows

section Within

variable {γ : Type v} {κ : Type u} {size : Size} {canvas : Canvas γ κ} {blank : κ}
  {state : State γ} {tokens : List (Token κ)}

theorem lineFeed_column (size : Size) (canvas : Canvas γ κ) (state : State γ) :
    (lineFeed size canvas state).column = state.column := by
  rw [lineFeed]
  split <;> rfl

theorem lineFeed_row_lt (inside : state.row < size.rows) :
    (lineFeed size canvas state).row < size.rows := by
  rw [lineFeed]
  split
  · exact inside
  · simp only
    omega

theorem State.Within.lineFeed (within : state.Within size) :
    (lineFeed size canvas state).Within size where
  column := by
    rw [lineFeed_column]
    exact within.column
  row := lineFeed_row_lt within.row

theorem within_newLine (columns : 0 < size.columns) (inside : state.row < size.rows) :
    (newLine size canvas state).Within size where
  column := by
    rw [newLine, lineFeed_column]
    exact columns
  row := lineFeed_row_lt inside

theorem within_wrap (columns : 0 < size.columns) (inside : state.row < size.rows) :
    (wrap size canvas state).Within size := by
  rw [wrap]
  split
  · exact within_newLine columns inside
  · exact ⟨by omega, inside⟩

theorem State.Within.print (within : state.Within size) (wide : Bool) (character : κ) :
    (print size canvas wide character state).Within size :=
  within_wrap (Nat.zero_lt_of_lt within.column) within.row

theorem State.Within.feed (within : state.Within size) (token : Token κ) :
    (feed size canvas blank state token).Within size := by
  cases token with
  | print wide character =>
      rw [Terminal.feed]
      split
      · exact within.print wide character
      · exact (within.print false blank).print wide character
  | backspace =>
      obtain ⟨page, column, row⟩ := state
      have insideColumn : column < size.columns := within.column
      have insideRow : row < size.rows := within.row
      cases column with
      | zero =>
          cases row with
          | zero => exact within
          | succ row => exact ⟨Nat.sub_one_lt_of_lt insideColumn, Nat.lt_of_succ_lt insideRow⟩
      | succ column => exact ⟨Nat.lt_of_succ_lt insideColumn, insideRow⟩
  | lineFeed => exact within.lineFeed
  | carriageReturn => exact ⟨Nat.zero_lt_of_lt within.column, within.row⟩

theorem State.Within.run (within : state.Within size) :
    (run size canvas blank state tokens).Within size := by
  induction tokens generalizing state with
  | nil => exact within
  | cons token rest ih => exact ih (within.feed token)

end Within

/-! ## A row that is written in one go -/

section Row

variable {γ : Type v} {κ : Type u} {size : Size} {canvas : Canvas γ κ} {blank : κ}

theorem wrap_of_lt {state : State γ} (inside : state.column < size.columns) :
    wrap size canvas state = state :=
  if_neg (Nat.not_le.mpr inside)

theorem feed_print_of_room {state : State γ} {wide : Bool} (character : κ)
    (room : state.column + width wide ≤ size.columns) :
    feed size canvas blank state (.print wide character) =
      print size canvas wide character state := by
  rw [feed, if_pos room]

/-- Characters that have room in their row are written as one, and then the line ends if
it is full. -/
theorem run_prints {wide : Bool} {characters : List κ} {state : State γ}
    (inside : state.column < size.columns)
    (room : state.column + characters.length * width wide ≤ size.columns) :
    run size canvas blank state (characters.map (.print wide)) =
      wrap size canvas
        { state with
          page := canvas.putRow wide state.row state.column characters state.page
          column := state.column + characters.length * width wide } := by
  induction characters generalizing state with
  | nil =>
      simp only [List.map_nil, run_nil, List.length_nil, Nat.zero_mul, Nat.add_zero]
      exact (wrap_of_lt inside).symm
  | cons character rest ih =>
      have further : state.column + width wide + rest.length * width wide =
          state.column + (character :: rest).length * width wide := by
        rw [List.length_cons, Nat.add_one_mul, Nat.add_assoc, Nat.add_comm (width wide)]
      rw [← further] at room ⊢
      rw [List.map_cons, run_cons, feed_print_of_room character (by omega)]
      cases rest with
      | nil =>
          simp only [List.map_nil, run_nil, List.length_nil, Nat.zero_mul, Nat.add_zero]
          rfl
      | cons next rest =>
          have left : state.column + width wide < size.columns := by
            have positive : 0 < (next :: rest).length * width wide :=
              Nat.mul_pos (Nat.succ_pos _) (width_pos wide)
            omega
          rw [print, wrap_of_lt left, ih left room]
          rfl

end Row

/-! ## Two canvases -/

/-- What is put on one canvas keeps it related to the other. -/
structure Canvas.Follows {γ : Type v} {δ : Type w} {κ : Type u} (size : Size)
    (first : Canvas γ κ) (second : Canvas δ κ) (related : γ → δ → Prop) : Prop where
  put : ∀ (wide : Bool) (column row : Nat) (character : κ) (one : γ) (two : δ),
    column + width wide ≤ size.columns → row < size.rows → related one two →
      related (first.put wide column row character one) (second.put wide column row character two)
  scroll : ∀ (one : γ) (two : δ), related one two → related (first.scroll one) (second.scroll two)

/-- The same cursor, and related pages. -/
structure State.Agrees {γ : Type v} {δ : Type w} (related : γ → δ → Prop) (one : State γ)
    (two : State δ) : Prop where
  page : related one.page two.page
  column : one.column = two.column
  row : one.row = two.row

section Follows

variable {γ : Type v} {δ : Type w} {κ : Type u} {size : Size} {first : Canvas γ κ}
  {second : Canvas δ κ} {related : γ → δ → Prop} {blank : κ} {one : State γ} {two : State δ}

/-- States with the same cursor differ in their pages only. -/
theorem State.Agrees.eq_with (agrees : one.Agrees related two) :
    two = ⟨two.page, one.column, one.row⟩ := by
  obtain ⟨page, column, row⟩ := two
  obtain ⟨-, columns, rows⟩ := agrees
  rw [columns, rows]

theorem State.Agrees.lineFeed (follows : first.Follows size second related)
    (agrees : one.Agrees related two) :
    (lineFeed size first one).Agrees related (lineFeed size second two) := by
  have pages := agrees.page
  rw [agrees.eq_with, Terminal.lineFeed, Terminal.lineFeed]
  split
  · exact ⟨follows.scroll _ _ pages, rfl, rfl⟩
  · exact ⟨pages, rfl, rfl⟩

theorem State.Agrees.wrap (follows : first.Follows size second related)
    (agrees : one.Agrees related two) :
    (wrap size first one).Agrees related (wrap size second two) := by
  rw [Terminal.wrap, Terminal.wrap, ← agrees.column]
  split
  · exact State.Agrees.lineFeed follows ⟨agrees.page, rfl, agrees.row⟩
  · exact agrees

theorem State.Agrees.print (follows : first.Follows size second related)
    (agrees : one.Agrees related two) (wide : Bool) (character : κ)
    (room : one.column + width wide ≤ size.columns) (inside : one.row < size.rows) :
    (print size first wide character one).Agrees related
      (print size second wide character two) := by
  have pages := agrees.page
  rw [agrees.eq_with]
  exact State.Agrees.wrap follows ⟨follows.put wide _ _ character _ _ room inside pages, rfl, rfl⟩

theorem State.Agrees.feed (follows : first.Follows size second related)
    (agrees : one.Agrees related two) (within : one.Within size) (columns : 2 ≤ size.columns)
    (token : Token κ) :
    (feed size first blank one token).Agrees related (feed size second blank two token) := by
  cases token with
  | print wide character =>
      rw [Terminal.feed, Terminal.feed, ← agrees.column]
      split
      · next room => exact agrees.print follows wide character room within.row
      · next full =>
          have last := within.column
          have padded := agrees.print follows false blank last within.row
          have begun : (Terminal.print size first false blank one).column = 0 := by
            have wide_ne : wide = true := by
              cases wide with
              | false => exact absurd last full
              | true => rfl
            rw [wide_ne, width_true] at full
            have ended : size.columns ≤ one.column + width false := by
              rw [width_false]
              omega
            rw [Terminal.print, Terminal.wrap, if_pos ended, newLine, lineFeed_column]
          have room : width wide ≤ size.columns := by cases wide <;> simp <;> omega
          exact padded.print follows wide character (by omega) (within.print false blank).row
  | backspace =>
      simp only [Terminal.feed]
      rw [← agrees.column, ← agrees.row]
      have back : (Terminal.feed size first blank one .backspace).Within size :=
        within.feed .backspace
      simp only [Terminal.feed] at back
      cases before : previous size one.column one.row with
      | none => exact agrees
      | some place =>
          rw [before] at back
          exact ⟨follows.put false _ _ blank _ _ back.column back.row agrees.page, rfl, rfl⟩
  | lineFeed => exact agrees.lineFeed follows
  | carriageReturn => exact ⟨agrees.page, rfl, agrees.row⟩

/-- A text keeps the canvases related, and moves both cursors in the same way. -/
theorem State.Agrees.run (follows : first.Follows size second related)
    (agrees : one.Agrees related two) (within : one.Within size) (columns : 2 ≤ size.columns)
    (tokens : List (Token κ)) :
    (run size first blank one tokens).Agrees related (run size second blank two tokens) := by
  induction tokens generalizing one two with
  | nil => exact agrees
  | cons token rest ih =>
      exact ih (agrees.feed follows within columns token) (within.feed token)

end Follows

/-- The canvas with nothing on it. -/
def bare (κ : Type u) : Canvas PUnit.{v + 1} κ :=
  ⟨fun _ _ _ _ page => page, id⟩

/-- Where the cursor goes does not depend on what is written on. -/
theorem cursor_run {γ : Type v} {κ : Type u} {size : Size} (canvas : Canvas γ κ) (blank : κ)
    {state : State γ} (within : state.Within size) (columns : 2 ≤ size.columns)
    (tokens : List (Token κ)) :
    let ended := run size (bare.{u, 0} κ) blank ⟨⟨⟩, state.column, state.row⟩ tokens
    (run size canvas blank state tokens).column = ended.column ∧
      (run size canvas blank state tokens).row = ended.row :=
  have follows : canvas.Follows size (bare.{u, 0} κ) fun _ _ => True :=
    ⟨fun _ _ _ _ _ _ _ _ _ => trivial, fun _ _ _ => trivial⟩
  have start : state.Agrees (fun _ _ => True) ⟨PUnit.unit, state.column, state.row⟩ :=
    ⟨trivial, rfl, rfl⟩
  have agrees := start.run follows within columns tokens
  ⟨agrees.column, agrees.row⟩

end HtcLeo.Terminal
