import HtcLeo.Tetris.Settled

/-!
# A piece that cannot move down

Unless a cell of it is not visible, the piece is settled where it is.  Every row that is
full then has a cell of it, so at most four are removed, and no full row is left.  The next
piece is loaded into rows that have no settled cell.
-/

namespace HtcLeo.Tetris

open Grid Fields

/-- The settled cells become those of a piece at rest and the old ones, without full rows. -/
structure Settles (settled after : Grid) (rest : Piece) : Prop where
  free : Free settled rest
  stuck : ¬ Free settled (rest.moved 0 1)
  taken : ∀ y x, place settled rest y x ≠ EMPTY_FIELD ↔
    ⟨x, y⟩ ∈ rest.cells ∨ settled y x ≠ EMPTY_FIELD
  removed : LinesRemoved (place settled rest) after
  few : lineCount (place settled rest) ≤ 4

/-- The board with the active piece in its color, in the invisible rows too. -/
def Board.marked (board : Board) (settled : Grid) : Board :=
  { board with fields := ⟨place settled board.activePiece, false⟩ }

/-- What a call of `movePieceDown` does, and what it returns. -/
inductive Down (settled : Grid) (board : Board) : Board → Bool → Prop
  | fell : Free settled (board.activePiece.moved 0 1) →
      Down settled board ((board.bare settled).redrawMoved 0 1) true
  | ended : ¬ Free settled (board.activePiece.moved 0 1) → board.isGameOver = true →
      Down settled board { board.marked settled with blocked := true } false
  | landed {after : Board} : board.isGameOver = false →
      Settles settled after.fields.cells board.activePiece →
      Sound after.fields.cells after →
      after.activePiece = { board.nextPiece with pos := PIECE_STARTING_POS } →
      after.blocked = board.blocked → after.level = board.level → Down settled board after false

/-! ## Rows of a settled piece -/

section Rows

variable {settled grid after : Grid} {piece : Piece} {board : Board} {y : Int}

theorem visible_of_isGameOver (low : board.isGameOver = false) :
    ∀ p ∈ board.activePiece.cells, p.y ≥ INVISIBLE_ROWS_COUNT := by
  rw [Board.isGameOver, List.any_eq_false] at low
  intro p member
  exact Int.not_lt.mp fun high => low p member (decide_eq_true high)

theorem OnlyVisible.place (visible : OnlyVisible settled) (free : Free settled piece)
    (low : ∀ p ∈ piece.cells, p.y ≥ INVISIBLE_ROWS_COUNT) :
    OnlyVisible (place settled piece) := by
  intro y x used
  rw [Tetris.place] at used
  split at used
  · rename_i member
    exact ⟨(free _ member).1, low _ member⟩
  · exact visible y x used

theorem place_ne_empty {x : Int} :
    place settled piece y x ≠ EMPTY_FIELD ↔
      ⟨x, y⟩ ∈ piece.cells ∨ settled y x ≠ EMPTY_FIELD := by
  rw [Tetris.place]
  split
  · rename_i member
    exact iff_of_true piece.kind.color_ne_black (.inl member)
  · rename_i other
    exact (or_iff_right other).symm

/-- A row without a cell of the piece stays as it is. -/
theorem place_row (apart : ∀ p ∈ piece.cells, p.y ≠ y) : place settled piece y = settled y := by
  funext x
  exact if_neg fun member => apart _ member rfl

theorem lineCount_place_le (room : ∀ y, ¬ FullRow (settled y)) :
    lineCount (place settled piece) ≤ 4 := by
  let rows := (Finset.range 20).filter fun (k : Nat) => FullRow (place settled piece (lastRow - k))
  have hit : ∀ k ∈ rows, lastRow - (k : Int) ∈ (piece.cells.map Point.y).toFinset := by
    intro k member
    by_contra out
    have apart : ∀ p ∈ piece.cells, p.y ≠ lastRow - (k : Int) := fun p known same =>
      out (List.mem_toFinset.mpr (List.mem_map.mpr ⟨p, known, same⟩))
    have taken := (Finset.mem_filter.mp member).2
    rw [place_row apart] at taken
    exact room _ taken
  have apart : ∀ k ∈ rows, ∀ k' ∈ rows, lastRow - (k : Int) = lastRow - (k' : Int) → k = k' := by
    intro k _ k' _ same
    omega
  calc lineCount (place settled piece)
    _ = rows.card := Nat.count_eq_card_filter_range _ _
    _ ≤ (piece.cells.map Point.y).toFinset.card :=
      Finset.card_le_card_of_injOn (fun k => lastRow - (k : Int)) hit apart
    _ ≤ (piece.cells.map Point.y).length := List.toFinset_card_le _
    _ = 4 := by rw [List.length_map, length_cells]

/-- Rows that are not visible, and rows that are not on the board, are not full. -/
theorem OnlyVisible.inside_of_full (visible : OnlyVisible grid) (taken : FullRow (grid y)) :
    INVISIBLE_ROWS_COUNT ≤ y ∧ y ≤ lastRow := by
  have column : (0 : Int) ∈ columns := mem_columns.mpr ⟨Int.le_refl 0, by decide⟩
  have used := bne_iff_ne.mp (List.all_eq_true.mp taken 0 column)
  obtain ⟨inside, low⟩ := visible y 0 used
  exact ⟨low, Int.le_sub_one_of_lt inside.2.2⟩

theorem LinesRemoved.room (removed : LinesRemoved grid after) (visible : OnlyVisible grid)
    (y : Int) : ¬ FullRow (after y) := by
  intro taken
  by_cases inside : INVISIBLE_ROWS_COUNT ≤ y ∧ y ≤ lastRow
  · obtain ⟨source, _, room, _, same⟩ := removed.only y inside.1 inside.2
    rw [same] at taken
    exact room taken
  · have out : y < INVISIBLE_ROWS_COUNT ∨ lastRow < y := by
      rcases not_and_or.mp inside with above | below
      · exact .inl (Int.not_le.mp above)
      · exact .inr (Int.not_le.mp below)
    rw [removed.outside y out] at taken
    exact inside (visible.inside_of_full taken)

end Rows

/-! ## Moving down -/

section Calls

variable {settled : Grid} {board : Board}

theorem Sound.marked (sound : Sound settled board) : Sound settled (board.marked settled) :=
  sound.showing sound.free (shows_place settled _)

theorem Sound.blocked (sound : Sound settled board) :
    Sound settled { board with blocked := true } :=
  ⟨sound.free, sound.shown, sound.visible, sound.room, sound.fresh⟩

theorem Sound.scored (sound : Sound settled board) (score : Int) :
    Sound settled { board with score := score } :=
  ⟨sound.free, sound.shown, sound.visible, sound.room, sound.fresh⟩

/-- The board after a piece was settled there. -/
theorem Sound.placePiece (sound : Sound settled board)
    (stuck : ¬ Free settled (board.activePiece.moved 0 1)) (low : board.isGameOver = false)
    (kind : Tetrimino) :
    ∃ after, (board.marked settled).placePiece kind = some after ∧
      Down settled board after false := by
  have visible := sound.visible.place sound.free (visible_of_isGameOver low)
  obtain ⟨fields, returned, removed, still, intact⟩ :=
    @removeLoop_eq (board.marked settled).fields visible
  have visible' : (board.marked settled).isGameOver = false := low
  rw [Board.placePiece, if_neg (Bool.eq_false_iff.mp visible'), Board.checkAndRemoveLines, returned]
  refine ⟨_, rfl, .landed low
    ⟨sound.free, stuck, fun _ _ => place_ne_empty, removed, lineCount_place_le sound.room⟩
    ⟨?_, ⟨fun _ _ _ => rfl, intact⟩, still, removed.room visible, rfl⟩ rfl rfl rfl⟩
  have free : Free fields.cells ⟨board.nextPiece.kind, 0, PIECE_STARTING_POS⟩ := free_loaded still
  rw [← sound.fresh] at free
  exact free

theorem Sound.movePieceDown (sound : Sound settled board) (kind : Tetrimino) :
    ∃ after moved, board.movePieceDown kind = some (after, moved) ∧
      Down settled board after moved := by
  rw [Board.movePieceDown, sound.erase]
  dsimp only
  split
  · rename_i possible
    exact ⟨_, _, rfl, .fell (isMovePossible_iff.mp possible)⟩
  · rename_i impossible
    have stuck : ¬ Free settled (board.activePiece.moved 0 1) :=
      fun free => impossible (isMovePossible_iff.mpr free)
    have painted : (board.bare settled).markFieldsOccupiedByPiece board.activePiece.color =
        board.marked settled := by
      rw [Board.markFieldsOccupiedByPiece, Board.bare, mark_color sound.free]
      rfl
    rw [show (board.bare settled).activePiece = board.activePiece from rfl, painted]
    cases high : board.isGameOver with
    | true =>
        rw [Board.placePiece, if_pos (show (board.marked settled).isGameOver = true from high)]
        exact ⟨_, _, rfl, .ended stuck high⟩
    | false =>
        obtain ⟨after, returned, down⟩ := sound.placePiece stuck high kind
        exact ⟨after, false, by rw [returned]; rfl, down⟩

end Calls

end HtcLeo.Tetris
