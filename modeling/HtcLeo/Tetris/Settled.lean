import HtcLeo.Tetris.Lines

/-!
# Settled cells

Between two calls the fields are the settled cells, and what is drawn of the active piece,
whose cells are on empty ones.  So a call that erases the piece leaves the settled cells
alone, tests the piece against them, and draws it where it is free.
-/

namespace HtcLeo.Tetris

open Grid Fields

/-- A piece put elsewhere. -/
def Piece.moved (piece : Piece) (x y : Int) : Piece :=
  { piece with pos := piece.pos + ⟨x, y⟩ }

/-- The cells of the piece are on the board, and none of them is a settled cell. -/
def Free (settled : Grid) (piece : Piece) : Prop :=
  ∀ p ∈ piece.cells, p.Inside ∧ settled p.y p.x = EMPTY_FIELD

/-- Apart from the cells of the piece, the fields are the settled ones. -/
structure Shows (settled : Grid) (piece : Piece) (fields : Fields) : Prop where
  kept : ∀ x y, ⟨x, y⟩ ∉ piece.cells → fields.cells y x = settled y x
  intact : fields.fault = false

/-- What holds between two calls. -/
structure Sound (settled : Grid) (board : Board) : Prop where
  free : Free settled board.activePiece
  shown : Shows settled board.activePiece board.fields
  visible : OnlyVisible settled
  room : ∀ y, ¬ FullRow (settled y)
  fresh : board.nextPiece.rotation = 0

/-! ## The cells of a piece -/

section Cells

variable {settled : Grid} {piece : Piece} {kind : Tetrimino} {p : Point} {x y : Int}

theorem length_cells (piece : Piece) : piece.cells.length = 4 := by
  rw [Piece.cells, List.length_map, Piece.body, Tetrimino.length_bodies]

theorem exists_cell (piece : Piece) : ∃ p, p ∈ piece.cells :=
  List.exists_mem_of_length_pos
    (Nat.lt_of_lt_of_eq (by decide : 0 < 4) (length_cells piece).symm)

@[simp]
theorem rotateCCW_rotateCW (piece : Piece) : piece.rotateCW.rotateCCW = piece := by
  obtain ⟨kind, rotation, pos⟩ := piece
  have four : ∀ rotation : Fin 4,
      rotation = 0 ∨ rotation = 1 ∨ rotation = 2 ∨ rotation = 3 := by decide
  rcases four rotation with rfl | rfl | rfl | rfl <;> simp [Piece.rotateCW, Piece.rotateCCW]

@[simp]
theorem moved_zero (piece : Piece) : piece.moved 0 0 = piece := by
  obtain ⟨kind, rotation, x, y⟩ := piece
  exact congrArg (Piece.mk kind rotation)
    (congrArg₂ Point.mk (Int.add_zero x) (Int.add_zero y))

theorem moved_moved (piece : Piece) (h : Nat) :
    (piece.moved 0 1).moved 0 h = piece.moved 0 (h + 1 : Nat) := by
  obtain ⟨kind, rotation, x, y⟩ := piece
  have further : y + 1 + (h : Int) = y + (h + 1 : Nat) := by omega
  exact congrArg (Piece.mk kind rotation) (congrArg₂ Point.mk (Int.add_zero (x + 0)) further)

theorem cells_moved (piece : Piece) (x y : Int) :
    (piece.moved x y).cells = piece.cells.map (· + ⟨x, y⟩) := by
  rw [Piece.cells, Piece.cells, List.map_map]
  refine List.map_congr_left fun p _ => ?_
  exact congrArg₂ Point.mk (Int.add_assoc p.x _ x).symm (Int.add_assoc p.y _ y).symm

theorem Free.onBoard (free : Free settled piece) : piece.OnBoard :=
  fun p member => (free p member).1

/-- A piece is loaded into the rows that are not visible. -/
theorem loaded_cells {p : Point} (member : p ∈ (⟨kind, 0, PIECE_STARTING_POS⟩ : Piece).cells) :
    (4 ≤ p.x ∧ p.x < 8) ∧ 0 ≤ p.y ∧ p.y < INVISIBLE_ROWS_COUNT := by
  obtain ⟨q, known, rfl⟩ := List.mem_map.mp member
  obtain ⟨⟨left, right⟩, above, below⟩ := kind.bodies_zero q known
  have top : (0 : Int) ≤ q.y + 0 := by omega
  have two : q.y + 0 < (2 : Int) := by omega
  exact ⟨⟨(by omega : 4 ≤ q.x + 4), (by omega : q.x + 4 < 8)⟩, top, two⟩

theorem free_loaded (visible : OnlyVisible settled) :
    Free settled ⟨kind, 0, PIECE_STARTING_POS⟩ := by
  intro p member
  obtain ⟨⟨left, right⟩, above, below⟩ := loaded_cells member
  have column : 0 ≤ p.x ∧ p.x < BOARD_WIDTH := ⟨by omega, Int.lt_trans right (by decide)⟩
  have row : 0 ≤ p.y ∧ p.y < BOARD_HEIGHT := ⟨above, Int.lt_trans below (by decide)⟩
  exact ⟨⟨column, row⟩, congrFun (visible.row_eq below) p.x⟩

end Cells

/-! ## Erasing and drawing -/

section Drawing

variable {settled : Grid} {piece : Piece} {fields : Fields} {color : U8} {x y : Int}

theorem Shows.erase (shown : Shows settled piece fields) (free : Free settled piece) :
    fields.markFieldsOccupiedByPiece piece EMPTY_FIELD = ⟨settled, false⟩ := by
  rw [markFieldsOccupiedByPiece_eq free.onBoard, shown.intact]
  congr 1
  funext y x
  split
  · rename_i member
    exact (free _ member).2.symm
  · rename_i other
    exact shown.kept x y other

theorem draw_black (free : Free settled piece) :
    (⟨settled, false⟩ : Fields).drawFieldsOccupiedByPiece piece EFI_BLACK = ⟨settled, false⟩ := by
  rw [drawFieldsOccupiedByPiece_eq free.onBoard]
  congr 1
  funext y x
  split
  · rename_i painted
    exact (free _ painted.1).2.symm
  · rfl

theorem mark_color (free : Free settled piece) :
    (⟨settled, false⟩ : Fields).markFieldsOccupiedByPiece piece piece.color =
      ⟨place settled piece, false⟩ :=
  markFieldsOccupiedByPiece_eq free.onBoard

theorem shows_place (settled : Grid) (piece : Piece) :
    Shows settled piece ⟨place settled piece, false⟩ :=
  ⟨fun _ _ other => if_neg other, rfl⟩

/-- Fields whose cells of the piece all have its color. -/
theorem Shows.cells_eq (shown : Shows settled piece fields)
    (colored : ∀ p ∈ piece.cells, fields.cells p.y p.x = piece.color) :
    fields.cells = place settled piece := by
  funext y x
  rw [place]
  split
  · rename_i member
    exact colored _ member
  · rename_i other
    exact shown.kept x y other

theorem shows_draw (free : Free settled piece) :
    Shows settled piece
      ((⟨settled, false⟩ : Fields).drawFieldsOccupiedByPiece piece color) := by
  rw [drawFieldsOccupiedByPiece_eq free.onBoard]
  exact ⟨fun x y other => if_neg fun painted => other painted.1, rfl⟩

theorem isMovePossible_iff :
    (⟨settled, false⟩ : Fields).isMovePossible piece x y ↔ Free settled (piece.moved x y) := by
  rw [isMovePossible, List.all_eq_true, Free, cells_moved, List.forall_mem_map]
  simp only [Bool.and_eq_true, decide_eq_true_eq, beq_iff_eq]

theorem shows_bare (settled : Grid) (piece : Piece) : Shows settled piece ⟨settled, false⟩ :=
  ⟨fun _ _ _ => rfl, rfl⟩

theorem Shows.mark (shown : Shows settled piece fields) (free : Free settled piece) :
    Shows settled piece (fields.markFieldsOccupiedByPiece piece color) := by
  rw [markFieldsOccupiedByPiece_eq free.onBoard]
  exact ⟨fun x y other => (if_neg other).trans (shown.kept x y other), shown.intact⟩

end Drawing

/-! ## The calls -/

/-- The board with nothing but settled cells. -/
def Board.bare (board : Board) (settled : Grid) : Board :=
  { board with fields := ⟨settled, false⟩ }

section Calls

variable {settled : Grid} {board : Board} {piece : Piece} {fields : Fields} {kind : Tetrimino}
  {x y : Int}

theorem Sound.erase (sound : Sound settled board) :
    board.markFieldsOccupiedByPiece EMPTY_FIELD = board.bare settled := by
  rw [Board.markFieldsOccupiedByPiece, sound.shown.erase sound.free]
  rfl

theorem Sound.showing (sound : Sound settled board) (free : Free settled piece)
    (shown : Shows settled piece fields) :
    Sound settled { board with activePiece := piece, fields := fields } :=
  ⟨free, shown, sound.visible, sound.room, sound.fresh⟩

theorem Sound.redrawMoved (sound : Sound settled board)
    (free : Free settled (board.activePiece.moved x y)) :
    Sound settled ((board.bare settled).redrawMoved x y) := by
  rw [Board.redrawMoved]
  dsimp only [Board.drawFieldsOccupiedByPiece, Board.withPiece, Board.bare]
  rw [draw_black sound.free]
  exact sound.showing free (shows_draw free)

theorem Sound.mark (sound : Sound settled board) :
    Sound settled (board.markFieldsOccupiedByPiece board.activePiece.color) :=
  sound.showing sound.free (sound.shown.mark sound.free)

theorem Sound.bare (sound : Sound settled board) : Sound settled (board.bare settled) :=
  sound.showing sound.free (shows_bare settled _)

/-- A rotation that is not possible is taken back. -/
theorem Sound.rotatePiece (sound : Sound settled board) : Sound settled board.rotatePiece := by
  have possible : (board.bare settled |>.withPiece Piece.rotateCW).isMovePossible 0 0 ↔
      Free settled board.activePiece.rotateCW := by
    rw [← moved_zero board.activePiece.rotateCW]
    exact isMovePossible_iff
  rw [Board.rotatePiece, sound.erase]
  split
  · simp only [Board.withPiece, rotateCCW_rotateCW]
    exact sound.bare.mark
  · rename_i allowed
    have free := possible.mp (not_not.mp allowed)
    simp only [Board.withPiece, rotateCCW_rotateCW, Board.drawFieldsOccupiedByPiece, Board.bare]
    rw [draw_black sound.free]
    exact sound.showing free (shows_draw free)

theorem Sound.movePieceAside (sound : Sound settled board) (x : Int) :
    Sound settled (board.movePieceAside x) := by
  rw [Board.movePieceAside, sound.erase]
  split
  · rename_i possible
    exact (sound.redrawMoved (isMovePossible_iff.mp possible)).mark
  · exact sound.bare.mark

end Calls

end HtcLeo.Tetris
