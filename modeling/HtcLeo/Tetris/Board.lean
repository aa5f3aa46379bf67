import Mathlib.Algebra.Group.Int.Defs
import HtcLeo.Tetris.Piece

/-!
# The board

The array of fields has the settled cells and the active piece.  A move erases the piece,
tests the cells that it would go to, and draws it again; drawing leaves out the two rows at
the top, which are not visible.  A piece that cannot move down is settled: full rows are
removed, and the next piece is loaded.

An access outside of the array, or a failed assertion, is a fault.  What is drawn on the
screen is left out.
-/

namespace HtcLeo.Tetris

/-! ## The fields -/

def BOARD_HEIGHT : Int := 22
def INVISIBLE_ROWS_COUNT : Int := 2
def BOARD_WIDTH : Int := 10
def EMPTY_FIELD : U8 := EFI_BLACK

/-- The point is one of the array. -/
def Point.Inside (p : Point) : Prop :=
  (0 ≤ p.x ∧ p.x < BOARD_WIDTH) ∧ 0 ≤ p.y ∧ p.y < BOARD_HEIGHT

instance (p : Point) : Decidable p.Inside :=
  inferInstanceAs (Decidable (_ ∧ _))

/-- Colors by row and column. -/
abbrev Grid := Int → Int → U8

/-- The cells; `fault` records an access outside them. -/
structure Fields where
  cells : Grid
  fault : Bool

namespace Fields

/-- `fields[ y ][ x ] = color`. -/
def set (fields : Fields) (p : Point) (color : U8) : Fields :=
  if p.Inside then
    { fields with cells := fun y x => if y = p.y ∧ x = p.x then color else fields.cells y x }
  else { fields with fault := true }

/-- `redrawField`; the rows above the window are not drawn. -/
def redrawField (fields : Fields) (p : Point) (color : U8) : Fields :=
  if p.Inside then
    if p.y ≥ INVISIBLE_ROWS_COUNT then fields.set p color else fields
  else { fields with fault := true }

/-- `markFieldsOccupiedByPiece` on the cells. -/
def markFieldsOccupiedByPiece (fields : Fields) (piece : Piece) (color : U8) : Fields :=
  piece.cells.foldl (fun fields p => fields.set p color) fields

/-- `drawFieldsOccupiedByPiece` on the cells. -/
def drawFieldsOccupiedByPiece (fields : Fields) (piece : Piece) (color : U8) : Fields :=
  piece.cells.foldl (fun fields p => fields.redrawField p color) fields

/-- A field is read only if it is one of the array. -/
def isMovePossible (fields : Fields) (piece : Piece) (x y : Int) : Bool :=
  piece.cells.all fun p =>
    let moved := p + ⟨x, y⟩
    decide moved.Inside && fields.cells moved.y moved.x == EMPTY_FIELD

/-- The columns of a row, from left to right. -/
def columns : List Int := (List.range BOARD_WIDTH.toNat).map Nat.cast

/-- No field of the row is empty. -/
def lineWasFull (row : Int → U8) : Bool :=
  columns.all fun j => row j != EMPTY_FIELD

/-- The full row is drawn black. -/
def blackenRow (i : Nat) (fields : Fields) : Fields :=
  columns.foldl (fun fields j => fields.redrawField ⟨j, i⟩ EFI_BLACK) fields

/-- The row above is drawn in row `j`. -/
def copyRow (j : Nat) (fields : Fields) : Fields :=
  columns.foldl (fun fields k => fields.redrawField ⟨k, j⟩ (fields.cells (j - 1) k)) fields

/-- The rows from `j` up to 1. -/
def shiftRows : Nat → Fields → Fields
  | 0, fields => fields
  | j + 1, fields => shiftRows j (copyRow (j + 1) fields)

/-- The loop over the rows, from row `i` up; a removed row is looked at again. -/
def removeLoop : Nat → Nat → Nat → Fields → Option (Fields × Nat)
  | 0, _, _, _ => none
  | rounds + 1, i, counter, fields =>
      if (i : Int) ≥ INVISIBLE_ROWS_COUNT then
        if lineWasFull (fields.cells i) then
          removeLoop rounds i (counter + 1) (shiftRows i (blackenRow i fields))
        else removeLoop rounds (i - 1) counter fields
      else some (fields, counter)

end Fields

/-! ## The board -/

def DROP_BONUS_SCORE_PER_LINE : Int := 2
def LINE_CLEAR_SCORE : Int := 100
def LINE_CLEAR_LEVEL_BONUS_SCORE : Int := 50
def PIECE_STARTING_POS : Point := ⟨4, 0⟩

/-- What the rules use of `Board`. -/
structure Board where
  nextPiece : Piece
  activePiece : Piece
  fields : Fields
  blocked : Bool
  level : Int
  lines : Int
  score : Int

namespace Board

/-- `markFieldsOccupiedByPiece`. -/
def markFieldsOccupiedByPiece (board : Board) (color : U8) : Board :=
  { board with fields := board.fields.markFieldsOccupiedByPiece board.activePiece color }

/-- `drawFieldsOccupiedByPiece`. -/
def drawFieldsOccupiedByPiece (board : Board) (color : U8) : Board :=
  { board with fields := board.fields.drawFieldsOccupiedByPiece board.activePiece color }

/-- `isMovePossible`. -/
def isMovePossible (board : Board) (x y : Int) : Bool :=
  board.fields.isMovePossible board.activePiece x y

/-- Change the active piece and not the fields. -/
def withPiece (board : Board) (change : Piece → Piece) : Board :=
  { board with activePiece := change board.activePiece }

/-- `rotatePiece`: a rotation that does not fit is undone. -/
def rotatePiece (board : Board) : Board :=
  let board := board.markFieldsOccupiedByPiece EMPTY_FIELD
  let board := board.withPiece Piece.rotateCW
  if ¬ board.isMovePossible 0 0 then
    let board := board.withPiece Piece.rotateCCW
    board.markFieldsOccupiedByPiece board.activePiece.color
  else
    let board := board.withPiece Piece.rotateCCW
    let board := board.drawFieldsOccupiedByPiece EFI_BLACK
    let board := board.withPiece Piece.rotateCW
    board.drawFieldsOccupiedByPiece board.activePiece.color

/-- Erase the piece, move it and draw it. -/
def redrawMoved (board : Board) (x y : Int) : Board :=
  let board := board.drawFieldsOccupiedByPiece EFI_BLACK
  let board := board.withPiece fun piece => { piece with pos := piece.pos + ⟨x, y⟩ }
  board.drawFieldsOccupiedByPiece board.activePiece.color

/-- `movePieceLeft` and `movePieceRight`, which differ in the offset. -/
def movePieceAside (board : Board) (x : Int) : Board :=
  let board := board.markFieldsOccupiedByPiece EMPTY_FIELD
  let board := if board.isMovePossible x 0 then board.redrawMoved x 0 else board
  board.markFieldsOccupiedByPiece board.activePiece.color

/-- `movePieceLeft`. -/
def movePieceLeft (board : Board) : Board := board.movePieceAside (-1)

/-- `movePieceRight`. -/
def movePieceRight (board : Board) : Board := board.movePieceAside 1

/-- `isGameOver`. -/
def isGameOver (board : Board) : Bool :=
  board.activePiece.cells.any fun p => p.y < INVISIBLE_ROWS_COUNT

/-- `checkAndRemoveLines`. -/
def checkAndRemoveLines (board : Board) : Option Board := do
  let (fields, counter) ← Fields.removeLoop (2 * BOARD_HEIGHT.toNat) (BOARD_HEIGHT.toNat - 1) 0
    board.fields
  return { board with
    fields := fields
    lines := board.lines + counter
    score := if counter ≠ 0 then
        board.score + LINE_CLEAR_SCORE * 2 ^ (counter - 1) +
          LINE_CLEAR_LEVEL_BONUS_SCORE * board.level
      else board.score }

/-- `kind` is the tetrimino that the next piece becomes. -/
def loadNextPiece (board : Board) (kind : Tetrimino) : Board :=
  { board with
    activePiece := { board.nextPiece with pos := PIECE_STARTING_POS }
    nextPiece := board.activePiece.randomize kind }

/-- `placePiece`. -/
def placePiece (board : Board) (kind : Tetrimino) : Option Board :=
  if board.isGameOver then some { board with blocked := true }
  else board.checkAndRemoveLines.map (·.loadNextPiece kind)

/-- The result says if the piece moved. -/
def movePieceDown (board : Board) (kind : Tetrimino) : Option (Board × Bool) :=
  let board := board.markFieldsOccupiedByPiece EMPTY_FIELD
  if board.isMovePossible 0 1 then some (board.redrawMoved 0 1, true)
  else
    let board := board.markFieldsOccupiedByPiece board.activePiece.color
    (board.placePiece kind).map fun board => (board, false)

/-- The loop of `dropPiece`, with `height` so far. -/
def dropLoop (kind : Tetrimino) : Nat → Int → Board → Option (Board × Int)
  | 0, _, _ => none
  | rounds + 1, height, board => do
      let (board, moved) ← board.movePieceDown kind
      if moved then dropLoop kind rounds (height + 1) board else return (board, height)

/-- `dropPiece`. -/
def dropPiece (board : Board) (kind : Tetrimino) : Option Board := do
  let (board, height) ← dropLoop kind (BOARD_HEIGHT.toNat + 1) 0 board
  return { board with score := board.score + DROP_BONUS_SCORE_PER_LINE * height }

/-- The tetriminoes that are chosen for the two pieces, and for the one that comes after. -/
def constructBoard (active spare next : Tetrimino) : Board :=
  let board : Board := {
    nextPiece := Piece.constructPiece active
    activePiece := Piece.constructPiece spare
    fields := ⟨fun _ _ => EMPTY_FIELD, false⟩
    blocked := false
    level := 1
    lines := 0
    score := 0 }
  board.loadNextPiece next

end Board

end HtcLeo.Tetris
