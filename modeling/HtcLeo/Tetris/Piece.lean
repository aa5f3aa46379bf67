import Mathlib.Data.Fin.VecNotation
import HtcLeo.Word.Flags

/-!
# Pieces

A piece is one of seven tetriminoes, in one of four rotations, at a place of the board.  Its
body is a list of four points, the `y` axis pointing down.
-/

namespace HtcLeo.Tetris

/-- `Point`. -/
structure Point where
  x : Int
  y : Int
  deriving DecidableEq, Repr

instance : Add Point :=
  ⟨fun p q => ⟨p.x + q.x, p.y + q.y⟩⟩

/-- The kinds of pieces. -/
inductive Tetrimino where
  | I
  | J
  | L
  | O
  | S
  | T
  | Z
  deriving DecidableEq, Repr

def EFI_BLACK : U8 := 0
def EFI_GREEN : U8 := 2
def EFI_MAGENTA : U8 := 5
def EFI_LIGHTBLUE : U8 := 9
def EFI_LIGHTGREEN : U8 := 10
def EFI_LIGHTCYAN : U8 := 11
def EFI_LIGHTMAGENTA : U8 := 13
def EFI_YELLOW : U8 := 14

namespace Tetrimino

/-- The four bodies, by rotation. -/
def bodies : Tetrimino → Fin 4 → List Point
  | I => ![[⟨0, 1⟩, ⟨1, 1⟩, ⟨2, 1⟩, ⟨3, 1⟩], [⟨2, 0⟩, ⟨2, 1⟩, ⟨2, 2⟩, ⟨2, 3⟩],
      [⟨0, 2⟩, ⟨1, 2⟩, ⟨2, 2⟩, ⟨3, 2⟩], [⟨1, 0⟩, ⟨1, 1⟩, ⟨1, 2⟩, ⟨1, 3⟩]]
  | J => ![[⟨0, 0⟩, ⟨0, 1⟩, ⟨1, 1⟩, ⟨2, 1⟩], [⟨1, 2⟩, ⟨1, 1⟩, ⟨1, 0⟩, ⟨2, 0⟩],
      [⟨0, 1⟩, ⟨1, 1⟩, ⟨2, 1⟩, ⟨2, 2⟩], [⟨0, 2⟩, ⟨1, 2⟩, ⟨1, 1⟩, ⟨1, 0⟩]]
  | L => ![[⟨0, 1⟩, ⟨1, 1⟩, ⟨2, 1⟩, ⟨2, 0⟩], [⟨1, 2⟩, ⟨1, 1⟩, ⟨1, 0⟩, ⟨2, 2⟩],
      [⟨0, 1⟩, ⟨1, 1⟩, ⟨2, 1⟩, ⟨0, 2⟩], [⟨0, 0⟩, ⟨1, 2⟩, ⟨1, 1⟩, ⟨1, 0⟩]]
  | O => ![[⟨1, 0⟩, ⟨1, 1⟩, ⟨2, 0⟩, ⟨2, 1⟩], [⟨1, 0⟩, ⟨1, 1⟩, ⟨2, 0⟩, ⟨2, 1⟩],
      [⟨1, 0⟩, ⟨1, 1⟩, ⟨2, 0⟩, ⟨2, 1⟩], [⟨1, 0⟩, ⟨1, 1⟩, ⟨2, 0⟩, ⟨2, 1⟩]]
  | S => ![[⟨0, 1⟩, ⟨1, 1⟩, ⟨1, 0⟩, ⟨2, 0⟩], [⟨1, 0⟩, ⟨1, 1⟩, ⟨2, 1⟩, ⟨2, 2⟩],
      [⟨0, 2⟩, ⟨1, 2⟩, ⟨1, 1⟩, ⟨2, 1⟩], [⟨0, 0⟩, ⟨0, 1⟩, ⟨1, 1⟩, ⟨1, 2⟩]]
  | T => ![[⟨0, 1⟩, ⟨1, 1⟩, ⟨2, 1⟩, ⟨1, 0⟩], [⟨1, 0⟩, ⟨1, 1⟩, ⟨1, 2⟩, ⟨2, 1⟩],
      [⟨0, 1⟩, ⟨1, 1⟩, ⟨2, 1⟩, ⟨1, 2⟩], [⟨1, 0⟩, ⟨1, 1⟩, ⟨1, 2⟩, ⟨0, 1⟩]]
  | Z => ![[⟨2, 1⟩, ⟨1, 1⟩, ⟨1, 0⟩, ⟨0, 0⟩], [⟨1, 2⟩, ⟨1, 1⟩, ⟨2, 1⟩, ⟨2, 0⟩],
      [⟨2, 2⟩, ⟨1, 2⟩, ⟨1, 1⟩, ⟨0, 1⟩], [⟨0, 2⟩, ⟨0, 1⟩, ⟨1, 1⟩, ⟨1, 0⟩]]

/-- The color of each piece. -/
def color : Tetrimino → U8
  | I => EFI_LIGHTCYAN
  | J => EFI_LIGHTBLUE
  | L => EFI_GREEN
  | O => EFI_YELLOW
  | S => EFI_LIGHTGREEN
  | T => EFI_MAGENTA
  | Z => EFI_LIGHTMAGENTA

theorem length_bodies (kind : Tetrimino) (rotation : Fin 4) :
    (kind.bodies rotation).length = 4 := by
  revert rotation
  cases kind <;> decide

theorem color_ne_black (kind : Tetrimino) : kind.color ≠ EFI_BLACK := by
  cases kind <;> decide

/-- Before it is rotated, a piece is at most four wide and two high. -/
theorem bodies_zero (kind : Tetrimino) :
    ∀ p ∈ kind.bodies 0, (0 ≤ p.x ∧ p.x < 4) ∧ 0 ≤ p.y ∧ p.y < 2 := by
  cases kind <;> decide

end Tetrimino

/-- The tetrimino stands for the copied bodies and the color; `rotation` also for the pointer
to the body. -/
structure Piece where
  kind : Tetrimino
  rotation : Fin 4
  pos : Point
  deriving DecidableEq, Repr

namespace Piece

/-- The points of a piece in its rotation. -/
def body (piece : Piece) : List Point := piece.kind.bodies piece.rotation

/-- The color of a piece. -/
def color (piece : Piece) : U8 := piece.kind.color

/-- `rand() % 7` chose the tetrimino. -/
def randomize (piece : Piece) (kind : Tetrimino) : Piece :=
  { piece with kind := kind, rotation := 0 }

/-- `rotateCW`. -/
def rotateCW (piece : Piece) : Piece :=
  { piece with rotation := piece.rotation + 1 }

/-- `rotateCCW`. -/
def rotateCCW (piece : Piece) : Piece :=
  if piece.rotation = 0 then { piece with rotation := 3 }
  else { piece with rotation := piece.rotation - 1 }

/-- `ConstructPiece`. -/
def constructPiece (kind : Tetrimino) : Piece where
  kind := kind
  rotation := 0
  pos := ⟨0, 0⟩

/-- The cells of the board that the piece is on. -/
def cells (piece : Piece) : List Point :=
  piece.body.map (· + piece.pos)

end Piece

end HtcLeo.Tetris
