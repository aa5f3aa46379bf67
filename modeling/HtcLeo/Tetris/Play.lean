import HtcLeo.Transition.Run
import HtcLeo.Tetris.Settling

/-!
# Playing

In whatever order the calls come, and whatever tetriminoes are chosen, a settled cell is
kept until its row is full.  The settled cells of a stage are written down apart from the
board: a call that settles a piece replaces them by the fields that it leaves, and every
other call has to leave them as they are.
-/

namespace HtcLeo.Tetris

open Grid Fields Transition

/-- The player's moves. -/
inductive Move where
  | rotate
  | left
  | right
  | down
  | drop
  deriving DecidableEq, Repr

/-- A call, and the tetrimino that is chosen if it loads a piece. -/
structure Turn where
  move : Move
  random : Tetrimino
  deriving DecidableEq, Repr

/-- The result says if the call placed the piece. -/
def Board.play (board : Board) (turn : Turn) : Option (Board × Bool) :=
  match turn.move with
  | .rotate => some (board.rotatePiece, false)
  | .left => some (board.movePieceLeft, false)
  | .right => some (board.movePieceRight, false)
  | .down => (board.movePieceDown turn.random).map fun (board, moved) => (board, !moved)
  | .drop => (board.dropPiece turn.random).map fun board => (board, true)

/-- A board and the cells that are settled on it. -/
structure Stage where
  board : Board
  settled : Grid

/-- A board from `ConstructBoard`, which has no settled cells. -/
def Stage.start (active spare next : Tetrimino) : Stage where
  board := Board.constructBoard active spare next
  settled := fun _ _ => EMPTY_FIELD

/-- The game goes on until the board is blocked. -/
def Moves (before : Stage) (turn : Turn) (after : Stage) : Prop :=
  before.board.blocked = false ∧
    ∃ placed, before.board.play turn = some (after.board, placed) ∧
      after.settled =
        if placed ∧ ¬ after.board.blocked then after.board.fields.cells else before.settled

/-- What a call finds and leaves. -/
structure Intact (stage : Stage) : Prop where
  four : stage.board.activePiece.cells.length = 4
  free : Free stage.settled stage.board.activePiece
  hidden : ∀ y x, y < INVISIBLE_ROWS_COUNT → stage.settled y x = EMPTY_FIELD
  kept : ∀ x y, ⟨x, y⟩ ∉ stage.board.activePiece.cells →
    stage.board.fields.cells y x = stage.settled y x
  intact : stage.board.fields.fault = false
  returns : ∀ turn, ∃ after placed, stage.board.play turn = some (after, placed)

/-- A call keeps the settled cells, or it settles the piece where it comes to rest. -/
inductive Played (settled : Grid) (board : Board) : Board → Bool → Prop
  | still {after : Board} {placed : Bool} : Sound settled after →
      (placed = true → after.blocked = true) → after.level = board.level →
      Played settled board after placed
  | settles {after : Board} (h : Nat) : Sound after.fields.cells after →
      after.blocked = board.blocked → after.level = board.level →
      Settles settled after.fields.cells (board.activePiece.moved 0 h) →
      Played settled board after true

section Calls

variable {settled : Grid} {board after : Board} {kind : Tetrimino} {rounds : Nat}
  {moved placed : Bool}

theorem rotatePiece_level (board : Board) : board.rotatePiece.level = board.level := by
  rw [Board.rotatePiece]
  split <;> rfl

theorem movePieceAside_level (board : Board) (x : Int) :
    (board.movePieceAside x).level = board.level := by
  rw [Board.movePieceAside]
  split <;> rfl

/-- A call of `movePieceDown` after the piece moved down by `h`. -/
theorem Down.played {resting : Board} {h : Nat} (sound : Sound settled resting)
    (further : resting.activePiece = board.activePiece.moved 0 h)
    (same : resting.blocked = board.blocked ∧ resting.level = board.level)
    (down : Down settled resting after moved) :
    Played settled board after !moved := by
  cases down with
  | fell free => exact .still (sound.redrawMoved free) (absurd · Bool.false_ne_true) same.2
  | ended => exact .still sound.marked.blocked (fun _ => rfl) same.2
  | landed _ settles next _ unblocked level =>
      rw [further] at settles
      exact .settles h next (unblocked.trans same.1) (level.trans same.2) settles

/-- A piece that is dropped comes to rest further down, and is then placed. -/
theorem Sound.dropLoop (sound : Sound settled board) (height : Int)
    (enough : ∃ p ∈ board.activePiece.cells, BOARD_HEIGHT ≤ p.y + rounds) :
    ∃ (after : Board) (total : Int) (resting : Board) (h : Nat),
      Board.dropLoop kind rounds height board = some (after, total) ∧
      resting.activePiece = board.activePiece.moved 0 h ∧
      (resting.blocked = board.blocked ∧ resting.level = board.level) ∧
      Sound settled resting ∧ Down settled resting after false := by
  induction rounds generalizing height board with
  | zero =>
      obtain ⟨p, member, high⟩ := enough
      have low := (sound.free p member).1.2.2
      omega
  | succ rounds ih =>
      obtain ⟨next, moved, returned, down⟩ := sound.movePieceDown kind
      rw [Board.dropLoop, returned]
      cases down with
      | fell free =>
          obtain ⟨p, member, high⟩ := enough
          have lower : p + ⟨0, 1⟩ ∈ (board.activePiece.moved 0 1).cells := by
            rw [cells_moved]
            exact List.mem_map_of_mem member
          obtain ⟨after, total, resting, h, dropped, further, same, found⟩ :=
            ih (sound.redrawMoved free) (height + 1)
              ⟨_, lower, (by omega : BOARD_HEIGHT ≤ p.y + 1 + rounds)⟩
          exact ⟨after, total, resting, h + 1, dropped,
            further.trans (moved_moved board.activePiece h), same, found⟩
      | ended stuck high =>
          exact ⟨_, _, board, 0, rfl, (moved_zero _).symm, ⟨rfl, rfl⟩, sound, .ended stuck high⟩
      | landed low settles next loaded same level =>
          exact ⟨_, _, board, 0, rfl, (moved_zero _).symm, ⟨rfl, rfl⟩, sound,
            .landed low settles next loaded same level⟩

theorem Played.sound (played : Played settled board after placed) :
    ∃ settled, Sound settled after := by
  cases played with
  | still sound => exact ⟨_, sound⟩
  | settles _ sound => exact ⟨_, sound⟩

theorem Played.level (played : Played settled board after placed) :
    after.level = board.level := by
  cases played with
  | still _ _ level => exact level
  | settles _ _ _ level => exact level

theorem Played.scored (played : Played settled board after true) (score : Int) :
    Played settled board { after with score := score } true := by
  cases played with
  | still sound blocked level => exact .still (sound.scored score) blocked level
  | settles h sound same level settles => exact .settles h (sound.scored score) same level settles

theorem Sound.dropPiece (sound : Sound settled board) (kind : Tetrimino) :
    ∃ after, board.dropPiece kind = some after ∧ Played settled board after true := by
  obtain ⟨p, member⟩ := exists_cell board.activePiece
  have above := (sound.free p member).1.2.1
  have height : BOARD_HEIGHT ≤ (BOARD_HEIGHT.toNat + 1 : Nat) := by decide
  obtain ⟨after, total, resting, h, dropped, further, same, still, down⟩ :=
    @Sound.dropLoop _ _ kind (BOARD_HEIGHT.toNat + 1) sound 0 ⟨p, member, by omega⟩
  rw [Board.dropPiece, dropped]
  exact ⟨_, rfl, (down.played still further same).scored _⟩

theorem Sound.play (sound : Sound settled board) (turn : Turn) :
    ∃ after placed, board.play turn = some (after, placed) ∧
      Played settled board after placed := by
  obtain ⟨move, random⟩ := turn
  cases move with
  | rotate =>
      exact ⟨_, _, rfl, .still sound.rotatePiece (absurd · Bool.false_ne_true)
        (rotatePiece_level board)⟩
  | left =>
      exact ⟨_, _, rfl, .still (sound.movePieceAside (-1)) (absurd · Bool.false_ne_true)
        (movePieceAside_level board (-1))⟩
  | right =>
      exact ⟨_, _, rfl, .still (sound.movePieceAside 1) (absurd · Bool.false_ne_true)
        (movePieceAside_level board 1)⟩
  | down =>
      obtain ⟨after, moved, returned, down⟩ := sound.movePieceDown random
      refine ⟨after, !moved, ?_, down.played sound (moved_zero _).symm ⟨rfl, rfl⟩⟩
      rw [Board.play, returned]
      rfl
  | drop =>
      obtain ⟨after, returned, played⟩ := sound.dropPiece random
      refine ⟨after, true, ?_, played⟩
      rw [Board.play, returned]
      rfl

theorem Sound.intact {stage : Stage} (sound : Sound stage.settled stage.board) :
    Intact stage where
  four := length_cells _
  free := sound.free
  hidden y x above := congrFun (sound.visible.row_eq above) x
  kept := sound.shown.kept
  intact := sound.shown.intact
  returns turn := by
    obtain ⟨after, placed, returned, _⟩ := sound.play turn
    exact ⟨after, placed, returned⟩

theorem sound_start (active spare next : Tetrimino) :
    Sound (Stage.start active spare next).settled (Stage.start active spare next).board where
  free := free_loaded fun _ _ used => absurd rfl used
  shown := ⟨fun _ _ _ => rfl, rfl⟩
  visible _ _ used := absurd rfl used
  room _ := blank_not_full
  fresh := rfl

/-- One call until the board is blocked. -/
theorem Sound.moves {before after : Stage} {turn : Turn}
    (sound : Sound before.settled before.board) (moves : Moves before turn after) :
    Sound after.settled after.board ∧
      (after.settled = before.settled ∨
        ∃ h : Nat, Settles before.settled after.settled
          (before.board.activePiece.moved 0 h)) := by
  obtain ⟨going, placed, returned, settled⟩ := moves
  obtain ⟨board, placed', returned', played⟩ := sound.play turn
  obtain ⟨rfl, rfl⟩ := Prod.mk.inj (Option.some.inj (returned'.symm.trans returned))
  cases played with
  | still sound blocked _ =>
      rw [if_neg fun both => both.2 (blocked both.1)] at settled
      rw [settled]
      exact ⟨sound, .inl rfl⟩
  | settles h sound same _ settles =>
      have unblocked : ¬ after.board.blocked = true := by
        rw [same, going]
        exact Bool.false_ne_true
      rw [if_pos ⟨rfl, unblocked⟩] at settled
      rw [settled]
      exact ⟨sound, .inr ⟨h, settles⟩⟩

end Calls

/-- From any board that `ConstructBoard` makes, every call returns, the cells of the active
piece are four free ones, and a piece that is settled removes the full rows alone. -/
theorem play_intact {active spare next : Tetrimino} {steps : List (Step Stage Turn)}
    (run : Run Moves (.start active spare next) steps) :
    Intact (.start active spare next) ∧
      ∀ t ∈ steps, Intact t.after ∧
        (t.after.settled = t.before.settled ∨
          ∃ h : Nat, Settles t.before.settled t.after.settled
            (t.before.board.activePiece.moved 0 h)) := by
  refine ⟨(sound_start active spare next).intact, ?_⟩
  refine run.forall_of_kept (I := fun stage => Sound stage.settled stage.board)
    (sound_start active spare next) fun before turn after sound moves => ?_
  obtain ⟨still, settled⟩ := sound.moves moves
  exact ⟨⟨still.intact, settled⟩, still⟩

/-! ## A row is removed -/

/-- The steps of some calls, if none comes when the board is blocked. -/
def Stage.stepsOf (stage : Stage) : List Turn → Option (List (Step Stage Turn))
  | [] => some []
  | turn :: rest => do
      let (board, placed) ← (if stage.board.blocked then none else stage.board.play turn)
      let after : Stage :=
        ⟨board, if placed ∧ ¬ board.blocked then board.fields.cells else stage.settled⟩
      let steps ← after.stepsOf rest
      return ⟨stage, turn, after⟩ :: steps

theorem run_of_stepsOf {stage : Stage} {turns : List Turn} {steps : List (Step Stage Turn)}
    (made : stage.stepsOf turns = some steps) : Run Moves stage steps := by
  induction turns generalizing stage steps with
  | nil =>
      obtain rfl := Option.some.inj made
      exact .nil stage
  | cons turn rest ih =>
      obtain ⟨⟨board, placed⟩, played, later⟩ := Option.bind_eq_some_iff.mp made
      obtain ⟨left, following, same⟩ := Option.bind_eq_some_iff.mp later
      obtain rfl := Option.some.inj same
      split at played
      · cases played
      · next going => exact .cons ⟨Bool.eq_false_iff.mpr going, placed, played, rfl⟩ (ih following)

/-- Two lying pieces and a square fill the last row: the first one goes to the left border, the
second one falls beside it, and the square goes to the right border. -/
def fillingTurns : List Turn :=
  List.replicate 4 ⟨.left, .L⟩ ++ [⟨.drop, .O⟩, ⟨.drop, .T⟩] ++ List.replicate 3 ⟨.right, .L⟩ ++
    [⟨.drop, .S⟩]

/-- The last of these calls removes a row. -/
theorem play_intact_fillingTurns :
    ∃ steps, (Stage.start .I .O .I).stepsOf fillingTurns = some steps ∧
      steps.getLast?.map (fun t => (t.before.board.lines, t.after.board.lines)) = some (0, 1) ∧
      Intact (.start .I .O .I) ∧
      ∀ t ∈ steps, Intact t.after ∧
        (t.after.settled = t.before.settled ∨
          ∃ h : Nat, Settles t.before.settled t.after.settled
            (t.before.board.activePiece.moved 0 h)) := by
  have removes : ((Stage.start .I .O .I).stepsOf fillingTurns).bind (fun steps =>
      steps.getLast?.map fun t => (t.before.board.lines, t.after.board.lines)) = some (0, 1) := by
    decide +kernel
  obtain ⟨steps, made, last⟩ := Option.bind_eq_some_iff.mp removes
  exact ⟨steps, made, last, play_intact (run_of_stepsOf made)⟩

end HtcLeo.Tetris
