import HtcLeo.Keypad.Keys
import HtcLeo.Tetris.Play

/-!
# The game

A timer counts the ticks down while the game is running, and the window moves the active
piece down when none is left.  The timer and the keys ask if the game is running; the window
does not.  So a game that is paused when the last tick has come still moves once.
-/

namespace HtcLeo.Tetris

open Transition Keypad

def GAME_REFRESH_PERIOD : Int := 35

/-- `GAME_STATE`. -/
inductive GameState where
  | WAITING_FOR_START
  | RUNNING
  | PAUSED
  | OVER
  | EXIT
  deriving DecidableEq, Repr

/-- The game and its board. -/
structure Core where
  gameState : GameState
  board : Board
  tickCounter : Int

namespace Core

/-- `resetTickCounter`. -/
def resetTickCounter (core : Core) : Core :=
  { core with tickCounter := (GAME_REFRESH_PERIOD * (11 - core.board.level)).tdiv 10 }

/-- `togglePause`. -/
def togglePause (core : Core) : Core :=
  { core with gameState := if core.gameState = .PAUSED then .RUNNING else .PAUSED }

/-- `gameOver`. -/
def gameOver (core : Core) : Core := { core with gameState := .OVER }

/-- `startGame`. -/
def startGame (core : Core) : Core := { core with gameState := .RUNNING }

/-- The tetriminoes as in `constructBoard`. -/
def constructCore (active spare next : Tetrimino) : Core where
  gameState := .WAITING_FOR_START
  board := Board.constructBoard active spare next
  tickCounter := GAME_REFRESH_PERIOD

/-- `timerCallback`. -/
def timerCallback (core : Core) : Core :=
  if core.gameState = .RUNNING ∧ core.tickCounter ≠ 0 then
    { core with tickCounter := core.tickCounter - 1 }
  else core

/-- There may be no key; `random` is the tetrimino that is chosen if a piece is loaded. -/
def handleInput (core : Core) (key? : Option EfiInputKey) (random : Tetrimino) : Option Core :=
  match key? with
  | none => some core
  | some key =>
      if core.gameState = .WAITING_FOR_START then some core.startGame
      else if key.scanCode = SCAN_HOME then
        if core.gameState = .RUNNING then do
          let board ← core.board.dropPiece random
          return { core with board := board }.resetTickCounter
        else some core
      else if key.scanCode = SCAN_UP then
        if core.gameState = .RUNNING then some { core with board := core.board.movePieceLeft }
        else some core
      else if key.scanCode = SCAN_DOWN then
        if core.gameState = .RUNNING then some { core with board := core.board.movePieceRight }
        else some core
      else if key.scanCode = SCAN_ESC then some { core with gameState := .EXIT }
      else if key.unicodeChar = CHAR_CARRIAGE_RETURN then
        if core.gameState = .RUNNING then do
          let (board, moved) ← core.board.movePieceDown random
          let core := { core with board := board }
          return if ¬ moved then core.resetTickCounter else core
        else some core
      else if key.unicodeChar = CHAR_TAB then
        if core.gameState = .RUNNING then some { core with board := core.board.rotatePiece }
        else some core
      else if key.unicodeChar = CHAR_BACKSPACE then
        if core.gameState = .RUNNING ∨ core.gameState = .PAUSED then some core.togglePause
        else some core
      else some core

/-- `drawWindow`. -/
def drawWindow (core : Core) (random : Tetrimino) : Option Core :=
  let core := if core.gameState = .RUNNING ∧ core.board.blocked then core.gameOver else core
  -- whatever the game state is
  if core.tickCounter = 0 then do
    let (board, _) ← core.board.movePieceDown random
    return { core with board := board }.resetTickCounter
  else some core

end Core

/-- A call on the game. -/
inductive Call where
  | timerCallback
  | handleInput (key? : Option EfiInputKey) (random : Tetrimino)
  | drawWindow (random : Tetrimino)
  deriving DecidableEq, Repr

/-- The game after a call; `none` where the call does not return. -/
def Core.call (core : Core) : Call → Option Core
  | .timerCallback => some core.timerCallback
  | .handleInput key? random => core.handleInput key? random
  | .drawWindow random => core.drawWindow random

/-- The call leads from one game to another. -/
def Calls (before : Core) (call : Call) (after : Core) : Prop := before.call call = some after

/-! ## A frozen board -/

/-- The call is `drawWindow`. -/
def Call.IsDrawWindow : Call → Prop
  | .drawWindow _ => True
  | _ => False

/-- The game is not running, or the call is a `drawWindow` that ends it. -/
def Stopped (t : Step Core Call) : Prop :=
  t.before.gameState = .PAUSED ∨ t.before.gameState = .OVER ∨
    t.before.gameState = .WAITING_FOR_START ∨
    t.label.IsDrawWindow ∧ t.before.gameState = .RUNNING ∧ t.after.gameState = .OVER

/-- The fields, the active piece, the line count and the score do not change. -/
structure Unchanged (before after : Board) : Prop where
  fields : after.fields = before.fields
  activePiece : after.activePiece = before.activePiece
  lines : after.lines = before.lines
  score : after.score = before.score

/-- A step of a stopped game leaves the board as it is. -/
def Frozen (t : Step Core Call) : Prop := Stopped t → Unchanged t.before.board t.after.board

/-- The window is drawn with no tick left, in a paused game or in one that is to end. -/
def LateTick (t : Step Core Call) : Prop :=
  t.label.IsDrawWindow ∧ t.before.tickCounter = 0 ∧
    (t.before.gameState = .PAUSED ∨
      t.before.gameState = .RUNNING ∧ t.before.board.blocked = true)

/-- The piece cannot move down, has a cell that is not visible, and all its fields have its
color. -/
structure Board.AtRest (board : Board) : Prop where
  stuck : ¬ (board.markFieldsOccupiedByPiece EMPTY_FIELD).isMovePossible 0 1
  high : board.isGameOver = true
  colored : ∀ p ∈ board.activePiece.cells, board.fields.cells p.y p.x = board.activePiece.color

/-- A call of `movePieceDown` changes the board unless it is at rest. -/
theorem Down.unchanged_iff {settled : Grid} {board after : Board} {moved : Bool}
    (sound : Sound settled board) (down : Down settled board after moved) :
    Unchanged board after ↔ board.AtRest := by
  have possible : (board.markFieldsOccupiedByPiece EMPTY_FIELD).isMovePossible 0 1 ↔
      Free settled (board.activePiece.moved 0 1) := by
    rw [sound.erase]
    exact isMovePossible_iff
  cases down with
  | fell free =>
      constructor
      · intro unchanged
        have lower : board.activePiece.pos.y + 1 = board.activePiece.pos.y :=
          congrArg (fun piece => piece.pos.y) unchanged.activePiece
        omega
      · exact fun rest => absurd (possible.mpr free) rest.stuck
  | ended stuck high =>
      constructor
      · intro unchanged
        refine ⟨fun free => stuck (possible.mp free), high, fun p member => ?_⟩
        rw [← unchanged.fields]
        exact if_pos member
      · intro rest
        have cells := sound.shown.cells_eq rest.colored
        exact ⟨congrArg₂ Fields.mk cells.symm sound.shown.intact.symm, rfl, rfl, rfl⟩
  | landed low settles next loaded =>
      constructor
      · intro unchanged
        -- the loaded piece is not visible, and the settled one is
        obtain ⟨p, member⟩ := exists_cell board.activePiece
        have below := visible_of_isGameOver low p member
        rw [← unchanged.activePiece, loaded] at member
        have fresh : p ∈ (⟨board.nextPiece.kind, 0, PIECE_STARTING_POS⟩ : Piece).cells := by
          rw [← sound.fresh]
          exact member
        exact absurd (loaded_cells fresh).2.2 (Int.not_lt.mpr below)
      · intro rest
        exact absurd rest.high (Bool.eq_false_iff.mp low)

/-! ## Every call -/

/-- What holds between two calls: where the timer does not run, a tick is left. -/
structure Steady (core : Core) : Prop where
  sound : ∃ settled, Sound settled core.board
  level : core.board.level = 1
  ticks : core.gameState = .WAITING_FOR_START ∨ core.gameState = .OVER → core.tickCounter ≠ 0

/-- What a key does. -/
inductive Pressed (core : Core) : Core → Prop
  | state (state : GameState) :
      (state = .WAITING_FOR_START ∨ state = .OVER → core.gameState = state) →
      Pressed core { core with gameState := state }
  | played {board : Board} {placed : Bool} (turn : Turn) (ticks : Int) :
      core.gameState = .RUNNING → core.board.play turn = some (board, placed) →
      Pressed core { core with board := board, tickCounter := ticks }

section Calls

variable {core after : Core} {call : Call} {key? : Option EfiInputKey} {random : Tetrimino}

theorem Pressed.same (core : Core) : Pressed core core :=
  .state core.gameState fun _ => rfl

theorem pressed_of_some (same : some core = some after) : Pressed core after :=
  Option.some.inj same ▸ .same core

theorem pressed_of_ite {p : Prop} [Decidable p] {one other : Option Core}
    (returned : (if p then one else other) = some after)
    (yes : p → one = some after → Pressed core after)
    (no : other = some after → Pressed core after) : Pressed core after := by
  split at returned
  · rename_i holds
    exact yes holds returned
  · exact no returned

/-- A call that moves the piece and leaves the ticks. -/
theorem pressed_of_play {board : Board} {placed : Bool} (turn : Turn)
    (running : core.gameState = .RUNNING) (played : core.board.play turn = some (board, placed))
    (same : some { core with board := board } = some after) : Pressed core after :=
  Option.some.inj same ▸ .played turn core.tickCounter running played

theorem pressed_of_handleInput (returned : core.handleInput key? random = some after) :
    Pressed core after := by
  cases key? with
  | none => exact pressed_of_some returned
  | some key =>
      rw [Core.handleInput] at returned
      refine pressed_of_ite returned (fun _ started => ?start) fun returned => ?_
      case start =>
        obtain rfl := Option.some.inj started
        exact .state .RUNNING fun stopped => absurd stopped (by decide)
      refine pressed_of_ite returned (fun _ home =>
        pressed_of_ite home (fun running both => ?drop) pressed_of_some) fun returned => ?_
      case drop =>
        obtain ⟨board, dropped, same⟩ := Option.bind_eq_some_iff.mp both
        obtain rfl := Option.some.inj same
        exact .played ⟨.drop, random⟩ _ running (congrArg (Option.map (·, true)) dropped)
      refine pressed_of_ite returned (fun _ up => pressed_of_ite up
        (pressed_of_play ⟨.left, random⟩ · rfl) pressed_of_some) fun returned => ?_
      refine pressed_of_ite returned (fun _ down => pressed_of_ite down
        (pressed_of_play ⟨.right, random⟩ · rfl) pressed_of_some) fun returned => ?_
      refine pressed_of_ite returned (fun _ left => ?exit) fun returned => ?_
      case exit =>
        obtain rfl := Option.some.inj left
        exact .state .EXIT fun stopped => absurd stopped (by decide)
      refine pressed_of_ite returned (fun _ enter =>
        pressed_of_ite enter (fun running both => ?down) pressed_of_some) fun returned => ?_
      case down =>
        obtain ⟨⟨board, moved⟩, lower, same⟩ := Option.bind_eq_some_iff.mp both
        have down : core.board.play ⟨.down, random⟩ = some (board, !moved) := by
          rw [Board.play, lower]
          rfl
        cases moved with
        | true => exact pressed_of_play ⟨.down, random⟩ running down same
        | false =>
            obtain rfl := Option.some.inj same
            exact .played ⟨.down, random⟩ _ running down
      refine pressed_of_ite returned (fun _ tab => pressed_of_ite tab
        (pressed_of_play ⟨.rotate, random⟩ · rfl) pressed_of_some) fun returned => ?_
      refine pressed_of_ite returned (fun _ back =>
        pressed_of_ite back (fun _ toggled => ?toggle) pressed_of_some) pressed_of_some
      case toggle =>
        obtain rfl := Option.some.inj toggled
        refine .state _ fun stopped => ?_
        split at stopped
        · exact absurd stopped (by decide)
        · exact absurd stopped (by decide)

/-- A call changes the board only if the game is running, or by the tick of a window. -/
theorem Pressed.unchanged (pressed : Pressed core after) (stopped : core.gameState ≠ .RUNNING) :
    Unchanged core.board after.board := by
  cases pressed with
  | state => exact ⟨rfl, rfl, rfl, rfl⟩
  | played _ _ running => exact absurd running stopped

theorem Pressed.steady (pressed : Pressed core after) (steady : Steady core) : Steady after := by
  cases pressed with
  | state state kept =>
      exact ⟨steady.sound, steady.level, fun stopped =>
        steady.ticks (by rw [kept stopped]; exact stopped)⟩
  | played turn ticks running returned =>
      obtain ⟨settled, sound⟩ := steady.sound
      obtain ⟨board, placed, returned', played⟩ := sound.play turn
      obtain ⟨rfl, rfl⟩ := Prod.mk.inj (Option.some.inj (returned'.symm.trans returned))
      refine ⟨played.sound, played.level.trans steady.level, fun stopped => ?_⟩
      rw [running] at stopped
      exact absurd stopped (by decide)

theorem Steady.timerCallback (steady : Steady core) : Steady core.timerCallback := by
  rw [Core.timerCallback]
  split
  · rename_i ticking
    refine ⟨steady.sound, steady.level, fun stopped => ?_⟩
    rw [ticking.1] at stopped
    exact absurd stopped (by decide)
  · exact steady

theorem unchanged_timerCallback (core : Core) : Unchanged core.board core.timerCallback.board := by
  rw [Core.timerCallback]
  split <;> exact ⟨rfl, rfl, rfl, rfl⟩

/-- The state in which the window is drawn. -/
def Core.drawnState (core : Core) : GameState :=
  if core.gameState = .RUNNING ∧ core.board.blocked then .OVER else core.gameState

/-- What `drawWindow` does. -/
inductive Drawn (core : Core) : Core → Prop
  | waited : core.tickCounter ≠ 0 → Drawn core { core with gameState := core.drawnState }
  | ticked {board : Board} {moved : Bool} (random : Tetrimino) : core.tickCounter = 0 →
      core.board.movePieceDown random = some (board, moved) →
      Drawn core (Core.resetTickCounter
        { core with gameState := core.drawnState, board := board })

theorem drawn_of_drawWindow (returned : core.drawWindow random = some after) :
    Drawn core after := by
  have drawn : (if core.gameState = .RUNNING ∧ core.board.blocked then core.gameOver else core) =
      { core with gameState := core.drawnState } := by
    rw [Core.drawnState]
    split <;> rfl
  rw [Core.drawWindow, drawn] at returned
  split at returned
  · rename_i none
    obtain ⟨⟨board, moved⟩, lower, same⟩ := Option.bind_eq_some_iff.mp returned
    obtain rfl := Option.some.inj same
    exact .ticked random none lower
  · rename_i left
    obtain rfl := Option.some.inj returned
    exact .waited left

theorem drawnState_running (ended : core.drawnState = .OVER) (running : core.gameState = .RUNNING) :
    core.board.blocked = true := by
  rw [Core.drawnState] at ended
  split at ended
  · rename_i ending
    exact ending.2
  · rw [running] at ended
    cases ended

theorem drawnState_eq_over (running : core.gameState = .RUNNING)
    (blocked : core.board.blocked = true) : core.drawnState = .OVER :=
  if_pos ⟨running, blocked⟩

/-- With no tick left, the game is stopped exactly if it is paused or to end. -/
theorem Steady.stopped_iff (steady : Steady core) (none : core.tickCounter = 0)
    (state : after.gameState = core.drawnState) :
    Stopped ⟨core, .drawWindow random, after⟩ ↔ LateTick ⟨core, .drawWindow random, after⟩ := by
  constructor
  · rintro (paused | ended | waiting | ⟨-, running, ended⟩)
    · exact ⟨trivial, none, .inl paused⟩
    · exact absurd none (steady.ticks (.inr ended))
    · exact absurd none (steady.ticks (.inl waiting))
    · exact ⟨trivial, none, .inr ⟨running, drawnState_running (state.symm.trans ended) running⟩⟩
  · rintro ⟨-, -, paused | ⟨running, blocked⟩⟩
    · exact .inl paused
    · exact .inr (.inr (.inr ⟨trivial, running, state.trans (drawnState_eq_over running blocked)⟩))

theorem Drawn.frozen_iff (drawn : Drawn core after) (steady : Steady core) :
    Frozen ⟨core, .drawWindow random, after⟩ ↔
      (LateTick ⟨core, .drawWindow random, after⟩ → core.board.AtRest) := by
  cases drawn with
  | waited left =>
      constructor
      · exact fun _ late => absurd late.2.1 left
      · exact fun _ _ => ⟨rfl, rfl, rfl, rfl⟩
  | ticked random none returned =>
      obtain ⟨settled, sound⟩ := steady.sound
      obtain ⟨board, moved, returned', down⟩ := sound.movePieceDown random
      obtain ⟨rfl, rfl⟩ := Prod.mk.inj (Option.some.inj (returned'.symm.trans returned))
      exact imp_congr (steady.stopped_iff none rfl) (down.unchanged_iff sound)

theorem Drawn.steady (drawn : Drawn core after) (steady : Steady core) : Steady after := by
  cases drawn with
  | waited left => exact ⟨steady.sound, steady.level, fun _ => left⟩
  | ticked random none returned =>
      obtain ⟨settled, sound⟩ := steady.sound
      obtain ⟨board, moved, returned', down⟩ := sound.movePieceDown random
      obtain ⟨rfl, rfl⟩ := Prod.mk.inj (Option.some.inj (returned'.symm.trans returned))
      have played := down.played sound (moved_zero _).symm ⟨rfl, rfl⟩
      have level : board.level = 1 := played.level.trans steady.level
      refine ⟨played.sound, level, fun _ => ?_⟩
      rw [Core.resetTickCounter, level]
      exact (by decide : (GAME_REFRESH_PERIOD * (11 - 1)).tdiv 10 ≠ 0)

/-- A call that is no `drawWindow`. -/
theorem frozen_iff_of_not_drawWindow (other : ¬ call.IsDrawWindow)
    (unchanged : core.gameState ≠ .RUNNING → Unchanged core.board after.board) :
    Frozen ⟨core, call, after⟩ ↔ (LateTick ⟨core, call, after⟩ → core.board.AtRest) := by
  constructor
  · exact fun _ late => absurd late.1 other
  · rintro - (paused | ended | waiting | ⟨drawing, _⟩)
    · exact unchanged (by rw [paused]; decide)
    · exact unchanged (by rw [ended]; decide)
    · exact unchanged (by rw [waiting]; decide)
    · exact absurd drawing other

/-- One call. -/
theorem Steady.calls (steady : Steady core) (calls : Calls core call after) :
    (Frozen ⟨core, call, after⟩ ↔ (LateTick ⟨core, call, after⟩ → core.board.AtRest)) ∧
      Steady after := by
  cases call with
  | timerCallback =>
      obtain rfl := Option.some.inj calls
      exact ⟨frozen_iff_of_not_drawWindow id fun _ => unchanged_timerCallback core,
        steady.timerCallback⟩
  | handleInput key? random =>
      have pressed := pressed_of_handleInput calls
      exact ⟨frozen_iff_of_not_drawWindow id pressed.unchanged, pressed.steady steady⟩
  | drawWindow random =>
      have drawn := drawn_of_drawWindow calls
      exact ⟨drawn.frozen_iff steady, drawn.steady steady⟩

theorem steady_constructCore (active spare next : Tetrimino) :
    Steady (.constructCore active spare next) where
  sound := ⟨_, sound_start active spare next⟩
  level := rfl
  ticks _ := (by decide : GAME_REFRESH_PERIOD ≠ 0)

end Calls

/-- The board is frozen whenever the game is not running, exactly if no tick comes late to a
piece that is not at rest. -/
theorem boardFrozen_iff {active spare next : Tetrimino} {steps : List (Step Core Call)}
    (run : Run Calls (.constructCore active spare next) steps) :
    (∀ t ∈ steps, Frozen t) ↔ ∀ t ∈ steps, LateTick t → t.before.board.AtRest :=
  run.forall_iff (steady_constructCore active spare next)
    (fun _ _ _ steady calls => (steady.calls calls).1)
    fun _ _ _ steady calls _ => (steady.calls calls).2

/-- The game is started, and the window drawn. -/
theorem boardFrozen_iff_started :
    let started := (Core.constructCore .I .O .T).startGame
    let steps : List (Step Core Call) := [
      ⟨.constructCore .I .O .T, .handleInput (some ⟨0, CHAR_TAB⟩) .L, started⟩,
      ⟨started, .drawWindow .L, started⟩]
    (∀ t ∈ steps, Frozen t) ↔ ∀ t ∈ steps, LateTick t → t.before.board.AtRest :=
  boardFrozen_iff (.cons rfl (.cons rfl (.nil _)))

/-- The timer runs until no tick is left. -/
theorem exists_run_of_ticks {core : Core} {steps : List (Step Core Call)} (n : Nat)
    (running : core.gameState = .RUNNING) (left : core.tickCounter = n)
    (rest : Run Calls { core with tickCounter := 0 } steps) :
    ∃ all, Run Calls core all ∧ steps ⊆ all := by
  induction n generalizing core with
  | zero =>
      obtain ⟨state, board, ticks⟩ := core
      obtain rfl : ticks = 0 := left
      exact ⟨steps, rest, List.Subset.refl steps⟩
  | succ n ih =>
      let next : Core := { core with tickCounter := n }
      have ticked : Calls core .timerCallback next := by
        have less : core.tickCounter - 1 = n := by omega
        rw [Calls, Core.call, Core.timerCallback, if_pos ⟨running, by omega⟩, less]
      obtain ⟨all, run, found⟩ := @ih next running rfl rest
      exact ⟨_, .cons ticked run, fun t member => List.mem_cons_of_mem _ (found member)⟩

/-- The game is paused when the last tick has come, and the window is drawn. -/
theorem not_boardFrozen :
    ¬ ∀ (active spare next : Tetrimino) (steps : List (Step Core Call)),
      Run Calls (.constructCore active spare next) steps → ∀ t ∈ steps, Frozen t := by
  intro claim
  let started := (Core.constructCore .I .O .T).startGame
  let paused : Core := { started with gameState := .PAUSED, tickCounter := 0 }
  let key (char : U16) : Call := .handleInput (some ⟨0, char⟩) .L
  have rest : Run Calls { started with tickCounter := 0 } [
      ⟨_, key CHAR_BACKSPACE, paused⟩,
      ⟨paused, .drawWindow .L, Core.resetTickCounter
        { paused with
          board := (paused.board.markFieldsOccupiedByPiece EMPTY_FIELD).redrawMoved 0 1 }⟩] :=
    .cons rfl (.cons rfl (.nil _))
  obtain ⟨all, run, found⟩ := exists_run_of_ticks 35 rfl rfl rest
  have start : Calls (.constructCore .I .O .T) (key CHAR_TAB) started := rfl
  have frozen := claim .I .O .T _ (.cons start run) _
    (List.mem_cons_of_mem _ (found (List.mem_cons_of_mem _ List.mem_cons_self))) (.inl rfl)
  have lower := congrArg (fun piece => piece.pos.y) frozen.activePiece
  exact absurd lower (by decide)

end HtcLeo.Tetris
