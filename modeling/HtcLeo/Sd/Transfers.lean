import HtcLeo.Poll.Stream
import HtcLeo.Sd.Polled
import HtcLeo.Word.Memory

/-!
# What goes over the bus

The accesses of a log fall into phases: a command, and the words that move through the
FIFO before the next one.  A block adds one phase with its address and at most 128
words, and a run of blocks adds the phases of its blocks in order.  This holds for any
status words.
-/

namespace HtcLeo.Sd

open Poll Flags Memory

/-! ## Phases -/

/-- A command with the words that move before the next one, in order. -/
structure Phase where
  index : U32
  argument : U32
  words : List U32
  deriving DecidableEq, Repr

/-- The argument register, and the phases so far, newest first. -/
structure History where
  argument : U32
  phases : List Phase

/-- A command is sent. -/
def History.commanded (history : History) (cmd : U32) : History :=
  { history with
    phases := ⟨cmd &&& MCI_CMD_CMD_INDEX, history.argument, []⟩ :: history.phases }

/-- Words move through the FIFO. -/
def History.moving (history : History) (words : List U32) : History :=
  { history with
    phases := history.phases.modifyHead fun phase =>
      { phase with words := phase.words ++ words } }

theorem History.moving_nil (history : History) : history.moving [] = history := by
  rcases history with ⟨argument, _ | ⟨phase, earlier⟩⟩
  · rfl
  · rw [moving, List.modifyHead_cons, List.append_nil]

theorem History.moving_moving (history : History) (words more : List U32) :
    (history.moving words).moving more = history.moving (words ++ more) := by
  simp only [moving, List.modifyHead_modifyHead, Function.comp_def, List.append_assoc]

/-- What the accesses of a log amount to. -/
def history (port : Port) : List BusOp → History
  | [] => ⟨0, []⟩
  | .readFifo :: log => (history port log).moving [port.fifo log]
  | .write .fifo value :: log => (history port log).moving [value]
  | .write .argument value :: log => { history port log with argument := value }
  | .write .cmd value :: log => (history port log).commanded value
  | .write _ _ :: log => history port log

/-- A block is read or written. -/
def Phase.isTransfer (phase : Phase) : Bool :=
  phase.index == CMD17 || phase.index == CMD24

/-- The blocks of a history, oldest first. -/
def History.transfers (history : History) : List Phase :=
  (history.phases.filter Phase.isTransfer).reverse

/-- The blocks so far. -/
def transfers (port : Port) (sd : Sdcc) : List Phase :=
  (history port sd.log).transfers

theorem History.transfers_commanded (history : History) {cmd : U32} (arg : U32)
    (other : Phase.isTransfer ⟨cmd &&& MCI_CMD_CMD_INDEX, 0, []⟩ = false) :
    (commanded { history with argument := arg } cmd).transfers = history.transfers :=
  congrArg List.reverse (List.filter_cons_of_neg (Bool.eq_false_iff.mp other))

/-- The command index of a transfer. -/
def Direction.index : Direction → U32
  | .read => CMD17
  | .write => CMD24

/-! ## What a transfer leaves alone -/

/-- What is seen of a transfer. -/
structure Record where
  history : History
  memory : Nat → U32
  highCapacity : Bool

/-- What a run has done so far. -/
def record (port : Port) (sd : Sdcc) : Record :=
  ⟨history port sd.log, sd.memory, sd.highCapacity⟩

section Frames

variable {port : Port} {status : Poll U32 Sdcc U32}

theorem record_readStatus : Frames (record port) readStatus :=
  frames_bind frames_next fun _ => frames_bind frames_get fun _ =>
    frames_bind (frames_modify fun _ => rfl) fun _ => frames_pure _

theorem record_next : Frames (record port) (next : Poll U32 Sdcc U32) :=
  frames_next

theorem record_clear (mask : U32) : Frames (record port) (writeReg .clear mask) :=
  frames_modify fun _ => rfl

end Frames

/-! ## The words of a block -/

/-- The words of a buffer have moved: they are what the buffer holds afterwards, and only
a read changes it. -/
structure Direction.Moved (direction : Direction) (before after : Nat → U32) (pointer : Nat)
    (words : List U32) : Prop where
  held : cells after pointer words.length = words
  outside : ∀ i, i < pointer ∨ pointer + words.length ≤ i → after i = before i
  source : direction = .write → after = before

theorem Direction.moved_nil (direction : Direction) (memory : Nat → U32) (pointer : Nat) :
    direction.Moved memory memory pointer [] :=
  ⟨rfl, fun _ _ => rfl, fun _ => rfl⟩

section Words

variable {before after : Nat → U32} {pointer : Nat} {words : List U32}

/-- One more word is stored. -/
theorem Direction.Moved.store (moved : Direction.read.Moved before after pointer words)
    (word : U32) :
    Direction.read.Moved before (Function.update after (pointer + words.length) word) pointer
      (words ++ [word]) := by
  constructor
  · have same : cells (Function.update after (pointer + words.length) word) pointer
        words.length = words := by
      rw [cells_congr fun i _ below => Function.update_of_ne (Nat.ne_of_lt below) _ _]
      exact moved.held
    rw [List.length_append, cells_append, same]
    exact congrArg (fun last => words ++ [last]) (Function.update_self ..)
  · intro i other
    rw [List.length_append, List.length_singleton] at other
    rw [Function.update_of_ne (show i ≠ pointer + words.length by omega)]
    exact moved.outside i (by omega)
  · exact nofun

/-- One more word is sent. -/
theorem Direction.Moved.send (moved : Direction.write.Moved before after pointer words) :
    Direction.write.Moved before after pointer
      (words ++ [after (pointer + words.length)]) := by
  constructor
  · rw [List.length_append, cells_append, moved.held]
    rfl
  · exact fun i _ => congrFun (moved.source rfl) i
  · exact moved.source

end Words

/-- After `words`, counted from a state in which the phase had none. -/
structure Reached (port : Port) (direction : Direction) (start : Record) (pointer : Nat)
    (words : List U32) (sd : Sdcc) : Prop where
  few : words.length ≤ 128
  phases : history port sd.log = start.history.moving words
  moved : direction.Moved start.memory sd.memory pointer words
  highCapacity : sd.highCapacity = start.highCapacity

/-- A loop over the words of a block has moved some of them. -/
def Underway (port : Port) (direction : Direction) (start : Record) (pointer : Nat)
    (at_ : Nat × Nat) (sd : Sdcc) : Prop :=
  ∃ words, at_ = (4 * words.length, pointer + words.length) ∧
    Reached port direction start pointer words sd

/-- It has ended, after all of them if it succeeded. -/
def Left (port : Port) (direction : Direction) (start : Record) (pointer : Nat) (ok : Bool)
    (sd : Sdcc) : Prop :=
  ∃ words, (ok = true → words.length = 128) ∧ Reached port direction start pointer words sd

section Rounds

variable {port : Port} {status : Poll U32 Sdcc U32} {direction : Direction} {start : Record}
  {pointer : Nat} {words : List U32} {sd sd' : Sdcc}

theorem Reached.of_record (reached : Reached port direction start pointer words sd)
    (same : record port sd' = record port sd) :
    Reached port direction start pointer words sd' where
  few := reached.few
  phases := (congrArg Record.history same).trans reached.phases
  moved := by
    have memory : sd'.memory = sd.memory := congrArg Record.memory same
    rw [memory]
    exact reached.moved
  highCapacity := (congrArg Record.highCapacity same).trans reached.highCapacity

theorem reached_nil (same : record port sd = start) :
    Reached port direction start pointer [] sd := by
  subst same
  exact ⟨Nat.zero_le _, (History.moving_nil _).symm, direction.moved_nil _ _, rfl⟩

/-- A word that is there goes to the buffer. -/
theorem Reached.drain (reached : Reached port .read start pointer words sd)
    (room : words.length < 128) :
    Reached port .read start pointer (words ++ [port.fifo sd.log])
      { sd with
        log := .readFifo :: sd.log
        memory := Function.update sd.memory (pointer + words.length) (port.fifo sd.log) } where
  few := by
    rw [List.length_append]
    exact room
  phases := by
    rw [← History.moving_moving, ← reached.phases]
    rfl
  moved := reached.moved.store _
  highCapacity := reached.highCapacity

/-- A word of the buffer goes to the card. -/
theorem Reached.fill (reached : Reached port .write start pointer words sd)
    (room : words.length < 128) :
    Reached port .write start pointer (words ++ [sd.memory (pointer + words.length)])
      (sd.wrote .fifo (sd.memory (pointer + words.length))) where
  few := by
    rw [List.length_append]
    exact room
  phases := by
    rw [← History.moving_moving, ← reached.phases]
    rfl
  moved := reached.moved.send
  highCapacity := reached.highCapacity

/-- One more word for the loop. -/
theorem Reached.underway {word : U32}
    (reached : Reached port direction start pointer (words ++ [word]) sd) :
    Underway port direction start pointer (4 * words.length + 4, pointer + words.length + 1)
      sd := by
  refine ⟨_, ?_, reached⟩
  rw [List.length_append, List.length_singleton, Nat.mul_succ, Nat.add_assoc]

variable (quiet : Frames (record port) status)

include quiet

theorem readRound_reaches (at_ : Nat × Nat) :
    Triple (Underway port .read start pointer at_) (Polled.readRound status port at_)
      (Sum.elim (Underway port .read start pointer) (Left port .read start pointer)) := by
  rintro sd tape result final rest ⟨words, rfl, reached⟩ returned
  rw [Polled.readRound] at returned
  split at returned
  case isTrue room =>
    rcases bind_eq_some_iff.mp returned with ⟨word, middle, left, read, returned⟩
    have reached := reached.of_record (quiet read)
    split at returned
    · cases returned
      exact (reached.drain (by omega)).underway
    · split at returned
      · cases returned
        exact ⟨words, Bool.false_ne_true.elim, reached⟩
      · cases returned
        exact ⟨words, rfl, reached⟩
  case isFalse full =>
    cases returned
    have few := reached.few
    exact ⟨words, fun _ => by omega, reached⟩

theorem writeRound_reaches (at_ : Nat × Nat) :
    Triple (Underway port .write start pointer at_) (Polled.writeRound status at_)
      (Sum.elim (Underway port .write start pointer) (Left port .write start pointer)) := by
  rintro sd tape result final rest ⟨words, rfl, reached⟩ returned
  rw [Polled.writeRound] at returned
  split at returned
  case isTrue room =>
    rcases bind_eq_some_iff.mp returned with ⟨word, middle, left, read, returned⟩
    have reached := reached.of_record (quiet read)
    cases full : test word MCI_STATUS_TXFIFO_FULL with
    | true =>
        rw [full] at returned
        cases returned
        split
        · exact ⟨words, Bool.false_ne_true.elim, reached⟩
        · exact ⟨words, rfl, reached⟩
    | false =>
        rw [full] at returned
        cases returned
        have reached := reached.fill (by omega)
        split
        · exact ⟨_, Bool.false_ne_true.elim, reached⟩
        · exact reached.underway
  case isFalse full =>
    cases returned
    have few := reached.few
    exact ⟨words, fun _ => by omega, reached⟩

end Rounds

/-! ## Blocks -/

/-- One block has gone over the bus. -/
structure Transferred (port : Port) (direction : Direction) (blockNumber : U32) (pointer : Nat)
    (words : List U32) (before after : Sdcc) : Prop where
  few : words.length ≤ 128
  added : transfers port after = transfers port before ++
    [⟨direction.index, blockAddress before.highCapacity blockNumber, words⟩]
  moved : direction.Moved before.memory after.memory pointer words
  highCapacity : after.highCapacity = before.highCapacity

section Blocks

variable {port : Port} {status : Poll U32 Sdcc U32} {direction : Direction} {pointer : Nat}
  {words : List U32} {blockNumber cmd : U32} {sd final : Sdcc} {tape rest : List U32} {ok : Bool}

/-- The record when the command of a block has been sent. -/
def Sdcc.opened (port : Port) (blockNumber cmd : U32) (sd : Sdcc) : Record :=
  { record port sd with
    history := History.commanded
      { history port sd.log with argument := blockAddress sd.highCapacity blockNumber } cmd }

theorem Reached.transferred (isBlock : cmd &&& MCI_CMD_CMD_INDEX = direction.index)
    (reached : Reached port direction (sd.opened port blockNumber cmd) pointer words final) :
    Transferred port direction blockNumber pointer words sd final where
  few := reached.few
  added := by
    have seen : Phase.isTransfer
        ⟨direction.index, blockAddress sd.highCapacity blockNumber, words⟩ = true := by
      cases direction <;> rfl
    rw [transfers, reached.phases]
    simp only [History.transfers, Sdcc.opened, record, History.commanded, History.moving, isBlock,
      List.modifyHead_cons, List.nil_append, List.filter_cons_of_pos seen, List.reverse_cons]
    rfl
  moved := reached.moved
  highCapacity := reached.highCapacity

/-- The blocks so far, and what they work on. -/
def Record.traffic (seen : Record) : List Phase × (Nat → U32) × Bool :=
  (seen.history.transfers, seen.memory, seen.highCapacity)

theorem Transferred.of_traffic {sd' : Sdcc}
    (transferred : Transferred port direction blockNumber pointer words sd final)
    (same : (record port sd').traffic = (record port final).traffic) :
    Transferred port direction blockNumber pointer words sd sd' where
  few := transferred.few
  added := (congrArg Prod.fst same).trans transferred.added
  moved := by
    have memory : sd'.memory = final.memory := congrArg (·.2.1) same
    rw [memory]
    exact transferred.moved
  highCapacity := (congrArg (·.2.2) same : sd'.highCapacity = _).trans transferred.highCapacity

variable (quiet : Frames (record port) status)

include quiet

/-- The end of a block adds nothing. -/
theorem Reached.checked {start : Record} {errors cleared : U32}
    (reached : Reached port direction start pointer words sd)
    (returned : Polled.checkClearStatus status errors cleared sd tape = some (ok, final, rest)) :
    Reached port direction start pointer words final :=
  reached.of_record (Polled.frames_checkClearStatus quiet record_clear errors cleared returned)

/-- Asking for the card's status is no transfer. -/
theorem traffic_awaitProgDone {rca : BitVec 16}
    (returned : Polled.awaitProgDone status port rca sd tape = some (ok, final, rest)) :
    (record port final).traffic = (record port sd).traffic := by
  rw [Polled.awaitProgDone_frames quiet record_clear returned]
  exact congrArg (fun blocks => (blocks, sd.memory, sd.highCapacity))
    (History.transfers_commanded (history port sd.log) _ (by decide))

/-- A block that is read, whatever the controller does. -/
theorem readABlock_transferred
    (returned : Polled.readABlock status port blockNumber pointer sd tape =
      some (ok, final, rest)) :
    ∃ words, (ok = true → words.length = 128) ∧
      Transferred port .read blockNumber pointer words sd final := by
  rw [Polled.readABlock, get_bind_apply, writeReg_bind_apply, writeReg_bind_apply,
    writeReg_bind_apply] at returned
  rcases bind_eq_some_iff.mp returned with ⟨sent, middle, left, commanded, returned⟩
  have isRead : (CMD17 ||| MCI_CMD_ENABLE ||| MCI_CMD_RESPONSE) &&& MCI_CMD_CMD_INDEX =
      Direction.read.index := by decide
  have opened : record port middle =
      sd.opened port blockNumber (CMD17 ||| MCI_CMD_ENABLE ||| MCI_CMD_RESPONSE) :=
    (Polled.sdccSendCmd_frames quiet record_clear commanded).trans rfl
  split at returned
  · cases returned
    exact ⟨[], Bool.false_ne_true.elim, (reached_nil opened).transferred isRead⟩
  · rcases bind_eq_some_iff.mp returned with ⟨emptied, drained, _, emptying, returned⟩
    obtain ⟨words, full, reached⟩ :=
      triple_loop (readRound_reaches quiet) _ ⟨[], rfl, reached_nil opened⟩ emptying
    cases emptied with
    | false =>
        cases returned
        exact ⟨words, Bool.false_ne_true.elim, reached.transferred isRead⟩
    | true =>
        have reached := reached.checked quiet returned
        exact ⟨words, fun _ => full rfl, reached.transferred isRead⟩

/-- A block that is written. -/
theorem writeABlock_transferred {rca : BitVec 16}
    (returned : Polled.writeABlock status port blockNumber pointer rca sd tape =
      some (ok, final, rest)) :
    ∃ words, (ok = true → words.length = 128) ∧
      Transferred port .write blockNumber pointer words sd final := by
  rw [Polled.writeABlock, get_bind_apply, writeReg_bind_apply, writeReg_bind_apply] at returned
  rcases bind_eq_some_iff.mp returned with ⟨sent, middle, left, commanded, returned⟩
  have isWrite : (CMD24 ||| MCI_CMD_ENABLE ||| MCI_CMD_RESPONSE) &&& MCI_CMD_CMD_INDEX =
      Direction.write.index := by decide
  have opened : record port middle =
      sd.opened port blockNumber (CMD24 ||| MCI_CMD_ENABLE ||| MCI_CMD_RESPONSE) :=
    (Polled.sdccSendCmd_frames quiet record_clear commanded).trans rfl
  split at returned
  · cases returned
    exact ⟨[], Bool.false_ne_true.elim, (reached_nil opened).transferred isWrite⟩
  · rw [writeReg_bind_apply] at returned
    rcases bind_eq_some_iff.mp returned with ⟨filled, pushed, _, filling, returned⟩
    have enabled : record port (middle.wrote .dataCtl (MCI_DATA_CTL_ENABLE ||| BLOCK_SIZE <<< 4)) =
        sd.opened port blockNumber (CMD24 ||| MCI_CMD_ENABLE ||| MCI_CMD_RESPONSE) := opened
    obtain ⟨words, full, reached⟩ :=
      triple_loop (writeRound_reaches quiet) _ ⟨[], rfl, reached_nil enabled⟩ filling
    cases filled with
    | false =>
        cases returned
        exact ⟨words, Bool.false_ne_true.elim, reached.transferred isWrite⟩
    | true =>
        rcases bind_eq_some_iff.mp returned with ⟨ended, checked, _, ending, returned⟩
        have transferred := (reached.checked quiet ending).transferred isWrite
        cases ended with
        | false =>
            cases returned
            exact ⟨words, Bool.false_ne_true.elim, transferred⟩
        | true =>
            exact ⟨words, fun _ => full rfl,
              transferred.of_traffic (traffic_awaitProgDone quiet returned)⟩

theorem aBlock_transferred
    (returned : Polled.aBlock status port direction blockNumber pointer sd tape =
      some (ok, final, rest)) :
    ∃ words, (ok = true → words.length = 128) ∧
      Transferred port direction blockNumber pointer words sd final := by
  cases direction with
  | read => exact readABlock_transferred quiet returned
  | write =>
      rw [Polled.aBlock, Polled.writeSelected, get_bind_apply] at returned
      exact writeABlock_transferred quiet returned

end Blocks

end HtcLeo.Sd
