import HtcLeo.Sd.Polled
import HtcLeo.Word.Memory

/-!
# The card behind the controller

A card follows the accesses to the controller: a block command sets where its data
phase starts, and every access to the FIFO moves one word.  A block that is read or
written moves 128 words between the card and the buffer, and a request copies one
block after the other.
-/

namespace HtcLeo.Sd

open Poll Flags Memory

/-! ## The card -/

/-- The words of a card, the argument register, and the data phase of the last
command: its command, the word it starts at, and the words moved so far. -/
structure Card where
  highCapacity : Bool
  words : Nat → U32
  argument : U32
  command : U32
  address : Nat
  moved : Nat

/-- The word that the argument of a block command stands for; it counts bytes, or
blocks on a high capacity card. -/
def wordAddress (highCapacity : Bool) (argument : U32) : Nat :=
  if highCapacity = false then argument.toNat / 4 else argument.toNat * 128

/-- The card after one operation on the bus. -/
def Card.step (op : BusOp) (card : Card) : Card :=
  match op with
  | .write .argument value => { card with argument := value }
  | .write .cmd value =>
      { card with
        command := value &&& MCI_CMD_CMD_INDEX
        address := wordAddress card.highCapacity card.argument
        moved := 0 }
  | .write .fifo value =>
      { card with
        words :=
          if card.command = CMD24 then
            Function.update card.words (card.address + card.moved) value
          else card.words
        moved := card.moved + 1 }
  | .write _ _ => card
  | .readFifo => { card with moved := card.moved + 1 }

/-- The card after the accesses of a log. -/
def Card.after (card : Card) (log : List BusOp) : Card :=
  log.foldr Card.step card

theorem Card.after_highCapacity (card : Card) (log : List BusOp) :
    (card.after log).highCapacity = card.highCapacity := by
  induction log with
  | nil => rfl
  | cons op log ih =>
      cases op with
      | readFifo => exact ih
      | write reg value => cases reg <;> exact ih

/-- During a read, the FIFO holds the next word of the card. -/
def Card.Serves (card : Card) (port : Port) : Prop :=
  ∀ log, (card.after log).command = CMD17 →
    port.fifo log = (card.after log).words ((card.after log).address + (card.after log).moved)

/-- A controller with the card behind it, and responses of its own. -/
def Card.port (card : Card) (response : List BusOp → Nat → U32) : Port where
  fifo log := (card.after log).words ((card.after log).address + (card.after log).moved)
  response

theorem Card.serves_port (card : Card) (response : List BusOp → Nat → U32) :
    card.Serves (card.port response) :=
  fun _ _ => rfl

/-! ## What a transfer sees -/

/-- What a transfer works on. -/
structure View where
  card : Card
  memory : Nat → U32
  highCapacity : Bool
  rca : BitVec 16

/-- The view of a state, with a card that was `card` before the first access. -/
def view (card : Card) (sd : Sdcc) : View where
  card := card.after sd.log
  memory := sd.memory
  highCapacity := sd.highCapacity
  rca := sd.rca

/-- A command is sent. -/
def View.commanded (view : View) (cmd arg : U32) : View :=
  { view with card := Card.step (.write .cmd cmd) (Card.step (.write .argument arg) view.card) }

theorem View.commanded_command (view : View) (cmd arg : U32) :
    (view.commanded cmd arg).card.command = cmd &&& MCI_CMD_CMD_INDEX :=
  rfl

theorem View.commanded_words (view : View) (cmd arg : U32) :
    (view.commanded cmd arg).card.words = view.card.words :=
  rfl

/-- The first words of a data phase have gone to the buffer. -/
def View.drained (view : View) (pointer count : Nat) : View :=
  { view with
    card := { view.card with moved := count }
    memory := copyRange view.card.words view.memory view.card.address pointer count }

/-- The first words of the buffer have gone to the card. -/
def View.filled (view : View) (pointer count : Nat) : View :=
  { view with
    card :=
      { view.card with
        words := copyRange view.memory view.card.words pointer view.card.address count
        moved := count } }

theorem View.drained_zero {view : View} (pointer : Nat) (none : view.card.moved = 0) :
    view.drained pointer 0 = view := by
  rw [drained, copyRange_zero, ← none]

theorem View.filled_zero {view : View} (pointer : Nat) (none : view.card.moved = 0) :
    view.filled pointer 0 = view := by
  rw [filled, copyRange_zero, ← none]

section Accesses

variable {card : Card} {port : Port} {sd final : Sdcc} {tape rest : List U32}

theorem frames_readStatus : Frames (view card) readStatus :=
  frames_bind frames_next fun _ => frames_bind frames_get fun _ =>
    frames_bind (frames_modify fun _ => rfl) fun _ => frames_pure _

theorem frames_clear (mask : U32) : Frames (view card) (writeReg .clear mask) :=
  frames_modify fun _ => rfl

theorem frames_checkClearStatus (errors cleared : U32) :
    Frames (view card) (checkClearStatus errors cleared) :=
  Polled.frames_checkClearStatus frames_readStatus frames_clear errors cleared

/-- A command starts the data phase of its argument and moves nothing. -/
theorem sdccSendCmd_view {cmd arg : U32} {sent : Bool × (Nat → U32)}
    (returned : sdccSendCmd port cmd arg sd tape = some (sent, final, rest)) :
    view card final = (view card sd).commanded cmd arg :=
  Polled.sdccSendCmd_frames frames_readStatus frames_clear returned

end Accesses

/-! ## The words of a block -/

section Rounds

variable {card : Card} {port : Port} {start : View} {pointer : Nat}

/-- A loop over the words of a block has moved some of them. -/
def Partway (card : Card) (reach : Nat → View) (pointer : Nat) (at_ : Nat × Nat) (sd : Sdcc) :
    Prop :=
  ∃ count ≤ 128, at_ = (4 * count, pointer + count) ∧ view card sd = reach count

/-- It has ended, after all of them if it succeeded. -/
def Stopped (card : Card) (reach : Nat → View) (ok : Bool) (sd : Sdcc) : Prop :=
  ∃ count ≤ 128, (ok = true → count = 128) ∧ view card sd = reach count

/-- A loop whose rounds move one word, or none, ends within a block. -/
theorem loop_stops {reach : Nat → View} {body : Nat × Nat → Poll U32 Sdcc ((Nat × Nat) ⊕ Bool)}
    (round : ∀ at_, Triple (Partway card reach pointer at_) (body at_)
      (Sum.elim (Partway card reach pointer) (Stopped card reach))) :
    Triple (fun sd => view card sd = reach 0) (loop body (0, pointer)) (Stopped card reach) :=
  (triple_loop round (0, pointer)).consequence
    (fun _ before => ⟨0, Nat.zero_le _, rfl, before⟩) fun _ _ after => after

/-- A word that is there goes to the buffer. -/
theorem drain_view (serves : card.Serves port) (reading : start.card.command = CMD17)
    {count : Nat} {sd : Sdcc} (before : view card sd = start.drained pointer count) :
    view card
        { sd with
          log := .readFifo :: sd.log
          memory := Function.update sd.memory (pointer + count) (port.fifo sd.log) } =
      start.drained pointer (count + 1) := by
  have cardBefore : card.after sd.log = { start.card with moved := count } :=
    congrArg View.card before
  have memoryBefore :
      sd.memory = copyRange start.card.words start.memory start.card.address pointer count :=
    congrArg View.memory before
  have word : port.fifo sd.log = start.card.words (start.card.address + count) := by
    rw [serves sd.log (by rw [cardBefore]; exact reading), cardBefore]
  rw [view, word, memoryBefore, update_copyRange]
  have capacity : sd.highCapacity = start.highCapacity := congrArg View.highCapacity before
  have rca : sd.rca = start.rca := congrArg View.rca before
  change View.mk (Card.step .readFifo (card.after sd.log)) _ _ _ = _
  rw [cardBefore, capacity, rca]
  rfl

/-- One round of a read. -/
theorem readRound_view (serves : card.Serves port) (reading : start.card.command = CMD17)
    (at_ : Nat × Nat) :
    Triple (Partway card (start.drained pointer) pointer at_) (readRound port at_)
      (Sum.elim (Partway card (start.drained pointer) pointer)
        (Stopped card (start.drained pointer))) := by
  rintro sd tape result final rest ⟨count, below, rfl, before⟩ returned
  rw [readRound, Polled.readRound] at returned
  split at returned
  · rcases bind_eq_some_iff.mp returned with ⟨status, middle, left, read, returned⟩
    have before : view card middle = start.drained pointer count :=
      (frames_readStatus read).trans before
    split at returned
    · cases returned
      exact ⟨count + 1, by omega, rfl, drain_view serves reading before⟩
    · split at returned
      · cases returned
        exact ⟨count, below, Bool.false_ne_true.elim, before⟩
      · cases returned
        exact ⟨count, below, rfl, before⟩
  · cases returned
    exact ⟨count, below, fun _ => by omega, before⟩

/-- A word of the buffer goes to the card. -/
theorem fill_view (writing : start.card.command = CMD24) {count : Nat} {sd : Sdcc}
    (before : view card sd = start.filled pointer count) :
    view card (sd.wrote .fifo (sd.memory (pointer + count))) =
      start.filled pointer (count + 1) := by
  have memoryBefore : sd.memory = start.memory := congrArg View.memory before
  have capacity : sd.highCapacity = start.highCapacity := congrArg View.highCapacity before
  have rca : sd.rca = start.rca := congrArg View.rca before
  have cardBefore : card.after sd.log = (start.filled pointer count).card :=
    congrArg View.card before
  change View.mk (Card.step (.write .fifo _) (card.after sd.log)) sd.memory sd.highCapacity
    sd.rca = _
  rw [cardBefore, memoryBefore, capacity, rca]
  simp only [Card.step, View.filled, if_pos writing, update_copyRange]

/-- One round of a write. -/
theorem writeRound_view (writing : start.card.command = CMD24) (at_ : Nat × Nat) :
    Triple (Partway card (start.filled pointer) pointer at_) (writeRound at_)
      (Sum.elim (Partway card (start.filled pointer) pointer)
        (Stopped card (start.filled pointer))) := by
  rintro sd tape result final rest ⟨count, below, rfl, before⟩ returned
  rw [writeRound, Polled.writeRound] at returned
  split at returned
  · rcases bind_eq_some_iff.mp returned with ⟨status, middle, left, read, returned⟩
    have before : view card middle = start.filled pointer count :=
      (frames_readStatus read).trans before
    cases full : test status MCI_STATUS_TXFIFO_FULL with
    | true =>
        rw [full] at returned
        cases returned
        split
        · exact ⟨count, below, Bool.false_ne_true.elim, before⟩
        · exact ⟨count, below, rfl, before⟩
    | false =>
        rw [full] at returned
        cases returned
        have after := fill_view writing before
        split
        · exact ⟨count + 1, by omega, Bool.false_ne_true.elim, after⟩
        · exact ⟨count + 1, by omega, rfl, after⟩
  · cases returned
    exact ⟨count, below, fun _ => by omega, before⟩

end Rounds

/-! ## Blocks -/

/-- The words of the card and those of the memory. -/
structure Contents where
  card : Nat → U32
  memory : Nat → U32

/-- The words on the card and in memory. -/
def contents (card : Card) (sd : Sdcc) : Contents where
  card := (card.after sd.log).words
  memory := sd.memory

/-- Move `count` words between the card, from `address` on, and the buffer at `pointer`. -/
def Direction.move (contents : Contents) (address pointer count : Nat) : Direction → Contents
  | .read =>
      { contents with
        memory := copyRange contents.card contents.memory address pointer count }
  | .write =>
      { contents with
        card := copyRange contents.memory contents.card pointer address count }

section Blocks

variable {card : Card} {port : Port} {sd final : Sdcc} {tape rest : List U32} {ok : Bool}

theorem contents_of_view {view' : View} (same : view card sd = view') :
    contents card sd = ⟨view'.card.words, view'.memory⟩ := by
  rw [← same]
  rfl

theorem drained_moves {final : Sdcc} {cmd arg : U32} {pointer count : Nat}
    (after : view card final = ((view card sd).commanded cmd arg).drained pointer count) :
    contents card final = Direction.read.move (contents card sd)
        (wordAddress card.highCapacity arg) pointer count ∧
      final.highCapacity = sd.highCapacity := by
  constructor
  · rw [contents_of_view after, ← card.after_highCapacity sd.log]
    rfl
  · exact congrArg View.highCapacity after

theorem filled_moves {final : Sdcc} {cmd arg : U32} {pointer count : Nat}
    (after : view card final = ((view card sd).commanded cmd arg).filled pointer count) :
    contents card final = Direction.write.move (contents card sd)
        (wordAddress card.highCapacity arg) pointer count ∧
      final.highCapacity = sd.highCapacity := by
  constructor
  · rw [contents_of_view after, ← card.after_highCapacity sd.log]
    rfl
  · exact congrArg View.highCapacity after

/-- A read moves words from the card to the buffer, all of them if it succeeds. -/
theorem readABlock_moves (serves : card.Serves port) {blockNumber : U32} {readBuffer : Nat}
    (returned : readABlock port blockNumber readBuffer sd tape = some (ok, final, rest)) :
    ∃ count ≤ 128, (ok = true → count = 128) ∧
      contents card final = Direction.read.move (contents card sd)
        (wordAddress card.highCapacity (blockAddress sd.highCapacity blockNumber)) readBuffer
        count ∧
      final.highCapacity = sd.highCapacity := by
  set start := (view card sd).commanded (CMD17 ||| MCI_CMD_ENABLE ||| MCI_CMD_RESPONSE)
    (blockAddress sd.highCapacity blockNumber)
  rw [readABlock, Polled.readABlock, get_bind_apply, writeReg_bind_apply, writeReg_bind_apply,
    writeReg_bind_apply] at returned
  rcases bind_eq_some_iff.mp returned with ⟨sent, middle, left, commanded, returned⟩
  have before : view card middle = start.drained readBuffer 0 :=
    (sdccSendCmd_view commanded).trans (View.drained_zero readBuffer rfl).symm
  split at returned
  · cases returned
    exact ⟨0, Nat.zero_le _, Bool.false_ne_true.elim, drained_moves before⟩
  · rcases bind_eq_some_iff.mp returned with ⟨emptied, drained, _, emptying, returned⟩
    have reading : start.card.command = CMD17 :=
      (View.commanded_command ..).trans (by decide)
    obtain ⟨count, below, full, after⟩ :=
      loop_stops (readRound_view serves reading) before emptying
    cases emptied with
    | false =>
        cases returned
        exact ⟨count, below, Bool.false_ne_true.elim, drained_moves after⟩
    | true =>
        have after := (frames_checkClearStatus readErrors readClears returned).trans after
        exact ⟨count, below, fun _ => full rfl, drained_moves after⟩

/-- Asking for the card's status moves nothing. -/
theorem awaitProgDone_contents {rca : BitVec 16}
    (returned : awaitProgDone port rca sd tape = some (ok, final, rest)) :
    contents card final = contents card sd ∧ final.highCapacity = sd.highCapacity := by
  have after : view card final = (view card sd).commanded
      (CMD13 ||| MCI_CMD_ENABLE ||| MCI_CMD_RESPONSE ||| MCI_CMD_PROG_ENA)
      (rca.setWidth 32 <<< 16) :=
    Polled.awaitProgDone_frames frames_readStatus frames_clear returned
  constructor
  · rw [contents_of_view after, View.commanded_words]
    rfl
  · exact congrArg View.highCapacity after

/-- A write moves words from the buffer to the card. -/
theorem writeABlock_moves {blockNumber : U32} {writeBuffer : Nat} {rca : BitVec 16}
    (returned : writeABlock port blockNumber writeBuffer rca sd tape = some (ok, final, rest)) :
    ∃ count ≤ 128, (ok = true → count = 128) ∧
      contents card final = Direction.write.move (contents card sd)
        (wordAddress card.highCapacity (blockAddress sd.highCapacity blockNumber)) writeBuffer
        count ∧
      final.highCapacity = sd.highCapacity := by
  set start := (view card sd).commanded (CMD24 ||| MCI_CMD_ENABLE ||| MCI_CMD_RESPONSE)
    (blockAddress sd.highCapacity blockNumber)
  rw [writeABlock, Polled.writeABlock, get_bind_apply, writeReg_bind_apply,
    writeReg_bind_apply] at returned
  rcases bind_eq_some_iff.mp returned with ⟨sent, middle, left, commanded, returned⟩
  have before : view card middle = start.filled writeBuffer 0 :=
    (sdccSendCmd_view commanded).trans (View.filled_zero writeBuffer rfl).symm
  split at returned
  · cases returned
    exact ⟨0, Nat.zero_le _, Bool.false_ne_true.elim, filled_moves before⟩
  · rw [writeReg_bind_apply] at returned
    rcases bind_eq_some_iff.mp returned with ⟨filled, pushed, _, filling, returned⟩
    have writing : start.card.command = CMD24 :=
      (View.commanded_command ..).trans (by decide)
    have before : view card (middle.wrote .dataCtl
        (MCI_DATA_CTL_ENABLE ||| BLOCK_SIZE <<< 4)) = start.filled writeBuffer 0 := before
    rcases loop_stops (writeRound_view writing) before filling with ⟨count, below, full, after⟩
    cases filled with
    | false =>
        cases returned
        exact ⟨count, below, Bool.false_ne_true.elim, filled_moves after⟩
    | true =>
        rcases bind_eq_some_iff.mp returned with ⟨ended, checked, _, ending, returned⟩
        have after := (frames_checkClearStatus writeErrors writeClears ending).trans after
        cases ended with
        | false =>
            cases returned
            exact ⟨count, below, Bool.false_ne_true.elim, filled_moves after⟩
        | true =>
            rcases @awaitProgDone_contents card _ _ _ _ _ _ _ returned with ⟨same, capacity⟩
            rw [same, capacity]
            exact ⟨count, below, fun _ => full rfl, filled_moves after⟩

theorem aBlock_moves (serves : card.Serves port) (direction : Direction) {blockNumber : U32}
    {buffer : Nat}
    (returned : direction.aBlock port blockNumber buffer sd tape = some (ok, final, rest)) :
    ∃ count ≤ 128, (ok = true → count = 128) ∧
      contents card final = direction.move (contents card sd)
        (wordAddress card.highCapacity (blockAddress sd.highCapacity blockNumber)) buffer
        count ∧
      final.highCapacity = sd.highCapacity := by
  cases direction with
  | read => exact readABlock_moves serves returned
  | write =>
      rw [Direction.aBlock, Polled.aBlock, Polled.writeSelected, get_bind_apply] at returned
      exact writeABlock_moves returned

end Blocks

/-! ## Requests -/

/-- How many blocks the argument of a command tells apart; a byte address has 32 bits. -/
def blockLimit (highCapacity : Bool) : Nat :=
  if highCapacity then 2 ^ 32 else 2 ^ 23

theorem wordAddress_blockAddress (highCapacity : Bool) (blockNumber : U32) :
    wordAddress highCapacity (blockAddress highCapacity blockNumber) =
      128 * (blockNumber.toNat % blockLimit highCapacity) := by
  have bound := blockNumber.isLt
  have size : BLOCK_SIZE.toNat = 512 := rfl
  cases highCapacity with
  | false =>
      rw [wordAddress, blockAddress, if_pos rfl, if_pos rfl, BitVec.toNat_mul, size, blockLimit,
        if_neg (by decide)]
      omega
  | true =>
      rw [wordAddress, blockAddress, if_neg (by decide), if_neg (by decide), blockLimit,
        if_pos rfl, Nat.mod_eq_of_lt bound, Nat.mul_comm]

/-- Where block `j` of a request is on the card, in words. -/
def blockPlace (highCapacity : Bool) (lba j : Nat) : Nat :=
  128 * ((lba + j) % blockLimit highCapacity)

theorem wordAddress_request (highCapacity : Bool) (lba : U64) (j : Nat) :
    wordAddress highCapacity
        (blockAddress highCapacity (lba.setWidth 32 + BitVec.ofNat 32 j)) =
      blockPlace highCapacity lba.toNat j := by
  have divides : blockLimit highCapacity ∣ 2 ^ 32 := by
    cases highCapacity <;> decide
  rw [wordAddress_blockAddress, BitVec.toNat_add, BitVec.toNat_setWidth, BitVec.toNat_ofNat,
    Nat.mod_mod_of_dvd _ divides, Nat.add_mod, Nat.mod_mod_of_dvd _ divides,
    Nat.mod_mod_of_dvd _ divides, ← Nat.add_mod, blockPlace]

/-- Move blocks of 128 words one after the other. -/
def Direction.moveBlocks (contents : Contents) (place pointer : Nat → Nat) (count : Nat) :
    Direction → Contents
  | .read =>
      { contents with
        memory := copyBlocks contents.card contents.memory 128 place pointer count }
  | .write =>
      { contents with
        card := copyBlocks contents.memory contents.card 128 pointer place count }

theorem Direction.moveBlocks_succ (contents : Contents) (place pointer : Nat → Nat)
    (count : Nat) (direction : Direction) :
    direction.moveBlocks contents place pointer (count + 1) =
      direction.move (direction.moveBlocks contents place pointer count) (place count)
        (pointer count) 128 := by
  cases direction <;> rfl

section Requests

variable {card : Card} {port : Port} {direction : Direction} {lba : U64} {buffer : Nat}
  {final : Sdcc} {rest : List U32}

/-- Blocks that all succeed are moved in order, from block `done` of a request on. -/
theorem blockResults_moves (serves : card.Serves port) {start : Contents} {count done : Nat}
    {sd : Sdcc} {tape : List U32}
    (capacity : sd.highCapacity = card.highCapacity)
    (before : contents card sd = direction.moveBlocks start
      (blockPlace card.highCapacity lba.toNat) (buffer + 128 * ·) done)
    (returned : blockResults (direction.aBlock port) count
      (lba.setWidth 32 + BitVec.ofNat 32 done) (buffer + 128 * done) sd tape =
        some (List.replicate count true, final, rest)) :
    contents card final = direction.moveBlocks start (blockPlace card.highCapacity lba.toNat)
      (buffer + 128 * ·) (done + count) := by
  induction count generalizing done sd tape with
  | zero =>
      cases returned
      exact before
  | succ count ih =>
      rcases bind_eq_some_iff.mp returned with ⟨ok, middle, left, moved, returned⟩
      rcases aBlock_moves serves direction moved with ⟨words, -, full, after, same⟩
      cases ok with
      | false => cases returned
      | true =>
          rcases bind_eq_some_iff.mp returned with ⟨others, last, left', moved, finished⟩
          rcases Prod.mk.inj (Option.some.inj finished) with ⟨results, finished⟩
          rcases Prod.mk.inj finished with ⟨rfl, rfl⟩
          have others : others = List.replicate count true := (List.cons.inj results).2
          rw [others] at moved
          have next : lba.setWidth 32 + BitVec.ofNat 32 done + 1 =
              lba.setWidth 32 + BitVec.ofNat 32 (done + 1) := by
            rw [BitVec.ofNat_add, ← BitVec.add_assoc]
            rfl
          rw [next, Nat.add_assoc, ← Nat.mul_succ] at moved
          rw [full rfl, before, capacity, wordAddress_request,
            ← Direction.moveBlocks_succ start _ (buffer + 128 * ·)] at after
          rw [show done + (count + 1) = done + 1 + count by omega]
          exact ih (same.trans capacity) after moved

end Requests

end HtcLeo.Sd
