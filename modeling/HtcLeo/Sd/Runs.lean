import HtcLeo.Sd.Transfers

/-!
# Runs of blocks

`mmc_bread` and `mmc_bwrite` on any sequence of status words.  When a run returns, its
blocks have gone over the bus one after the other, each of them whole except the one
that failed.  It may not return: the driver waits for flags without a limit, so it does
if the controller keeps showing them set and clear.
-/

namespace HtcLeo.Sd

open Poll Flags Memory

/-! ## Blocks in order -/

/-- The phases of blocks that follow one another. -/
def blockPhases (direction : Direction) (highCapacity : Bool) : U32 → List (List U32) → List Phase
  | _, [] => []
  | blknr, words :: blocks =>
      ⟨direction.index, blockAddress highCapacity blknr, words⟩ ::
        blockPhases direction highCapacity (blknr + 1) blocks

/-- Blocks have gone over the bus in order, with the given results and words. -/
structure Sequenced (port : Port) (direction : Direction) (blknr : U32) (buffer : Nat)
    (results : List Bool) (blocks : List (List U32)) (before after : Sdcc) : Prop where
  sizes : List.Forall₂ (fun ok words => words.length ≤ 128 ∧ (ok = true → words.length = 128))
    results blocks
  added : transfers port after = transfers port before ++
    blockPhases direction before.highCapacity blknr blocks
  held : ∀ i words, blocks[i]? = some words →
    cells after.memory (buffer + 128 * i) words.length = words
  outside : ∀ i, i < buffer ∨ buffer + 128 * blocks.length ≤ i → after.memory i = before.memory i
  source : direction = .write → after.memory = before.memory
  highCapacity : after.highCapacity = before.highCapacity

section Sequences

variable {port : Port} {direction : Direction} {blknr : U32} {buffer : Nat}
  {results : List Bool} {blocks : List (List U32)} {words : List U32} {before middle after : Sdcc}

theorem sequenced_nil (sd : Sdcc) : Sequenced port direction blknr buffer [] [] sd sd where
  sizes := .nil
  added := (List.append_nil _).symm
  held := nofun
  outside := fun _ _ => rfl
  source := fun _ => rfl
  highCapacity := rfl

/-- A block that ends the run. -/
theorem Transferred.alone {ok : Bool} (full : ok = true → words.length = 128)
    (first : Transferred port direction blknr buffer words before after) :
    Sequenced port direction blknr buffer [ok] [words] before after where
  sizes := .cons ⟨first.few, full⟩ .nil
  added := first.added
  held := by
    intro i found member
    cases i with
    | zero =>
        cases member
        exact first.moved.held
    | succ i => cases member
  outside := by
    intro i other
    have few := first.few
    rw [List.length_singleton] at other
    exact first.moved.outside i (by omega)
  source := first.moved.source
  highCapacity := first.highCapacity

/-- A block that succeeds, and the blocks after it. -/
theorem Transferred.followed (full : words.length = 128)
    (first : Transferred port direction blknr buffer words before middle)
    (others : Sequenced port direction (blknr + 1) (buffer + 128) results blocks middle after) :
    Sequenced port direction blknr buffer (true :: results) (words :: blocks) before after where
  sizes := .cons ⟨first.few, fun _ => full⟩ others.sizes
  added := by
    rw [others.added, first.added, first.highCapacity, List.append_assoc]
    rfl
  held := by
    intro i found member
    cases i with
    | zero =>
        cases member
        have kept : cells after.memory buffer words.length =
            cells middle.memory buffer words.length :=
          cells_congr fun i _ below => others.outside i (by omega)
        rw [Nat.mul_zero, Nat.add_zero, kept]
        exact first.moved.held
    | succ i =>
        have held := others.held i found member
        rw [Nat.mul_succ, Nat.add_comm _ 128, ← Nat.add_assoc]
        exact held
  outside := by
    intro i other
    rw [List.length_cons, Nat.mul_succ] at other
    rw [others.outside i (by omega)]
    exact first.moved.outside i (by omega)
  source := fun write => (others.source write).trans (first.moved.source write)
  highCapacity := others.highCapacity.trans first.highCapacity

/-- The blocks of a run are in order, whatever the controller does. -/
theorem blockResults_sequenced {status : Poll U32 Sdcc U32} (quiet : Frames (record port) status)
    {blkcnt : Nat} {sd final : Sdcc} {tape rest : List U32}
    (returned : blockResults (Polled.aBlock status port direction) blkcnt blknr buffer sd tape =
      some (results, final, rest)) :
    ∃ blocks, Sequenced port direction blknr buffer results blocks sd final := by
  induction blkcnt generalizing blknr buffer sd tape results with
  | zero =>
      cases returned
      exact ⟨[], sequenced_nil _⟩
  | succ blkcnt ih =>
      rcases bind_eq_some_iff.mp returned with ⟨ok, middle, left, moved, returned⟩
      rcases aBlock_transferred quiet moved with ⟨words, full, first⟩
      cases ok with
      | false =>
          cases returned
          exact ⟨[words], first.alone full⟩
      | true =>
          rcases bind_eq_some_iff.mp returned with ⟨results, last, _, others, finished⟩
          cases finished
          rcases ih others with ⟨blocks, others⟩
          exact ⟨words :: blocks, first.followed (full rfl) others⟩

end Sequences

/-! ## What a run returns -/

/-- A run has returned `n`: blocks `blknr` to `blknr + n - 1` went over the bus in order and
completed, and if that is not all of them, the next one failed. -/
structure InOrder (port : Port) (direction : Direction) (blknr blkcnt : U32) (buffer : Nat)
    (n : U32) (results : List Bool) (blocks : List (List U32)) (before after : Sdcc) : Prop
    extends Sequenced port direction blknr buffer results blocks before after where
  counted : n ≤ blkcnt
  completed : results = List.replicate n.toNat true ++ if n = blkcnt then [] else [false]

theorem blockRun_inOrder {status : Poll U32 Sdcc U32} {port : Port} {direction : Direction}
    (quiet : Frames (record port) status) {blknr blkcnt n : U32} {buffer : Nat}
    {sd final : Sdcc} {tape rest : List U32}
    (returned : Polled.run status port direction blknr blkcnt buffer sd tape =
      some (n, final, rest)) :
    ∃ results blocks,
      blockResults (Polled.aBlock status port direction) blkcnt.toNat blknr buffer sd tape =
        some (results, final, rest) ∧
      InOrder port direction blknr blkcnt buffer n results blocks sd final := by
  rw [Polled.run_eq, blockRun_eq] at returned
  rcases bind_eq_some_iff.mp returned with ⟨results, last, left, moved, finished⟩
  cases finished
  rcases blockResults_sequenced quiet moved with ⟨blocks, sequenced⟩
  have bound := blkcnt.isLt
  have start (counted : U32) : 0 + counted = counted := BitVec.zero_add counted
  rw [start]
  refine ⟨results, blocks, moved, sequenced, ?_, ?_⟩
  · have most := count_blockResults_le moved
    rw [BitVec.le_def, BitVec.toNat_ofNat]
    exact Nat.le_trans (Nat.mod_le _ _) most
  · rcases blockResults_shape moved with all | ⟨good, below, some⟩
    · have same : BitVec.ofNat 32 (results.count true) = blkcnt := by
        rw [all, List.count_replicate_self, BitVec.ofNat_toNat, BitVec.setWidth_eq]
      rw [same, if_pos rfl, List.append_nil]
      exact all
    · have count : (BitVec.ofNat 32 (results.count true)).toNat = good := by
        rw [some, List.count_append, List.count_replicate_self, BitVec.toNat_ofNat]
        exact Nat.mod_eq_of_lt (Nat.lt_trans below bound)
      have other : BitVec.ofNat 32 (results.count true) ≠ blkcnt := by
        rintro rfl
        omega
      rw [count, if_neg other]
      exact some

/-! ## Controllers that let the driver go on -/

/-- The flags that a transfer waits for. -/
def awaitedFlags : List U32 :=
  [MCI_STATUS_CMD_RESPONSE_END, MCI_STATUS_RXDATA_AVLBL, MCI_STATUS_TXFIFO_FULL,
    MCI_STATUS_DATA_BLK_END, MCI_STATUS_DATAEND, MCI_STATUS_PROG_DONE]

/-- Each of them is seen set, and seen clear, again and again. -/
def Lively (words : Nat → U32) : Prop :=
  ∀ mask ∈ awaitedFlags, ∀ first,
    (∃ offset, test (words (first + offset)) mask = true) ∧
      ∃ offset, test (words (first + offset)) mask = false

theorem ends_writeReg {words : Nat → U32} (reg : Reg) (value : U32) :
    Ends words (writeReg reg value) :=
  ends_modify _

section Ends

variable {words : Nat → U32} {mask : U32} (lively : Lively words)

include lively

theorem ends_awaitSet (awaited : mask ∈ awaitedFlags) :
    Ends words (Polled.awaitSet next mask) := by
  refine ends_await fun first => ?_
  rcases (lively mask awaited first).1 with ⟨offset, set⟩
  exact ⟨offset, by rw [if_pos set]; rfl⟩

theorem ends_awaitClear (awaited : mask ∈ awaitedFlags) :
    Ends words (Polled.awaitClear next mask) := by
  refine ends_await fun first => ?_
  rcases (lively mask awaited first).2 with ⟨offset, unset⟩
  exact ⟨offset, by rw [unset]; rfl⟩

/-- A command with a response is answered. -/
theorem ends_sdccSendCmd (port : Port) {cmd : U32} (arg : U32)
    (response : test cmd MCI_CMD_RESPONSE = true) :
    Ends words (Polled.sdccSendCmd next port cmd arg) := by
  have answered : Ends words (loop (Polled.cmdRound next cmd) ()) := by
    refine ends_await fun first => ?_
    rcases (lively MCI_STATUS_CMD_RESPONSE_END (by decide) first).1 with ⟨offset, set⟩
    have any : (cmdFlags cmd (words (first + offset))).any = true := by
      rw [CmdFlags.any, Bool.or_eq_true]
      exact .inr set
    exact ⟨offset, by rw [if_pos any]; rfl⟩
  rw [Polled.sdccSendCmd, if_pos response]
  exact (ends_writeReg _ _).bind fun _ => (ends_writeReg _ _).bind fun _ =>
    answered.bind fun _ => (ends_writeReg _ _).bind fun _ =>
    (ends_awaitClear lively (by decide)).bind fun _ => (ends_writeReg _ _).bind fun _ =>
    (ends_writeReg _ _).bind fun _ => ends_get.bind fun _ => ends_pure _

theorem ends_checkClearStatus (errors cleared : U32) :
    Ends words (Polled.checkClearStatus next errors cleared) := by
  have ended : Ends words (loop (Polled.statusRound next errors) ()) := by
    refine ends_await fun first => ?_
    rcases (lively MCI_STATUS_DATA_BLK_END (by decide) first).1 with ⟨offset, set⟩
    refine ⟨offset, ?_⟩
    rw [if_pos set]
    split <;> rfl
  refine ended.bind fun _ => ends_ite (ends_pure _) (Ends.bind ?_ fun _ => ends_pure _)
  exact (ends_writeReg _ _).bind fun _ => (ends_writeReg _ _).bind fun _ =>
    (ends_awaitSet lively (by decide)).bind fun _ => (ends_writeReg _ _).bind fun _ =>
    (ends_awaitClear lively (by decide)).bind fun _ => ends_writeReg _ _

/-- The FIFO is emptied: it offers a word again and again. -/
theorem ends_emptying (port : Port) (readBuffer : Nat) :
    Ends words (loop (Polled.readRound next port) (0, readBuffer)) := by
  have consumes : Consumes (Polled.readRound next port) := by
    intro at_ sd tape again middle rest returned
    rw [Polled.readRound] at returned
    split at returned
    · refine draws_next.bind (fun word => ?_) returned
      exact shrinks_ite (shrinks_bind (shrinks_bind shrinks_get fun _ =>
        shrinks_bind (shrinks_modify _) fun _ => shrinks_pure _) fun _ =>
          shrinks_bind (shrinks_modify _) fun _ => shrinks_pure _)
        (shrinks_ite (shrinks_pure _) (shrinks_pure _))
    · cases returned
  refine ends_loop (fun at_ => 512 - at_.1) (test · MCI_STATUS_RXDATA_AVLBL = true) consumes ?_
    (fun first => (lively _ (by decide) first).1) _
  intro at_ sd
  by_cases more : at_.1 < 512
  · refine .inr fun word => ?_
    simp only [Polled.readRound, if_pos more, bind_of_eq_some (next_cons ..)]
    cases test word MCI_STATUS_RXDATA_AVLBL with
    | true =>
        refine ⟨.inl (at_.1 + 4, at_.2 + 1),
          { sd with
            log := .readFifo :: sd.log
            memory := Function.update sd.memory at_.2 (port.fifo sd.log) },
          fun tape => rfl, ?_⟩
        intro again goesOn
        cases goesOn
        exact ⟨by omega, fun _ => by omega⟩
    | false =>
        cases test word MCI_STATUS_RXACTIVE with
        | true =>
            refine ⟨.inl at_, sd, fun tape => rfl, ?_⟩
            intro again goesOn
            cases goesOn
            exact ⟨Nat.le_refl _, fun set => absurd set (by decide)⟩
        | false => exact ⟨.inr false, sd, fun tape => rfl, fun _ goesOn => by cases goesOn⟩
  · exact .inl ⟨true, fun tape => by rw [Polled.readRound, if_neg more]; rfl⟩

/-- The FIFO is filled: it has room again and again. -/
theorem ends_filling (writeBuffer : Nat) :
    Ends words (loop (Polled.writeRound next) (0, writeBuffer)) := by
  have consumes : Consumes (Polled.writeRound next) := by
    intro at_ sd tape again middle rest returned
    rw [Polled.writeRound] at returned
    split at returned
    · refine draws_next.bind (fun word => ?_) returned
      exact shrinks_bind (shrinks_ite (shrinks_pure _) (shrinks_bind shrinks_get fun _ =>
        shrinks_modify _)) fun _ => shrinks_pure _
    · cases returned
  refine ends_loop (fun at_ => 512 - at_.1) (test · MCI_STATUS_TXFIFO_FULL = false) consumes ?_
    (fun first => (lively _ (by decide) first).2) _
  intro at_ sd
  by_cases more : at_.1 < 512
  · refine .inr fun word => ?_
    simp only [Polled.writeRound, if_pos more, bind_of_eq_some (next_cons ..)]
    cases test word fillErrors with
    | true =>
        cases test word MCI_STATUS_TXFIFO_FULL with
        | true => exact ⟨.inr false, sd, fun tape => rfl, fun _ goesOn => by cases goesOn⟩
        | false =>
            exact ⟨.inr false, sd.wrote .fifo (sd.memory at_.2), fun tape => rfl,
              fun _ goesOn => by cases goesOn⟩
    | false =>
        cases test word MCI_STATUS_TXFIFO_FULL with
        | true =>
            refine ⟨.inl at_, sd, fun tape => rfl, ?_⟩
            intro again goesOn
            cases goesOn
            exact ⟨Nat.le_refl _, fun set => absurd set (by decide)⟩
        | false =>
            refine ⟨.inl (at_.1 + 4, at_.2 + 1), sd.wrote .fifo (sd.memory at_.2),
              fun tape => rfl, ?_⟩
            intro again goesOn
            cases goesOn
            exact ⟨by omega, fun _ => by omega⟩
  · exact .inl ⟨true, fun tape => by rw [Polled.writeRound, if_neg more]; rfl⟩

/-- A block ends, well or not. -/
theorem ends_aBlock (port : Port) (direction : Direction) (blockNumber : U32) (buffer : Nat) :
    Ends words (Polled.aBlock next port direction blockNumber buffer) := by
  have sent (cmd arg : U32) (response : test cmd MCI_CMD_RESPONSE = true) :
      Ends words (Polled.sdccSendCmd next port cmd arg) :=
    ends_sdccSendCmd lively port arg response
  cases direction with
  | read =>
      exact ends_get.bind fun _ => (ends_writeReg _ _).bind fun _ =>
        (ends_writeReg _ _).bind fun _ => (ends_writeReg _ _).bind fun _ =>
        (sent _ _ (by decide)).bind fun _ => ends_ite (ends_pure _) <|
        (ends_emptying lively port buffer).bind fun _ => ends_ite (ends_pure _) <|
        ends_checkClearStatus lively _ _
  | write =>
      refine ends_get.bind fun _ => ends_get.bind fun _ => (ends_writeReg _ _).bind fun _ =>
        (ends_writeReg _ _).bind fun _ => (sent _ _ (by decide)).bind fun _ =>
        ends_ite (ends_pure _) <| (ends_writeReg _ _).bind fun _ =>
        (ends_filling lively buffer).bind fun _ => ends_ite (ends_pure _) <|
        (ends_checkClearStatus lively _ _).bind fun _ => ends_ite (ends_pure _) ?_
      exact (sent _ _ (by decide)).bind fun _ => ends_ite (ends_pure _) <|
        (ends_awaitSet lively (by decide)).bind fun _ => (ends_writeReg _ _).bind fun _ =>
        (ends_awaitClear lively (by decide)).bind fun _ => ends_pure _

theorem ends_run (port : Port) (direction : Direction) (blknr blkcnt : U32) (buffer : Nat) :
    Ends words (Polled.run next port direction blknr blkcnt buffer) := by
  rw [Polled.run_eq]
  generalize (0 : U32) = done
  induction blkcnt.toNat generalizing blknr buffer done with
  | zero => exact ends_pure _
  | succ blkcnt ih =>
      exact (ends_aBlock lively port direction blknr buffer).bind fun _ =>
        ends_ite (ends_pure _) (ih _ _ _)

end Ends

/-- On any status words a run of blocks is in order when it returns, and it returns if the
controller lets it. -/
theorem run_inOrder (port : Port) (direction : Direction) (blknr blkcnt : U32) (buffer : Nat)
    (sd : Sdcc) :
    (∀ tape n final rest,
      Polled.run next port direction blknr blkcnt buffer sd tape = some (n, final, rest) →
        ∃ results blocks,
          blockResults (Polled.aBlock next port direction) blkcnt.toNat blknr buffer sd tape =
            some (results, final, rest) ∧
          InOrder port direction blknr blkcnt buffer n results blocks sd final) ∧
    (∀ words, Lively words → ∃ count n final,
      Polled.run next port direction blknr blkcnt buffer sd (cells words 0 count) =
        some (n, final, [])) := by
  constructor
  · intro tape n final rest returned
    exact blockRun_inOrder record_next returned
  · intro words lively
    rcases ends_run lively port direction blknr blkcnt buffer sd 0 with
      ⟨count, n, final, returned⟩
    have returned := returned []
    rw [List.append_nil] at returned
    exact ⟨count, n, final, returned⟩

/-- One good block, and a command without an answer. -/
def partialTape : List U32 :=
  [MCI_STATUS_CMD_RESPONSE_END, 0] ++ List.replicate 128 MCI_STATUS_RXDATA_AVLBL ++
    [MCI_STATUS_DATA_BLK_END, MCI_STATUS_DATAEND, 0, MCI_STATUS_CMD_TIMEOUT, 0]

/-- All flags come and go together. -/
def blinking (i : Nat) : U32 :=
  if i % 2 = 0 then BitVec.allOnes 32 else 0

theorem lively_blinking : Lively blinking := by
  have some : ∀ mask ∈ awaitedFlags, (mask != 0#32) = true := List.all_eq_true.mp rfl
  intro mask awaited first
  constructor
  · refine ⟨first % 2, ?_⟩
    rw [blinking, if_pos (by omega), test, BitVec.allOnes_and]
    exact some mask awaited
  · refine ⟨first % 2 + 1, ?_⟩
    rw [blinking, if_neg (by omega)]
    exact test_zero_left

/-- The first of two blocks is read and the second fails; when all flags come and go, a
run returns. -/
theorem run_inOrder_partial :
    (∃ results blocks final,
      InOrder zeroPort .read 6 2 0 1 results blocks idle final) ∧
    ∃ count n final, Polled.run next zeroPort .read 6 2 0 idle (cells blinking 0 count) =
      some (n, final, []) := by
  have returned : (Polled.run next zeroPort .read 6 2 0 idle partialTape).map (·.1) = some 1 := by
    decide +kernel
  rcases Option.map_eq_some_iff.mp returned with ⟨⟨n, final, rest⟩, returned, rfl⟩
  have inOrder := run_inOrder zeroPort .read 6 2 0 idle
  rcases inOrder.1 _ _ _ _ returned with ⟨results, blocks, -, ordered⟩
  exact ⟨⟨results, blocks, final, ordered⟩, inOrder.2 blinking lively_blinking⟩

/-- A controller that shows no flag keeps a run waiting for ever. -/
theorem run_waits :
    ¬ ∃ count result, Polled.run next zeroPort .read 0 1 0 idle (List.replicate count 0) =
      some result := by
  rintro ⟨count, result, returned⟩
  rcases bind_eq_some_iff.mp returned with ⟨ok, middle, rest, moved, -⟩
  rw [Polled.readABlock, get_bind_apply, writeReg_bind_apply, writeReg_bind_apply,
    writeReg_bind_apply] at moved
  rcases bind_eq_some_iff.mp moved with ⟨sent, middle, rest, commanded, -⟩
  rw [Polled.sdccSendCmd, writeReg_bind_apply, writeReg_bind_apply, if_pos (by decide)]
    at commanded
  rcases bind_eq_some_iff.mp commanded with ⟨flags, middle, rest, answered, -⟩
  have unanswered : ∀ word ∈ List.replicate count (0 : U32),
      (if (cmdFlags (CMD17 ||| MCI_CMD_ENABLE ||| MCI_CMD_RESPONSE) word).any then
        .inr (cmdFlags (CMD17 ||| MCI_CMD_ENABLE ||| MCI_CMD_RESPONSE) word) else .inl () :
          Unit ⊕ CmdFlags) = .inl () := by
    intro word member
    rw [List.eq_of_mem_replicate member]
    rfl
  cases answered.symm.trans (await_waiting unanswered _)

end HtcLeo.Sd
