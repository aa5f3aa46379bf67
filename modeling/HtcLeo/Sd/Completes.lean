import HtcLeo.Sd.Core

/-!
# Transfers that return

How the controller has to behave for a transfer to return, and what it must not do.
-/

namespace HtcLeo.Sd

open Poll Flags

/-! ## The data flags of a state -/

/-- The data flags that are set. -/
def Sdcc.leftovers (sd : Sdcc) : U32 :=
  sd.status &&& dataFlags

theorem Sdcc.test_leftovers {mask : U32} (sd : Sdcc) (part : dataFlags &&& mask = mask) :
    test sd.leftovers mask = test sd.status mask := by
  rw [leftovers, test, BitVec.and_assoc, part, test]

theorem Sdcc.wrote_status {reg : Reg} (sd : Sdcc) (value : U32) (other : reg ≠ .clear) :
    (sd.wrote reg value).status = sd.status :=
  if_neg other

theorem Sdcc.wrote_clear_status (sd : Sdcc) (mask : U32) :
    (sd.wrote .clear mask).status = clear sd.status mask :=
  rfl

theorem Sdcc.raise_zero (sd : Sdcc) : sd.raise 0 = sd := by
  cases sd
  simp [raise]

theorem Sdcc.leftovers_wrote {reg : Reg} (sd : Sdcc) (value : U32) (other : reg ≠ .clear) :
    (sd.wrote reg value).leftovers = sd.leftovers := by
  rw [leftovers, wrote_status sd value other, leftovers]

/-- Clearing other flags leaves the data flags. -/
theorem Sdcc.leftovers_clear {mask : U32} (sd : Sdcc)
    (disjoint : ~~~mask &&& dataFlags = dataFlags) :
    (sd.wrote .clear mask).leftovers = sd.leftovers := by
  rw [leftovers, wrote_clear_status, clear, BitVec.and_assoc, disjoint, leftovers]

/-- None of the flags is set. -/
def Sdcc.Lacks (sd : Sdcc) (mask : U32) : Prop :=
  test sd.status mask = false

/-- The flags that were just cleared are not set. -/
theorem Sdcc.lacks_clear {mask part : U32} (sd : Sdcc) (subset : ~~~mask &&& part = 0) :
    (sd.wrote .clear mask).Lacks part := by
  rw [Lacks, wrote_clear_status, test_clear_of_subset subset]

theorem Sdcc.Lacks.wrote {sd : Sdcc} {mask : U32} (lacks : sd.Lacks mask) (reg : Reg)
    (value : U32) : (sd.wrote reg value).Lacks mask := by
  by_cases cleared : reg = .clear
  · rw [cleared, Lacks, wrote_clear_status]
    exact test_clear_of_absent lacks value
  · rw [Lacks, wrote_status sd value cleared]
    exact lacks

theorem Sdcc.Lacks.raise {sd : Sdcc} {mask raised : U32} (lacks : sd.Lacks mask)
    (absent : test raised mask = false) : (sd.raise raised).Lacks mask := by
  rw [Lacks, Sdcc.raise, test_or, lacks, test_and_of_absent absent, Bool.or_false]

/-- The controller raises no data flag. -/
theorem Sdcc.leftovers_raise {raised : U32} (sd : Sdcc)
    (none : raised &&& stickyFlags &&& dataFlags = 0) :
    (sd.raise raised).leftovers = sd.leftovers := by
  rw [leftovers, raise, BitVec.and_or_distrib_right, none]
  exact BitVec.or_zero

theorem readStatus_cons (sd : Sdcc) (raised : U32) (tape : List U32) :
    readStatus sd (raised :: tape) = some (sd.status ||| raised, sd.raise raised, tape) :=
  rfl

theorem writeReg_bind_apply {α : Type} (reg : Reg) (value : U32) (next : Unit → Poll U32 Sdcc α)
    (sd : Sdcc) (tape : List U32) :
    (writeReg reg value >>= next) sd tape = next () (sd.wrote reg value) tape :=
  rfl

/-! ## Waiting -/

/-- A wait that ends at the first look. -/
theorem loop_readStatus {α : Type} {choose : U32 → Unit ⊕ α} {value : α} {sd : Sdcc}
    {raised : U32} (chosen : choose (sd.status ||| raised) = .inr value) (tape : List U32) :
    loop (fun _ => readStatus >>= fun status => pure (choose status)) () sd (raised :: tape) =
      some (value, sd.raise raised, tape) := by
  apply loop_of_done
  rw [bind_of_eq_some (readStatus_cons ..), chosen]
  rfl

theorem awaitSet_of_test {mask raised : U32} {sd : Sdcc}
    (set : test (sd.status ||| raised) mask = true) (tape : List U32) :
    awaitSet mask sd (raised :: tape) = some ((), sd.raise raised, tape) :=
  loop_readStatus (if_pos set) tape

theorem awaitClear_of_test {mask raised : U32} {sd : Sdcc}
    (unset : test (sd.status ||| raised) mask = false) (tape : List U32) :
    awaitClear mask sd (raised :: tape) = some ((), sd.raise raised, tape) :=
  loop_readStatus (if_neg (by rw [unset]; exact Bool.false_ne_true)) tape

/-- What was just cleared is not there at the next look. -/
theorem awaitClear_wrote {mask : U32} (sd : Sdcc) (tape : List U32) :
    awaitClear mask (sd.wrote .clear mask) (0 :: tape) =
      some ((), (sd.wrote .clear mask).raise 0, tape) := by
  apply awaitClear_of_test
  rw [test_or, Sdcc.lacks_clear sd (BitVec.not_and_self mask)]
  exact test_zero_left

/-! ## Commands -/

/-- A command whose response arrives at the first look. -/
def answeredTape : List U32 := [MCI_STATUS_CMD_RESPONSE_END, 0]

theorem sdccSendCmd_answered (port : Port) (cmd arg : U32)
    (response : test cmd MCI_CMD_RESPONSE = true) (sd : Sdcc) (tape : List U32) :
    ∃ words final,
      sdccSendCmd port cmd arg sd (answeredTape ++ tape) = some ((true, words), final, tape) ∧
        final.leftovers = sd.leftovers ∧
        final.Lacks MCI_STATUS_CMD_CRC_FAIL := by
  set start := (sd.wrote .argument arg).wrote .cmd cmd
  obtain ⟨flags, responseEnd, round⟩ : ∃ flags : CmdFlags, flags.responseEnd = true ∧
      loop (cmdRound cmd) () start (MCI_STATUS_CMD_RESPONSE_END :: 0 :: tape) =
        some (flags, start.raise MCI_STATUS_CMD_RESPONSE_END, 0 :: tape) := by
    have responseEnd : (cmdFlags cmd
        (start.status ||| MCI_STATUS_CMD_RESPONSE_END)).responseEnd = true := by
      change test (start.status ||| MCI_STATUS_CMD_RESPONSE_END) _ = true
      rw [test_or, Bool.or_eq_true]
      exact .inr (by decide)
    refine ⟨_, responseEnd, loop_readStatus (if_pos ?_) _⟩
    rw [CmdFlags.any, responseEnd, Bool.or_true]
  have succeeded : flags.succeeded cmd arg = true := by
    rw [CmdFlags.succeeded, responseEnd, Bool.true_or, Bool.true_or]
  set answered := ((start.raise MCI_STATUS_CMD_RESPONSE_END).wrote .clear
    MCI_STATUS_CMD_RESPONSE_END).raise 0
  set final := (answered.wrote .clear MCI_STATUS_CMD_TIMEOUT).wrote .clear
    MCI_STATUS_CMD_CRC_FAIL
  refine ⟨port.response final.log, final, ?_, ?_, Sdcc.lacks_clear _ (by decide)⟩
  · rw [sdccSendCmd, Polled.sdccSendCmd, writeReg_bind_apply, writeReg_bind_apply, if_pos response,
      answeredTape, List.cons_append, List.cons_append, List.nil_append,
      bind_of_eq_some round, writeReg_bind_apply, bind_of_eq_some (awaitClear_wrote ..),
      writeReg_bind_apply, writeReg_bind_apply, get_bind_apply, succeeded]
    rfl
  · rw [Sdcc.leftovers_clear _ (by decide), Sdcc.leftovers_clear _ (by decide),
      Sdcc.leftovers_raise _ (by decide), Sdcc.leftovers_clear _ (by decide),
      Sdcc.leftovers_raise _ (by decide), Sdcc.leftovers_wrote _ _ (by decide),
      Sdcc.leftovers_wrote _ _ (by decide)]

/-! ## The words of a block -/

theorem draws_readStatus : Draws readStatus :=
  draws_next.bind fun _ => shrinks_bind shrinks_get fun _ =>
    shrinks_bind (shrinks_modify _) fun _ => shrinks_pure _

theorem shrinks_readFifo (port : Port) : Shrinks (readFifo port) :=
  shrinks_bind shrinks_get fun _ => shrinks_bind (shrinks_modify _) fun _ => shrinks_pure _

theorem shrinks_pushWord (pointer : Nat) : Shrinks (pushWord pointer) :=
  shrinks_bind shrinks_get fun _ => shrinks_modify _

theorem consumes_readRound (port : Port) : Consumes (readRound port) := by
  intro at_ sd tape again middle rest returned
  rw [readRound, Polled.readRound] at returned
  split at returned
  · refine draws_readStatus.bind (fun status => shrinks_ite ?_ ?_) returned
    · exact shrinks_bind (shrinks_readFifo port) fun _ =>
        shrinks_bind (shrinks_modify _) fun _ => shrinks_pure _
    · exact shrinks_ite (shrinks_pure _) (shrinks_pure _)
  · cases returned

theorem consumes_writeRound : Consumes writeRound := by
  intro at_ sd tape again middle rest returned
  rw [writeRound, Polled.writeRound] at returned
  split at returned
  · exact draws_readStatus.bind (fun status => shrinks_bind
      (shrinks_ite (shrinks_pure _) (shrinks_pushWord _)) fun _ => shrinks_pure _) returned
  · cases returned

/-- With a word at every look, the FIFO is emptied to the last word. -/
theorem loop_readRound_available (port : Port) {count pointer left : Nat}
    (total : count + 4 * left = 512) (sd : Sdcc) (tape : List U32) :
    ∃ final, loop (readRound port) (count, pointer) sd
        (List.replicate left MCI_STATUS_RXDATA_AVLBL ++ tape) = some (true, final, tape) ∧
      final.leftovers = sd.leftovers := by
  induction left generalizing count pointer sd with
  | zero =>
      refine ⟨sd, loop_of_done ?_, rfl⟩
      rw [readRound, Polled.readRound, if_neg (by omega)]
      rfl
  | succ left ih =>
      set raised := sd.raise MCI_STATUS_RXDATA_AVLBL
      set filled : Sdcc :=
        { raised with
          log := .readFifo :: raised.log
          memory := Function.update raised.memory pointer (port.fifo raised.log) }
      have available :
          test (sd.status ||| MCI_STATUS_RXDATA_AVLBL) MCI_STATUS_RXDATA_AVLBL = true := by
        rw [test_or, Bool.or_eq_true]
        exact .inr (by decide)
      have round : readRound port (count, pointer) sd
          (List.replicate (left + 1) MCI_STATUS_RXDATA_AVLBL ++ tape) =
            some (.inl (count + 4, pointer + 1), filled,
              List.replicate left MCI_STATUS_RXDATA_AVLBL ++ tape) := by
        rw [readRound, Polled.readRound, if_pos (by omega), List.replicate_succ, List.cons_append,
          bind_of_eq_some (readStatus_cons ..), if_pos available]
        rfl
      obtain ⟨final, returned, same⟩ :=
        @ih (count + 4) (pointer + 1) (by omega) filled
      rw [loop_of_again (consumes_readRound port) round]
      exact ⟨final, returned, same.trans (Sdcc.leftovers_raise _ (by decide))⟩

/-- With room at every look and no error left over, the FIFO is filled to the last
word. -/
theorem loop_writeRound_room {count pointer left : Nat} (total : count + 4 * left = 512)
    {sd : Sdcc} (clean : sd.Lacks fillErrors) (tape : List U32) :
    ∃ final, loop writeRound (count, pointer) sd (List.replicate left 0 ++ tape) =
        some (true, final, tape) ∧ final.leftovers = sd.leftovers := by
  induction left generalizing count pointer sd with
  | zero =>
      refine ⟨sd, loop_of_done ?_, rfl⟩
      rw [writeRound, Polled.writeRound, if_neg (by omega)]
      rfl
  | succ left ih =>
      have room : test (sd.status ||| 0) MCI_STATUS_TXFIFO_FULL = false := by
        rw [test_or, sd.sticky.test_eq_false (by decide)]
        rfl
      have clean' : test (sd.status ||| 0) fillErrors = false := by
        rw [test_or, clean]
        rfl
      set pushed := sd.wrote .fifo (sd.memory pointer)
      have round : writeRound (count, pointer) sd (List.replicate (left + 1) 0 ++ tape) =
          some (.inl (count + 4, pointer + 1), pushed, List.replicate left 0 ++ tape) := by
        rw [writeRound, Polled.writeRound, if_pos (by omega), List.replicate_succ, List.cons_append,
          bind_of_eq_some (readStatus_cons ..), room, clean', Sdcc.raise_zero]
        rfl
      obtain ⟨final, returned, same⟩ := @ih (count + 4) (pointer + 1) (by omega) pushed
        (clean.wrote _ _)
      rw [loop_of_again consumes_writeRound round]
      exact ⟨final, returned, same.trans (Sdcc.leftovers_wrote sd _ (by decide))⟩

/-! ## The end of a block -/

/-- The masks of the end of a block, as the read and the write have them. -/
structure EndMasks (errors cleared : U32) : Prop where
  data : dataFlags &&& errors = errors
  blockEndApart : test MCI_STATUS_DATA_BLK_END errors = false
  dataEndApart : test MCI_STATUS_DATAEND errors = false
  keeps : ~~~cleared &&& MCI_STATUS_DATAEND = MCI_STATUS_DATAEND

theorem readMasks : EndMasks readErrors readClears :=
  ⟨by decide, by decide, by decide, by decide⟩

theorem writeMasks : EndMasks writeErrors writeClears :=
  ⟨by decide, by decide, by decide, by decide⟩

/-- A block is over as soon as `DATAEND` is there, left over or raised. -/
theorem clearStatus_returns {cleared second : U32} {sd : Sdcc}
    (dataEnd : test (sd.status ||| second) MCI_STATUS_DATAEND = true)
    (keeps : ~~~cleared &&& MCI_STATUS_DATAEND = MCI_STATUS_DATAEND) (tape : List U32) :
    ∃ final, clearStatus cleared sd (second :: 0 :: tape) = some ((), final, tape) ∧
      final.Lacks (MCI_STATUS_DATA_BLK_END ||| MCI_STATUS_DATAEND) ∧
      ∀ mask, sd.Lacks mask → test second mask = false → final.Lacks mask := by
  set ended := (sd.wrote .clear MCI_STATUS_DATA_BLK_END).wrote .clear cleared
  have dataEnd' : test (ended.status ||| second) MCI_STATUS_DATAEND = true := by
    rw [test_or] at dataEnd ⊢
    rw [Sdcc.wrote_clear_status, test_clear_of_disjoint keeps, Sdcc.wrote_clear_status,
      test_clear_of_disjoint (by decide), dataEnd]
  set final := (((ended.raise second).wrote .clear MCI_STATUS_DATAEND).raise 0).wrote .clear
    MCI_STATUS_DATA_BLK_END
  refine ⟨final, ?_, ?_, ?_⟩
  · rw [clearStatus, Polled.clearStatus, writeReg_bind_apply, writeReg_bind_apply,
      bind_of_eq_some (awaitSet_of_test dataEnd' _), writeReg_bind_apply,
      bind_of_eq_some (awaitClear_wrote ..)]
    rfl
  · have noBlockEnd : final.Lacks MCI_STATUS_DATA_BLK_END := Sdcc.lacks_clear _ (by decide)
    have noDataEnd : final.Lacks MCI_STATUS_DATAEND :=
      ((Sdcc.lacks_clear _ (by decide)).raise test_zero_left).wrote _ _
    rw [Sdcc.Lacks, test_mask_or, noBlockEnd, noDataEnd]
    rfl
  · intro mask lacks absent
    exact (((((lacks.wrote _ _).wrote _ _).raise absent).wrote _ _).raise test_zero_left).wrote _ _

/-- The wait for the end of a block, when it comes at the first look. -/
theorem loop_statusRound_ends {errors first : U32} {sd : Sdcc} (clean : sd.Lacks errors)
    (firstClean : test first errors = false)
    (blockEnd : test (sd.status ||| first) MCI_STATUS_DATA_BLK_END = true) (tape : List U32) :
    loop (statusRound errors) () sd (first :: tape) = some (true, sd.raise first, tape) := by
  apply loop_readStatus
  rw [test_or, clean, firstClean, blockEnd]
  rfl

/-- A block that ends well, with the flags left over or raised in time, leaves none of
the flags that the end of a block looks at. -/
theorem checkClearStatus_returns {errors cleared first second : U32} {sd : Sdcc}
    (clean : sd.Lacks errors) (firstClean : test first errors = false)
    (secondClean : test second errors = false)
    (blockEnd : test (sd.status ||| first) MCI_STATUS_DATA_BLK_END = true)
    (dataEnd : test (sd.status ||| second) MCI_STATUS_DATAEND = true)
    (keeps : ~~~cleared &&& MCI_STATUS_DATAEND = MCI_STATUS_DATAEND) (tape : List U32) :
    ∃ final, checkClearStatus errors cleared sd (first :: second :: 0 :: tape) =
        some (true, final, tape) ∧ final.Lacks (endFlags errors) := by
  have dataEnd' : test ((sd.raise first).status ||| second) MCI_STATUS_DATAEND = true := by
    rw [test_or] at dataEnd ⊢
    rw [Sdcc.raise, test_or, Bool.or_eq_true, Bool.or_eq_true]
    exact ((Bool.or_eq_true _ _).mp dataEnd).imp_left .inl
  rcases clearStatus_returns dataEnd' keeps tape with ⟨final, returned, noEnd, lacks⟩
  refine ⟨final, ?_, ?_⟩
  · rw [checkClearStatus, Polled.checkClearStatus,
        bind_of_eq_some (loop_statusRound_ends clean firstClean blockEnd _)]
    exact bind_of_eq_some returned
  · rw [Sdcc.Lacks, endFlags, test_mask_or, noEnd,
      lacks errors (clean.raise firstClean) secondClean]
    rfl

theorem checkClearStatus_fails {errors : U32} {sd : Sdcc} (dirty : test sd.status errors = true)
    (cleared raised : U32) (tape : List U32) :
    checkClearStatus errors cleared sd (raised :: tape) =
      some (false, sd.raise raised, tape) := by
  have round : loop (statusRound errors) () sd (raised :: tape) =
      some (false, sd.raise raised, tape) := by
    apply loop_readStatus
    apply if_pos
    rw [test_or, dirty, Bool.true_or]
  rw [checkClearStatus, Polled.checkClearStatus, bind_of_eq_some round]
  rfl

/-! ## Waiting for ever -/

/-- A wait for flags that are neither left over nor raised. -/
theorem loop_readStatus_waiting {α : Type} {choose : U32 → Unit ⊕ α} {mask : U32}
    (waits : ∀ status, test status mask = false → choose status = .inl ()) {sd : Sdcc}
    {tape : List U32} (lacks : sd.Lacks mask)
    (never : ∀ raised ∈ tape, test raised mask = false) :
    loop (fun _ => readStatus >>= fun status => pure (choose status)) () sd tape = none := by
  have consumes : Consumes fun _ : Unit => readStatus >>= fun status => pure (choose status) :=
    fun _ _ _ _ _ _ returned => draws_readStatus.bind (fun _ => shrinks_pure _) returned
  induction tape generalizing sd with
  | nil => exact loop_of_waiting rfl
  | cons raised tape ih =>
      rcases List.forall_mem_cons.mp never with ⟨absent, never⟩
      have round : (readStatus >>= fun status => pure (choose status)) sd (raised :: tape) =
          some (.inl (), sd.raise raised, tape) := by
        rw [bind_of_eq_some (readStatus_cons ..), waits _ (by rw [test_or, lacks, absent]; rfl)]
        rfl
      rw [loop_of_again consumes round]
      exact ih (lacks.raise absent) never

theorem awaitSet_waiting {mask : U32} {sd : Sdcc} {tape : List U32} (lacks : sd.Lacks mask)
    (never : ∀ raised ∈ tape, test raised mask = false) : awaitSet mask sd tape = none :=
  loop_readStatus_waiting (fun _ absent => if_neg (by rw [absent]; exact Bool.false_ne_true))
    lacks never

theorem clearStatus_waiting {sd : Sdcc} {tape : List U32} (lacks : sd.Lacks MCI_STATUS_DATAEND)
    (never : ∀ raised ∈ tape, test raised MCI_STATUS_DATAEND = false) (cleared : U32) :
    clearStatus cleared sd tape = none := by
  rw [clearStatus, Polled.clearStatus, writeReg_bind_apply, writeReg_bind_apply]
  exact bind_of_eq_none (awaitSet_waiting ((lacks.wrote _ _).wrote _ _) never)

theorem checkClearStatus_waiting {errors cleared : U32} {sd : Sdcc} {tape : List U32}
    (lacks : sd.Lacks (errors ||| MCI_STATUS_DATA_BLK_END))
    (never : ∀ raised ∈ tape, test raised (errors ||| MCI_STATUS_DATA_BLK_END) = false) :
    checkClearStatus errors cleared sd tape = none := by
  refine bind_of_eq_none (loop_readStatus_waiting (fun status absent => ?_) lacks never)
  rw [test_mask_or, Bool.or_eq_false_iff] at absent
  rw [absent.1, absent.2]
  rfl

/-! ## Whole transfers -/

/-- A transfer up to the end of its block: the command is answered, and every look at
the FIFO moves a word. -/
def readTape : List U32 := answeredTape ++ List.replicate 128 MCI_STATUS_RXDATA_AVLBL

/-- The status words of a write until its FIFO is filled. -/
def writeTape : List U32 := answeredTape ++ List.replicate 128 0

/-- After a write, the card answers the status command and is done. -/
def programmedTape : List U32 := answeredTape ++ [MCI_STATUS_PROG_DONE, 0]

/-- A read comes to the end of its block with the data flags it found. -/
theorem readABlock_reaches (port : Port) (blockNumber : U32) (readBuffer : Nat) (sd : Sdcc)
    (tape : List U32) :
    ∃ reached, readABlock port blockNumber readBuffer sd (readTape ++ tape) =
        checkClearReadStatus reached tape ∧ reached.leftovers = sd.leftovers := by
  set start := ((sd.wrote .dataTimer RD_DATA_TIMEOUT).wrote .dataLength BLOCK_SIZE).wrote
    .dataCtl (MCI_DATA_CTL_ENABLE ||| MCI_DATA_CTL_DIRECTION ||| (BLOCK_SIZE <<< 4))
  obtain ⟨words, sent, answered, sentSame, -⟩ := sdccSendCmd_answered port
    (CMD17 ||| MCI_CMD_ENABLE ||| MCI_CMD_RESPONSE) (blockAddress sd.highCapacity blockNumber)
    (by decide) start (List.replicate 128 MCI_STATUS_RXDATA_AVLBL ++ tape)
  obtain ⟨emptied, drained, emptiedSame⟩ :=
    @loop_readRound_available port 0 readBuffer 128 rfl sent tape
  refine ⟨emptied, ?_, ?_⟩
  · rw [readABlock, Polled.readABlock, get_bind_apply, writeReg_bind_apply, writeReg_bind_apply,
      writeReg_bind_apply, readTape, List.append_assoc, bind_of_eq_some answered]
    exact bind_of_eq_some drained
  · rw [emptiedSame, sentSame, Sdcc.leftovers_wrote _ _ (by decide),
      Sdcc.leftovers_wrote _ _ (by decide), Sdcc.leftovers_wrote _ _ (by decide)]

/-- A write comes to its data phase with the data flags it found. -/
theorem writeABlock_sent (port : Port) (blockNumber : U32) (writeBuffer : Nat)
    (rca : BitVec 16) (sd : Sdcc) (tape : List U32) :
    ∃ enabled, writeABlock port blockNumber writeBuffer rca sd (answeredTape ++ tape) =
        (loop writeRound (0, writeBuffer) >>= fun filled =>
          if !filled then pure false
          else checkClearWriteStatus >>= fun ended =>
            if !ended then pure false else awaitProgDone port rca) enabled tape ∧
      enabled.leftovers = sd.leftovers ∧ enabled.Lacks MCI_STATUS_CMD_CRC_FAIL := by
  set start := (sd.wrote .dataTimer WR_DATA_TIMEOUT).wrote .dataLength BLOCK_SIZE
  obtain ⟨words, sent, answered, same, noCrcFail⟩ := sdccSendCmd_answered port
    (CMD24 ||| MCI_CMD_ENABLE ||| MCI_CMD_RESPONSE) (blockAddress sd.highCapacity blockNumber)
    (by decide) start tape
  refine ⟨sent.wrote .dataCtl (MCI_DATA_CTL_ENABLE ||| (BLOCK_SIZE <<< 4)), ?_, ?_,
    noCrcFail.wrote _ _⟩
  · rw [writeABlock, Polled.writeABlock, get_bind_apply, writeReg_bind_apply, writeReg_bind_apply,
      bind_of_eq_some answered]
    rfl
  · rw [Sdcc.leftovers_wrote _ _ (by decide), same, Sdcc.leftovers_wrote _ _ (by decide),
      Sdcc.leftovers_wrote _ _ (by decide)]

/-- Without an error of the data phase it also comes to the end of its block. -/
theorem writeABlock_reaches (port : Port) (blockNumber : U32) (writeBuffer : Nat)
    (rca : BitVec 16) {sd : Sdcc}
    (clean : sd.Lacks (MCI_STATUS_DATA_TIMEOUT ||| MCI_STATUS_TX_UNDERRUN)) (tape : List U32) :
    ∃ reached, writeABlock port blockNumber writeBuffer rca sd (writeTape ++ tape) =
        (checkClearWriteStatus >>= fun ended =>
          if !ended then pure false else awaitProgDone port rca) reached tape ∧
      reached.leftovers = sd.leftovers := by
  obtain ⟨enabled, sent, same, noCrcFail⟩ :=
    writeABlock_sent port blockNumber writeBuffer rca sd (List.replicate 128 0 ++ tape)
  have noErrors : enabled.Lacks fillErrors := by
    rw [Sdcc.Lacks, ← Sdcc.test_leftovers sd (by decide), ← same,
      Sdcc.test_leftovers _ (by decide)] at clean
    rw [Sdcc.Lacks, fillErrors, BitVec.or_assoc, test_mask_or, noCrcFail, clean]
    rfl
  obtain ⟨filled, pushed, filledSame⟩ :=
    @loop_writeRound_room 0 writeBuffer 128 rfl enabled noErrors tape
  refine ⟨filled, ?_, filledSame.trans same⟩
  rw [writeTape, List.append_assoc, sent]
  exact bind_of_eq_some pushed

/-- With one, it fails at the first word. -/
theorem writeABlock_fails (port : Port) (blockNumber : U32) (writeBuffer : Nat)
    (rca : BitVec 16) {sd : Sdcc}
    (dirty : test sd.status (MCI_STATUS_DATA_TIMEOUT ||| MCI_STATUS_TX_UNDERRUN) = true)
    (tape : List U32) :
    ∃ final rest, writeABlock port blockNumber writeBuffer rca sd (writeTape ++ tape) =
      some (false, final, rest) := by
  obtain ⟨enabled, sent, same, -⟩ :=
    writeABlock_sent port blockNumber writeBuffer rca sd (List.replicate 128 0 ++ tape)
  have failing : test (enabled.status ||| 0) fillErrors = true := by
    rw [← Sdcc.test_leftovers sd (by decide), ← same, Sdcc.test_leftovers _ (by decide)] at dirty
    rw [test_or, fillErrors, BitVec.or_assoc, test_mask_or, dirty, Bool.or_true, Bool.true_or]
  have room : test (enabled.status ||| 0) MCI_STATUS_TXFIFO_FULL = false := by
    rw [test_or, enabled.sticky.test_eq_false (by decide)]
    rfl
  have round : writeRound (0, writeBuffer) enabled (List.replicate 128 0 ++ tape) =
      some (.inr false, enabled.wrote .fifo (enabled.memory writeBuffer),
        List.replicate 127 0 ++ tape) := by
    rw [writeRound, Polled.writeRound, if_pos (show 0 < 512 by decide), List.replicate_succ,
      List.cons_append, bind_of_eq_some (readStatus_cons ..), room, failing, Sdcc.raise_zero]
    rfl
  refine ⟨enabled.wrote .fifo (enabled.memory writeBuffer), List.replicate 127 0 ++ tape, ?_⟩
  rw [writeTape, List.append_assoc, sent, bind_of_eq_some (loop_of_done round)]
  rfl

theorem awaitProgDone_returns (port : Port) (rca : BitVec 16) (sd : Sdcc) (tape : List U32) :
    ∃ final, awaitProgDone port rca sd (programmedTape ++ tape) = some (true, final, tape) ∧
      final.leftovers = sd.leftovers := by
  obtain ⟨words, sent, answered, same, -⟩ := sdccSendCmd_answered port
    (CMD13 ||| MCI_CMD_ENABLE ||| MCI_CMD_RESPONSE ||| MCI_CMD_PROG_ENA) (rca.setWidth 32 <<< 16)
    (by decide) sd (MCI_STATUS_PROG_DONE :: 0 :: tape)
  have done : test (sent.status ||| MCI_STATUS_PROG_DONE) MCI_STATUS_PROG_DONE = true := by
    rw [test_or, Bool.or_eq_true]
    exact .inr (by decide)
  refine ⟨((sent.raise MCI_STATUS_PROG_DONE).wrote .clear MCI_STATUS_PROG_DONE).raise 0, ?_, ?_⟩
  · rw [awaitProgDone, Polled.awaitProgDone, programmedTape, List.append_assoc]
    refine (bind_of_eq_some answered).trans ((bind_of_eq_some (awaitSet_of_test done _)).trans ?_)
    rw [writeReg_bind_apply]
    exact bind_of_eq_some (awaitClear_wrote ..)
  · rw [Sdcc.leftovers_raise _ (by decide), Sdcc.leftovers_clear _ (by decide),
      Sdcc.leftovers_raise _ (by decide), same]

/-! ## Good transfers -/

/-- A block that ends well. -/
def endedTape : List U32 := [MCI_STATUS_DATA_BLK_END, MCI_STATUS_DATAEND, 0]

/-- The words of a read that ends well. -/
def goodReadTape : List U32 := readTape ++ endedTape

/-- The words of a write that ends well. -/
def goodWriteTape : List U32 := writeTape ++ (endedTape ++ programmedTape)

/-- Which data flags a state lacks depends only on those that are set. -/
theorem Sdcc.lacks_of_leftovers {sd sd' : Sdcc} {mask : U32} (same : sd.leftovers = sd'.leftovers)
    (part : dataFlags &&& mask = mask) (lacks : sd'.Lacks mask) : sd.Lacks mask := by
  rw [Lacks, ← test_leftovers _ part, same, test_leftovers _ part]
  exact lacks

theorem Sdcc.Lacks.part {sd : Sdcc} {mask part : U32} (lacks : sd.Lacks mask)
    (subset : mask &&& part = part) : sd.Lacks part :=
  test_eq_false_of_subset lacks subset

/-- From a state without watched flags, a good read succeeds and leaves none. -/
theorem readABlock_returns (port : Port) (blockNumber : U32) (readBuffer : Nat) {sd : Sdcc}
    (clean : sd.Lacks (endFlags readErrors)) (tape : List U32) :
    ∃ final, readABlock port blockNumber readBuffer sd (goodReadTape ++ tape) =
        some (true, final, tape) ∧ final.Lacks (endFlags readErrors) := by
  obtain ⟨reached, reaches, same⟩ :=
    readABlock_reaches port blockNumber readBuffer sd (endedTape ++ tape)
  have lacks : reached.Lacks readErrors :=
    Sdcc.lacks_of_leftovers same (by decide) (clean.part (by decide))
  rw [goodReadTape, List.append_assoc, reaches]
  exact checkClearStatus_returns lacks (by decide) (by decide) (test_or_self _ (by decide))
    (test_or_self _ (by decide)) readMasks.keeps tape

/-- So does a good write. -/
theorem writeABlock_returns (port : Port) (blockNumber : U32) (writeBuffer : Nat)
    (rca : BitVec 16) {sd : Sdcc} (clean : sd.Lacks (endFlags writeErrors)) (tape : List U32) :
    ∃ final, writeABlock port blockNumber writeBuffer rca sd (goodWriteTape ++ tape) =
        some (true, final, tape) ∧ final.Lacks (endFlags writeErrors) := by
  obtain ⟨reached, reaches, same⟩ := writeABlock_reaches port blockNumber writeBuffer rca
    (clean.part (by decide)) (endedTape ++ (programmedTape ++ tape))
  have lacks : reached.Lacks writeErrors :=
    Sdcc.lacks_of_leftovers same (by decide) (clean.part (by decide))
  obtain ⟨ended, returned, noEnd⟩ := checkClearStatus_returns lacks (by decide) (by decide)
    (test_or_self _ (by decide)) (test_or_self _ (by decide)) writeMasks.keeps
    (programmedTape ++ tape)
  rcases awaitProgDone_returns port rca ended tape with ⟨final, done, finalSame⟩
  refine ⟨final, ?_, Sdcc.lacks_of_leftovers finalSame (by decide) noEnd⟩
  rw [goodWriteTape, List.append_assoc, List.append_assoc, reaches]
  exact (bind_of_eq_some returned).trans done

/-- A block whose CRC is wrong. -/
def crcFailTape : List U32 := readTape ++ [MCI_STATUS_DATA_CRC_FAIL]

theorem readABlock_crcFail (port : Port) (blockNumber : U32) (readBuffer : Nat) (sd : Sdcc) :
    ∃ failed, readABlock port blockNumber readBuffer sd crcFailTape = some (false, failed, []) ∧
      test failed.status readErrors = true := by
  obtain ⟨reached, reaches, -⟩ :=
    readABlock_reaches port blockNumber readBuffer sd [MCI_STATUS_DATA_CRC_FAIL]
  have failing : test (reached.status ||| MCI_STATUS_DATA_CRC_FAIL) readErrors = true := by
    rw [test_or, Bool.or_eq_true]
    exact .inr (by decide)
  have round : loop (statusRound readErrors) () reached [MCI_STATUS_DATA_CRC_FAIL] =
      some (false, reached.raise MCI_STATUS_DATA_CRC_FAIL, []) :=
    loop_readStatus (if_pos failing) []
  refine ⟨_, reaches.trans (bind_of_eq_some round), failing⟩

/-- A write that runs out of words at the first one. -/
def underrunTape : List U32 := answeredTape ++ [MCI_STATUS_TX_UNDERRUN]

/-- The flag of the failure stays, and no other data flag comes. -/
theorem writeABlock_underrun (port : Port) (blockNumber : U32) (writeBuffer : Nat)
    (rca : BitVec 16) (sd : Sdcc) :
    ∃ failed, writeABlock port blockNumber writeBuffer rca sd underrunTape =
        some (false, failed, []) ∧
      test failed.status MCI_STATUS_TX_UNDERRUN = true ∧
      ∀ mask, dataFlags &&& mask = mask → test MCI_STATUS_TX_UNDERRUN mask = false →
        sd.Lacks mask → failed.Lacks mask := by
  obtain ⟨enabled, sent, same, -⟩ :=
    writeABlock_sent port blockNumber writeBuffer rca sd [MCI_STATUS_TX_UNDERRUN]
  have failing : test (enabled.status ||| MCI_STATUS_TX_UNDERRUN) fillErrors = true := by
    rw [test_or, Bool.or_eq_true]
    exact .inr (by decide)
  have room : test (enabled.status ||| MCI_STATUS_TX_UNDERRUN) MCI_STATUS_TXFIFO_FULL = false := by
    rw [test_or, enabled.sticky.test_eq_false (by decide)]
    decide
  set failed := (enabled.raise MCI_STATUS_TX_UNDERRUN).wrote .fifo (enabled.memory writeBuffer)
  have round : writeRound (0, writeBuffer) enabled [MCI_STATUS_TX_UNDERRUN] =
      some (.inr false, failed, []) := by
    rw [writeRound, Polled.writeRound, if_pos (show 0 < 512 by decide),
      bind_of_eq_some (readStatus_cons ..), room, failing]
    rfl
  refine ⟨failed, ?_, ?_, fun mask data apart lacks => ?_⟩
  · rw [underrunTape, sent, bind_of_eq_some (loop_of_done round)]
    rfl
  · rw [Sdcc.wrote_status _ _ (by decide)]
    exact test_or_self _ (by decide)
  · exact ((Sdcc.lacks_of_leftovers same data lacks).raise apart).wrote _ _

/-- A controller that answers with zeros. -/
def zeroPort : Port := ⟨fun _ => 0, fun _ _ => 0⟩

/-- The driver before the first transfer. -/
def idle : Sdcc := ⟨0, rfl, [], fun _ => 0, false, 1⟩

end HtcLeo.Sd
