import HtcLeo.I2c.Handler

/-!
# When a returned transfer is complete

`msm_i2c_xfer` presets its result to the number of messages.  Only an error bit
in a handler run, or a `timeout` left over from an earlier transfer, changes it;
the wait ends as soon as the bus looks idle, done or not, and a bus that stays
busy is reported as a success.  The inputs for which the result nevertheless
tells the truth are described by `XferInput.Settles`.
-/

namespace HtcLeo.I2c

open Flags

/-! ## Polls -/

/-- The rounds that a poll performs: up to the first one that finds the bus idle. -/
def performed (round : Nat → PollRound) : (rounds start : Nat) → List PollRound
  | 0, _ => []
  | rounds + 1, start =>
      round start ::
        if test (round start).status I2C_STATUS_BUS_ACTIVE then
          performed round rounds (start + 1)
        else []

/-- The read of this round finds the bus active. -/
def PollRound.busy (round : PollRound) : Bool :=
  test round.status I2C_STATUS_BUS_ACTIVE

/-- The status words of a round: those of the handler runs, and the poll's own. -/
def PollRound.words (round : PollRound) : List U32 :=
  round.irqs.map Irq.status ++ [round.status]

/-- The rounds of `msm_i2c_poll_notbusy`. -/
def polled (poll : Poll) : List PollRound :=
  performed poll.round 200 0

/-- Every word that the poll itself reads says that the bus is busy. -/
def staysBusy (poll : Poll) : Bool :=
  (polled poll).all PollRound.busy

/-- The status words of a poll: those of its rounds, and those of the late handler runs. -/
def pollWords (poll : Poll) : List U32 :=
  (polled poll).flatMap PollRound.words ++ poll.late.map Irq.status

/-- The status words that the handler reads during a poll. -/
def pollStatuses (poll : Poll) : List U32 :=
  ((polled poll).flatMap fun round => round.irqs.map Irq.status) ++ poll.late.map Irq.status

/-- One round of a poll. -/
def pollStep (msgs : List I2cMsg) (i2c : Driver) (round : PollRound) : Driver :=
  (round.irqs.foldl (interruptLocked msgs) i2c).emit [.status round.status]

theorem pollRounds_eq (msgs : List I2cMsg) (round : Nat → PollRound) (rounds start : Nat)
    (i2c : Driver) :
    pollRounds msgs round rounds start i2c =
      (if (performed round rounds start).all PollRound.busy then ERR_TIMED_OUT else 0,
        (performed round rounds start).foldl (pollStep msgs) i2c) := by
  induction rounds generalizing start i2c with
  | zero => rfl
  | succ rounds ih =>
      rw [pollRounds, performed]
      by_cases busy : test (round start).status I2C_STATUS_BUS_ACTIVE = true
      · simp only [busy, if_true, ih, List.all_cons, List.foldl_cons, PollRound.busy,
          Bool.true_and, pollStep]
      · simp [busy, PollRound.busy, pollStep]

/-- The driver after the rounds and the late runs of a poll. -/
def pollEnd (msgs : List I2cMsg) (poll : Poll) (i2c : Driver) : Driver :=
  poll.late.foldl (interruptLocked msgs) ((polled poll).foldl (pollStep msgs) i2c)

theorem pollNotbusy_eq (msgs : List I2cMsg) (poll : Poll) (i2c : Driver) :
    pollNotbusy msgs poll i2c =
      (if staysBusy poll then ERR_TIMED_OUT else 0, pollEnd msgs poll i2c) := by
  rw [pollNotbusy, pollRounds_eq]
  rfl

/-- A poll stays busy exactly when its last round finds the bus busy. -/
theorem performed_last (round : Nat → PollRound) (rounds start : Nat) :
    ∃ init last, performed round (rounds + 1) start = init ++ [last] ∧
      (performed round (rounds + 1) start).all PollRound.busy = last.busy := by
  induction rounds generalizing start with
  | zero =>
      refine ⟨[], round start, ?_, ?_⟩ <;> rw [performed]
      · split <;> rfl
      · split <;> simp [performed]
  | succ rounds ih =>
      rw [performed]
      by_cases busy : test (round start).status I2C_STATUS_BUS_ACTIVE = true
      · rcases ih (start + 1) with ⟨init, last, split, all⟩
        refine ⟨round start :: init, last, ?_, ?_⟩
        · rw [if_pos busy, split]
          rfl
        · rw [if_pos busy, List.all_cons, all, PollRound.busy, busy, Bool.true_and]
      · refine ⟨[], round start, ?_, ?_⟩
        · rw [if_neg busy]
          rfl
        · rw [if_neg busy]
          simp

/-- What the last word of a poll says: that of the last late run, or that of the last round. -/
def endsBusy (poll : Poll) : Bool :=
  match poll.late.getLast? with
  | some irq => test irq.status I2C_STATUS_BUS_ACTIVE
  | none => staysBusy poll

theorem pollWords_getLast (poll : Poll) :
    ∃ word, (pollWords poll).getLast? = some word ∧
      test word I2C_STATUS_BUS_ACTIVE = endsBusy poll := by
  rw [pollWords, List.getLast?_append, List.getLast?_map, endsBusy]
  cases poll.late.getLast? with
  | some irq => exact ⟨irq.status, rfl, rfl⟩
  | none =>
      rcases performed_last poll.round 199 0 with ⟨init, last, split, all⟩
      refine ⟨last.status, ?_, all.symm⟩
      rw [polled, split]
      simp [PollRound.words]

/-! ## Recoveries -/

/-- The first read of a recovery finds the bus busy. -/
def Recovery.active (recovery : Recovery) : Bool :=
  test recovery.status (I2C_STATUS_BUS_ACTIVE ||| I2C_STATUS_WR_BUFFER_FULL)

/-- The recovery leaves the bus busy. -/
def Recovery.fails (recovery : Recovery) : Bool :=
  recovery.active && test recovery.statusAfter I2C_STATUS_BUS_ACTIVE

/-- The status words that a recovery reads. -/
def Recovery.words (recovery : Recovery) : List U32 :=
  recovery.status :: if recovery.active then [recovery.statusAfter] else []

/-- Operations that neither move items nor read status words. -/
def Silent (ops : List BusOp) : Prop :=
  ∀ op ∈ ops, op.toItem = none ∧ op.toStatus = none

theorem Silent.moves {ops : List BusOp} (silent : Silent ops) (msgs : List I2cMsg)
    (todo : List Item) : Moves msgs ops todo todo [] := by
  refine ⟨?_, ?_, fun op member => ?_⟩
  · rw [List.filterMap_eq_nil_iff.mpr fun op member => (silent op member).1]
    rfl
  · exact List.filterMap_eq_nil_iff.mpr fun op member => (silent op member).2
  · cases op with
    | byte i j word => cases (silent _ member).1
    | _ => trivial

theorem clockOut_silent (cycles : Nat → ClockCycle) (rounds start : Nat) (clk : Bool) :
    Silent (clockOut cycles rounds start clk) := by
  induction rounds generalizing start clk with
  | zero => simp [Silent, clockOut]
  | succ rounds ih =>
      rw [clockOut]
      split
      · simp [Silent]
      · refine List.forall_mem_append.mpr ⟨?_, ih _ _⟩
        simp [BusOp.toItem, BusOp.toStatus]

/-- What a recovery writes before it takes the bus over. -/
def Recovery.release (recovery : Recovery) : List BusOp :=
  if test recovery.status I2C_STATUS_RD_BUFFER_FULL then
    [.last I2C_WRITE_DATA_LAST_BYTE, .discard]
  else if test recovery.status I2C_STATUS_BUS_MASTER then
    [.last (I2C_WRITE_DATA_LAST_BYTE ||| 0xff)]
  else []

/-- The operations of a recovery. -/
def Recovery.ops (recovery : Recovery) : List BusOp :=
  if recovery.active then
    [.status recovery.status, .mux false] ++ recovery.release ++
      clockOut recovery.cycles 9 0 false ++ [.mux true, .status recovery.statusAfter]
  else [.status recovery.status]

theorem recoverBusBusy_eq (recovery : Recovery) (i2c : Driver) :
    recoverBusBusy recovery i2c =
      (if recovery.fails then ERR_NOT_READY else 0, i2c.emit recovery.ops) := by
  unfold recoverBusBusy Recovery.fails Recovery.ops
  cases active : recovery.active with
  | false =>
      rw [Recovery.active] at active
      simp only [active]
      rfl
  | true =>
      rw [Recovery.active] at active
      simp only [active]
      rfl

theorem Recovery.ops_moves (recovery : Recovery) (msgs : List I2cMsg) (todo : List Item) :
    Moves msgs recovery.ops todo todo recovery.words := by
  unfold Recovery.ops Recovery.words
  split
  · have before : Moves msgs [.status recovery.status, .mux false] todo todo
        [recovery.status] := ⟨rfl, rfl, by simp [BusOp.Carries]⟩
    have after : Moves msgs [.mux true, .status recovery.statusAfter] todo todo
        [recovery.statusAfter] := ⟨rfl, rfl, by simp [BusOp.Carries]⟩
    have release : Silent recovery.release := by
      unfold Recovery.release
      split
      · simp [Silent, BusOp.toItem, BusOp.toStatus]
      · split <;> simp [Silent, BusOp.toItem, BusOp.toStatus]
    exact ((before.append (release.moves msgs todo)).append
      ((clockOut_silent recovery.cycles 9 0 false).moves msgs todo)).append after
  · exact Moves.status msgs todo recovery.status

/-- The last word of a recovery tells whether it fails. -/
theorem Recovery.words_getLast (recovery : Recovery) :
    ∃ word, recovery.words.getLast? = some word ∧
      test word I2C_STATUS_BUS_ACTIVE = recovery.fails := by
  unfold Recovery.words Recovery.fails
  cases active : recovery.active with
  | false =>
      refine ⟨recovery.status, rfl, ?_⟩
      rw [Recovery.active, test_mask_or, Bool.or_eq_false_iff] at active
      rw [active.1, Bool.false_and]
  | true => exact ⟨recovery.statusAfter, rfl, by rw [Bool.true_and]⟩

/-! ## Before and after the messages -/

/-- Between transfers the handler has nothing to do. -/
def Idle (i2c : Driver) : Prop :=
  i2c.dev.msg = none

theorem interruptLocked_of_idle {i2c : Driver} (idle : Idle i2c) (msgs : List I2cMsg)
    (irq : Irq) : interruptLocked msgs i2c irq = i2c.emit [.status irq.status] := by
  have idle : i2c.dev.msg = none := idle
  simp only [interruptLocked, Driver.emit, idle]

theorem Driver.emit_emit (i2c : Driver) (first second : List BusOp) :
    (i2c.emit first).emit second = i2c.emit (first ++ second) := by
  simp [Driver.emit]

theorem Driver.emit_nil (i2c : Driver) : i2c.emit [] = i2c := by
  simp [Driver.emit]

theorem foldl_interruptLocked_of_idle {i2c : Driver} (idle : Idle i2c) (msgs : List I2cMsg)
    (irqs : List Irq) :
    irqs.foldl (interruptLocked msgs) i2c = i2c.emit (irqs.map fun irq => .status irq.status) := by
  induction irqs generalizing i2c with
  | nil => exact i2c.emit_nil.symm
  | cons irq rest ih =>
      rw [List.foldl_cons, interruptLocked_of_idle idle, ih, Driver.emit_emit]
      · rfl
      · exact idle

/-- While the handler has nothing to do, a poll only reads status words. -/
theorem foldl_pollStep_of_idle {i2c : Driver} (idle : Idle i2c) (msgs : List I2cMsg)
    (rounds : List PollRound) :
    rounds.foldl (pollStep msgs) i2c =
      i2c.emit ((rounds.flatMap PollRound.words).map BusOp.status) := by
  induction rounds generalizing i2c with
  | nil => exact i2c.emit_nil.symm
  | cons round rest ih =>
      have step : pollStep msgs i2c round = i2c.emit (round.words.map BusOp.status) := by
        rw [pollStep, foldl_interruptLocked_of_idle idle, Driver.emit_emit, PollRound.words]
        simp [Function.comp_def]
      rw [List.foldl_cons, step, ih, Driver.emit_emit, List.flatMap_cons, List.map_append]
      exact idle

theorem pollEnd_of_idle {i2c : Driver} (idle : Idle i2c) (msgs : List I2cMsg) (poll : Poll) :
    pollEnd msgs poll i2c = i2c.emit ((pollWords poll).map BusOp.status) := by
  rw [pollEnd, foldl_pollStep_of_idle idle, foldl_interruptLocked_of_idle, Driver.emit_emit,
    pollWords, List.map_append, List.map_map]
  · rfl
  · exact idle

theorem moves_statuses (msgs : List I2cMsg) (todo : List Item) (words : List U32) :
    Moves msgs (words.map BusOp.status) todo todo words := by
  induction words with
  | nil => exact Moves.nil msgs todo
  | cons word rest ih => exact (Moves.status msgs todo word).append ih

/-- The bus cannot be freed for the transfer. -/
def XferInput.startFails (input : XferInput) : Bool :=
  staysBusy input.startPoll && input.startRecovery.fails

/-- The status words read before the messages. -/
def XferInput.startWords (input : XferInput) : List U32 :=
  pollWords input.startPoll ++
    if staysBusy input.startPoll then input.startRecovery.words else []

/-- The operations of a call before the transfer is set up. -/
def XferInput.startOps (input : XferInput) : List BusOp :=
  [.clkEnable, .irqEnable] ++ (pollWords input.startPoll).map BusOp.status ++
    if staysBusy input.startPoll then input.startRecovery.ops else []

theorem startXfer_eq {i2c : Driver} (idle : Idle i2c) (msgs : List I2cMsg)
    (input : XferInput) :
    startXfer msgs input i2c =
      (if input.startFails then ERR_NOT_READY else 0, i2c.emit input.startOps) := by
  have started : Idle (i2c.emit [.clkEnable, .irqEnable]) := idle
  unfold startXfer XferInput.startFails XferInput.startOps
  rw [pollNotbusy_eq, pollEnd_of_idle started, Driver.emit_emit]
  cases staysBusy input.startPoll with
  | false =>
      simp only [Bool.false_eq_true, if_false, List.append_nil]
      rfl
  | true =>
      simp only [recoverBusBusy_eq, Driver.emit_emit]
      rfl

theorem XferInput.startOps_moves (input : XferInput) (msgs : List I2cMsg) (todo : List Item) :
    Moves msgs input.startOps todo todo input.startWords := by
  have enable : Moves msgs [.clkEnable, .irqEnable] todo todo [] :=
    ⟨rfl, rfl, by simp [BusOp.Carries]⟩
  apply (enable.append (moves_statuses msgs todo (pollWords input.startPoll))).append
  split
  · exact input.startRecovery.ops_moves msgs todo
  · exact Moves.nil msgs todo

/-! ## The messages -/

/-- The driver inside a transfer that started from `origin`: the handler has run
with `statuses`, and `words` have been read altogether. -/
structure Follows (msgs : List I2cMsg) (origin : Driver) (statuses words : List U32)
    (i2c : Driver) : Prop where
  represents : Represents msgs i2c.dev (Engine.run msgs statuses)
  ret_eq : i2c.dev.ret = if (Engine.run msgs statuses).failed then ERROR else msgs.length
  timeout_eq : i2c.timeout = timeoutRun msgs statuses (Engine.start msgs) origin.timeout
  moves : ∃ ops, i2c.log = origin.log ++ ops ∧
    Moves msgs ops (items msgs) (Engine.run msgs statuses).todo words

theorem Follows.setup {msgs : List I2cMsg} (nonempty : msgs ≠ []) (origin : Driver) :
    Follows msgs origin [] [] (setup msgs origin) := by
  have inside : 0 < msgs.length := List.length_pos_of_ne_nil nonempty
  refine ⟨⟨0, 0, ⟨inside, rfl, ?_, rfl, by omega, ?_⟩, by omega, ?_, rfl⟩, rfl, rfl,
    [], ?_, Moves.nil msgs _⟩
  · simp [I2c.setup]
  · simp [I2c.setup]
  · exact itemsFrom_drop inside
  · simp [I2c.setup]

/-- One run of the handler. -/
theorem Follows.interrupt {msgs : List I2cMsg} {origin i2c : Driver}
    {statuses words : List U32} (follows : Follows msgs origin statuses words i2c) (irq : Irq) :
    Follows msgs origin (statuses ++ [irq.status]) (words ++ [irq.status])
      (interruptLocked msgs i2c irq) := by
  rcases follows with ⟨represents, ret_eq, timeout_eq, ops, log_eq, moves⟩
  obtain ⟨dev, later, interrupted, represents', ret', moves'⟩ := interruptLocked_spec represents irq
  rw [interrupted]
  refine ⟨?_, ?_, ?_, ops ++ later, ?_, ?_⟩
  · rw [Engine.run_append]
    exact represents'
  · rw [Engine.run_append, Engine.step_failed, ret', ret_eq]
    cases test irq.status I2C_STATUS_ERROR_MASK <;> simp
  · rw [timeoutRun_append, ← timeout_eq]
    rfl
  · rw [log_eq, List.append_assoc]
  · rw [Engine.run_append]
    exact moves.append moves'

theorem Follows.interrupts {msgs : List I2cMsg} {origin i2c : Driver}
    {statuses words : List U32} (follows : Follows msgs origin statuses words i2c)
    (irqs : List Irq) :
    Follows msgs origin (statuses ++ irqs.map Irq.status) (words ++ irqs.map Irq.status)
      (irqs.foldl (interruptLocked msgs) i2c) := by
  induction irqs generalizing i2c statuses words with
  | nil => simpa using follows
  | cons irq rest ih =>
      have later := ih (follows.interrupt irq)
      simpa [List.append_assoc] using later

/-- Operations between two runs of the handler. -/
theorem Follows.emit {msgs : List I2cMsg} {origin i2c : Driver}
    {statuses words later : List U32} {ops : List BusOp}
    (follows : Follows msgs origin statuses words i2c)
    (moves : ∀ todo, Moves msgs ops todo todo later) :
    Follows msgs origin statuses (words ++ later) (i2c.emit ops) := by
  rcases follows with ⟨represents, ret_eq, timeout_eq, earlier, log_eq, moved⟩
  refine ⟨represents, ret_eq, timeout_eq, earlier ++ ops, ?_, moved.append (moves _)⟩
  rw [Driver.emit, log_eq, List.append_assoc]

theorem Follows.rounds {msgs : List I2cMsg} {origin i2c : Driver}
    {statuses words : List U32} (follows : Follows msgs origin statuses words i2c)
    (rounds : List PollRound) :
    Follows msgs origin
      (statuses ++ rounds.flatMap fun round => round.irqs.map Irq.status)
      (words ++ rounds.flatMap PollRound.words) (rounds.foldl (pollStep msgs) i2c) := by
  induction rounds generalizing i2c statuses words with
  | nil => simpa using follows
  | cons round rest ih =>
      have step : Follows msgs origin (statuses ++ round.irqs.map Irq.status)
          (words ++ round.words) (pollStep msgs i2c round) := by
        rw [PollRound.words, ← List.append_assoc]
        exact (follows.interrupts round.irqs).emit fun todo =>
          Moves.status msgs todo round.status
      simpa [List.append_assoc] using ih step

theorem Follows.poll {msgs : List I2cMsg} {origin i2c : Driver}
    {statuses words : List U32} (follows : Follows msgs origin statuses words i2c)
    (poll : Poll) :
    Follows msgs origin (statuses ++ pollStatuses poll) (words ++ pollWords poll)
      (pollEnd msgs poll i2c) := by
  have later := (follows.rounds (polled poll)).interrupts poll.late
  rw [List.append_assoc, List.append_assoc] at later
  exact later

/-! ## The whole transfer -/

/-- The status words that the handler reads during the messages. -/
def XferInput.statuses (input : XferInput) : List U32 :=
  input.first.status :: pollStatuses input.waitPoll

/-- The engine at the end of the wait. -/
def XferInput.engine (msgs : List I2cMsg) (input : XferInput) : Engine :=
  Engine.run msgs input.statuses

/-- The bus is busy after the wait and cannot be freed. -/
def XferInput.endFails (input : XferInput) : Bool :=
  staysBusy input.waitPoll && input.endRecovery.fails

/-- What the end of a transfer does before it looks at the result. -/
def XferInput.endOps (input : XferInput) (busy : Bool) : List BusOp :=
  if busy then input.endRecovery.ops else []

/-- The status words that the end of a call reads. -/
def XferInput.endWords (input : XferInput) (busy : Bool) : List U32 :=
  if busy then input.endRecovery.words else []

theorem XferInput.endOps_moves (input : XferInput) (busy : Bool) (msgs : List I2cMsg)
    (todo : List Item) : Moves msgs (input.endOps busy) todo todo (input.endWords busy) := by
  unfold XferInput.endOps XferInput.endWords
  split
  · exact input.endRecovery.ops_moves msgs todo
  · exact Moves.nil msgs todo

/-- The status words that a transfer reads if it gets past the start and no
recovery is made for an error. -/
def XferInput.words (input : XferInput) : List U32 :=
  input.startWords ++ (input.first.status :: pollWords input.waitPoll) ++
    input.endWords (staysBusy input.waitPoll)

/-- The driver after the wait. -/
theorem waited_follows {msgs : List I2cMsg} (nonempty : msgs ≠ []) (input : XferInput)
    (origin : Driver) :
    Follows msgs origin input.statuses (input.first.status :: pollWords input.waitPoll)
      (pollEnd msgs input.waitPoll (interruptLocked msgs (setup msgs origin) input.first)) :=
  ((Follows.setup nonempty origin).interrupt input.first).poll input.waitPoll

theorem ERR_TIMED_OUT_neg : ERR_TIMED_OUT < 0 := by
  decide

/-- The end of the function: the result that it returns, and what it does. -/
theorem endXfer_eq (input : XferInput) (ret : Int) (busy : Bool) (i2c : Driver) :
    endXfer input ret (if busy then ERR_TIMED_OUT else 0) i2c =
      if busy && input.endRecovery.fails then (ret, finish (i2c.emit (input.endOps busy)))
      else
        let result := if i2c.timeout = ERR_TIMED_OUT then ERR_TIMED_OUT else ret
        (result, finish (i2c.emit
          (input.endOps busy ++ if result < 0 then input.errorRecovery.ops else []))) := by
  have nonzero : ERR_NOT_READY ≠ 0 := by decide
  have timedOut : ERR_TIMED_OUT ≠ 0 := by decide
  unfold endXfer XferInput.endOps
  simp only [recoverBusBusy_eq]
  cases busy with
  | false =>
      simp only [Bool.false_eq_true, if_false, ne_eq, not_true_eq_false, Bool.false_and]
      generalize (if i2c.timeout = ERR_TIMED_OUT then ERR_TIMED_OUT else ret) = result
      by_cases negative : result < 0 <;> simp [negative, Driver.emit_nil]
  | true =>
      cases input.endRecovery.fails with
      | true => simp [nonzero, timedOut]
      | false =>
          simp only [if_true, ne_eq, timedOut, not_false_eq_true, Bool.false_eq_true, if_false,
            not_true_eq_false, Bool.and_false]
          rw [show (i2c.emit input.endRecovery.ops).timeout = i2c.timeout from rfl]
          generalize (if i2c.timeout = ERR_TIMED_OUT then ERR_TIMED_OUT else ret) = result
          by_cases negative : result < 0 <;> simp [negative, Driver.emit_emit]

/-- A result that is negative already stays negative. -/
theorem endXfer_neg (input : XferInput) {ret : Int} (negative : ret < 0) (busy : Bool)
    (i2c : Driver) : (endXfer input ret (if busy then ERR_TIMED_OUT else 0) i2c).1 < 0 := by
  rw [endXfer_eq]
  split
  · exact negative
  · simp only
    split
    · exact ERR_TIMED_OUT_neg
    · exact negative

/-- A result that is not negative survives a bus that stays busy, and otherwise
falls to a `timeout` flag. -/
theorem endXfer_nonneg (input : XferInput) {ret : Int} (nonneg : 0 ≤ ret) (busy : Bool)
    (i2c : Driver) :
    if (busy && input.endRecovery.fails) = false ∧ i2c.timeout = ERR_TIMED_OUT then
      (endXfer input ret (if busy then ERR_TIMED_OUT else 0) i2c).1 < 0
    else
      endXfer input ret (if busy then ERR_TIMED_OUT else 0) i2c =
        (ret, finish (i2c.emit (input.endOps busy))) := by
  have notNeg : ¬ ret < 0 := Int.not_lt.mpr nonneg
  rw [endXfer_eq]
  cases busy && input.endRecovery.fails with
  | true => rfl
  | false =>
      by_cases stale : i2c.timeout = ERR_TIMED_OUT
      · simp only [stale, and_self, if_true]
        exact ERR_TIMED_OUT_neg
      · simp [stale, notNeg]

theorem finish_moves (msgs : List I2cMsg) (todo : List Item) :
    Moves msgs [.irqDisable, .clkDisable] todo todo [] :=
  ⟨rfl, rfl, by simp [BusOp.Carries]⟩

/-- A transfer gives up at the start, ends in an error, or returns the number of
messages after the operations of its engine. -/
theorem msmI2cXfer_spec {msgs : List I2cMsg} (nonempty : msgs ≠ []) (input : XferInput)
    {i2c : Driver} (idle : Idle i2c) :
    if input.startFails = true ∨ (input.engine msgs).failed = true ∨
        (input.endFails = false ∧ i2c.timeout = ERR_TIMED_OUT ∧
          (input.engine msgs).complete = false) then
      (msmI2cXfer msgs input i2c).1 < 0
    else
      (msmI2cXfer msgs input i2c).1 = msgs.length ∧
        ∃ ops, (msmI2cXfer msgs input i2c).2.log = i2c.log ++ ops ∧
          Moves msgs ops (items msgs) (input.engine msgs).todo input.words := by
  have follows := waited_follows nonempty input (i2c.emit input.startOps)
  simp only [msmI2cXfer, startXfer_eq idle, XferInput.engine]
  cases fails : input.startFails with
  | true =>
      have nonzero : ERR_NOT_READY ≠ 0 := by decide
      simp only [if_true, true_or, nonzero, ne_eq, not_false_eq_true]
      decide
  | false =>
      simp only [Bool.false_eq_true, if_false, ne_eq, not_true_eq_false, false_or, pollNotbusy_eq]
      generalize pollEnd msgs input.waitPoll
        (interruptLocked msgs (setup msgs (i2c.emit input.startOps)) input.first) = waited
        at follows ⊢
      rcases follows with ⟨-, ret_eq, timeout_eq, ops, log_eq, moves⟩
      cases failed : (Engine.run msgs input.statuses).failed with
      | true =>
          have negative : waited.dev.ret < 0 := by
            rw [ret_eq, failed]
            exact (by decide : ERROR < 0)
          simpa using endXfer_neg input negative _ _
      | false =>
          rw [failed, if_neg Bool.false_ne_true] at ret_eq
          have ended := endXfer_nonneg input (Int.natCast_nonneg msgs.length)
            (staysBusy input.waitPoll) (teardown waited)
          have timedOut : (teardown waited).timeout = ERR_TIMED_OUT ↔
              i2c.timeout = ERR_TIMED_OUT ∧
                (Engine.run msgs input.statuses).complete = false := by
            rw [show (teardown waited).timeout = _ from timeout_eq, timeoutRun_of_unfailed failed]
            cases (Engine.run msgs input.statuses).complete with
            | true => simp [(by decide : (0 : Int) ≠ ERR_TIMED_OUT)]
            | false => simp [Driver.emit]
          simp only [timedOut] at ended
          rw [ret_eq]
          simp only [Bool.false_eq_true, false_or, XferInput.endFails]
          split at ended
          · rename_i gaveUp
            rw [if_pos gaveUp]
            exact ended
          · rename_i returned
            rw [if_neg returned, ended]
            have finished := (((input.startOps_moves msgs (items msgs)).append moves).append
              (input.endOps_moves (staysBusy input.waitPoll) msgs _)).append
                (finish_moves msgs _)
            rw [List.append_nil] at finished
            refine ⟨rfl, _, ?_, finished⟩
            simp [finish, Driver.emit, teardown, log_eq]

end HtcLeo.I2c
