import HtcLeo.Sd.LockStep
import HtcLeo.Sd.Completes
import HtcLeo.Transition.Run

/-!
# What one transfer leaves to the next

A transfer depends on what earlier ones left behind exactly when one of the flags
that it watches is still set.  Other flags are hidden from it, and a watched flag
can be told apart from a clear one by a suitable behaviour of the controller.
-/

namespace HtcLeo.Sd

open Poll Flags Transition

/-- A call of one of the functions that move data. -/
inductive Transfer where
  | scr
  | read (blockNumber : U32) (readBuffer : Nat)
  | write (blockNumber : U32) (writeBuffer : Nat)
  deriving DecidableEq, Repr

/-- The transfer as a computation. -/
def Transfer.run (port : Port) : Transfer → Poll U32 Sdcc Bool
  | .scr => get >>= fun sd => readScrRegister port sd.rca
  | .read blockNumber readBuffer => readABlock port blockNumber readBuffer
  | .write blockNumber writeBuffer => writeSelected port blockNumber writeBuffer

theorem Transfer.run_write (port : Port) (blockNumber : U32) (writeBuffer : Nat) (sd : Sdcc)
    (tape : List U32) :
    (write blockNumber writeBuffer).run port sd tape =
      writeABlock port blockNumber writeBuffer sd.rca sd tape := by
  rw [Transfer.run, writeSelected, Polled.writeSelected, get_bind_apply, writeABlock]

/-- The data flags that a transfer watches. -/
def Transfer.watched : Transfer → U32
  | .scr => 0
  | .read _ _ => endFlags readErrors
  | .write _ _ => endFlags writeErrors

/-- The same state with all data flags clear. -/
def Sdcc.withoutData (sd : Sdcc) : Sdcc :=
  { sd with status := clear sd.status dataFlags, sticky := sd.sticky.clear _ }

/-- The word that an access moved to the card. -/
def BusOp.pushed : BusOp → Option U32
  | .write .fifo word => some word
  | _ => none

/-- The result of a transfer and the words it moved: those it stored are in the memory,
those it sent are in the FIFO. -/
structure Outcome where
  result : Bool
  memory : Nat → U32
  sent : List U32

/-- What a transfer returns, the memory it leaves and what it has pushed into the FIFO. -/
def Transfer.outcome (port : Port) (transfer : Transfer) (sd : Sdcc) (tape : List U32) :
    Option Outcome :=
  (transfer.run port sd tape).map fun returned =>
    ⟨returned.1, returned.2.1.memory, returned.2.1.log.filterMap BusOp.pushed⟩

/-- Whatever the controller does, the transfer goes as if all data flags were clear. -/
def Independent (port : Port) (transfer : Transfer) (sd : Sdcc) : Prop :=
  ∀ tape, transfer.outcome port sd tape = transfer.outcome port sd.withoutData tape

/-! ## Hidden flags -/

theorem Transfer.same_run (port : Port) (transfer : Transfer) :
    Same (clear dataFlags transfer.watched) (transfer.run port) := by
  cases transfer with
  | scr =>
      apply sim_bind sim_get
      intro one two agrees
      rw [agrees.rca]
      exact same_readScrRegister (by decide) port _
  | read blockNumber readBuffer =>
      change Same (clear dataFlags (endFlags readErrors)) _
      exact same_readABlock (by decide) (by decide) port _ _
  | write blockNumber writeBuffer =>
      change Same (clear dataFlags (endFlags writeErrors)) _
      apply sim_bind sim_get
      intro one two agrees
      rw [agrees.rca]
      exact same_writeABlock (by decide) (by decide) port _ _ _

/-- Without watched flags, the state differs from the clear one in hidden flags only. -/
theorem agrees_withoutData {watched : U32} {sd : Sdcc} (lacks : sd.Lacks watched) :
    Agrees (clear dataFlags watched) sd sd.withoutData where
  status := sameOutside_clear_of_absent lacks dataFlags
  log := rfl
  memory := rfl
  highCapacity := rfl
  rca := rfl

theorem independent_of_lacks (port : Port) {transfer : Transfer} {sd : Sdcc}
    (lacks : sd.Lacks transfer.watched) : Independent port transfer sd := by
  intro tape
  have agree := transfer.same_run port tape (agrees_withoutData lacks)
  rw [Transfer.outcome, Transfer.outcome]
  revert agree
  generalize transfer.run port sd tape = one
  generalize transfer.run port sd.withoutData tape = two
  intro agree
  cases agree with
  | none => rfl
  | some related =>
      rcases related with ⟨results, states, -⟩
      rw [Option.map_some, Option.map_some, results, states.memory, states.log]

/-! ## Watched flags -/

theorem test_endFlags {status errors : U32} :
    test status (endFlags errors) = (test status errors ||
      (test status MCI_STATUS_DATA_BLK_END || test status MCI_STATUS_DATAEND)) := by
  rw [endFlags, test_mask_or, test_mask_or]

theorem Sdcc.leftovers_withoutData (sd : Sdcc) : sd.withoutData.leftovers = 0 := by
  change clear sd.status dataFlags &&& dataFlags = 0
  rw [Flags.clear, BitVec.and_assoc, BitVec.not_and_self]
  exact BitVec.and_zero

theorem Sdcc.lacks_of_leftovers_zero {sd : Sdcc} {mask : U32} (none : sd.leftovers = 0)
    (part : dataFlags &&& mask = mask) : sd.Lacks mask := by
  rw [Lacks, ← test_leftovers _ part, none]
  exact test_zero_left

/-- On this tape the end of a block tells the first state from the second: either it
fails instead of ending well, or it ends instead of waiting for ever. -/
def Tells (errors cleared : U32) (tape : List U32) (sd sd' : Sdcc) : Prop :=
  ∀ tail : List U32, (∀ raised ∈ tail, test raised (endFlags errors) = false) →
    ((∃ final rest, checkClearStatus errors cleared sd (tape ++ tail) =
          some (false, final, rest)) ∧
        ∃ final, checkClearStatus errors cleared sd' (tape ++ tail) =
          some (true, final, tail)) ∨
      ((∃ final, checkClearStatus errors cleared sd (tape ++ tail) =
          some (true, final, tail)) ∧
        checkClearStatus errors cleared sd' (tape ++ tail) = none)

section Tells

variable {errors cleared : U32} {sd sd' : Sdcc}

/-- An error that is left over fails a block that ends well. -/
theorem tells_errors (masks : EndMasks errors cleared) (dirty : test sd.status errors = true)
    (clean : sd'.Lacks errors) :
    Tells errors cleared [MCI_STATUS_DATA_BLK_END, MCI_STATUS_DATAEND, 0] sd sd' := by
  refine fun tail _ => .inl ⟨⟨_, _, checkClearStatus_fails dirty _ _ _⟩, ?_⟩
  obtain ⟨final, returned, -⟩ := checkClearStatus_returns clean masks.blockEndApart
    masks.dataEndApart (test_or_self _ (by decide)) (test_or_self _ (by decide)) masks.keeps tail
  exact ⟨final, returned⟩

/-- A block end that is left over ends a block that never does. -/
theorem tells_blockEnd (masks : EndMasks errors cleared) (noErrors : sd.Lacks errors)
    (dirty : test sd.status MCI_STATUS_DATA_BLK_END = true)
    (clean : sd'.Lacks (errors ||| MCI_STATUS_DATA_BLK_END)) :
    Tells errors cleared [0, MCI_STATUS_DATAEND, 0] sd sd' := by
  refine fun tail never => .inr ⟨?_, checkClearStatus_waiting clean ?_⟩
  · obtain ⟨final, returned, -⟩ := checkClearStatus_returns noErrors test_zero_left
      masks.dataEndApart (by rw [test_or, dirty]; rfl) (test_or_self _ (by decide)) masks.keeps tail
    exact ⟨final, returned⟩
  · have late : test MCI_STATUS_DATAEND (errors ||| MCI_STATUS_DATA_BLK_END) = false := by
      rw [test_mask_or, masks.dataEndApart]
      rfl
    refine List.forall_mem_cons.mpr ⟨test_zero_left, List.forall_mem_cons.mpr
      ⟨late, List.forall_mem_cons.mpr ⟨test_zero_left, fun raised member => ?_⟩⟩⟩
    have absent := never raised member
    rw [test_endFlags, Bool.or_eq_false_iff, Bool.or_eq_false_iff] at absent
    rw [test_mask_or, absent.1, absent.2.1]
    rfl

/-- A `DATAEND` that is left over ends a transfer that never does. -/
theorem tells_dataEnd (masks : EndMasks errors cleared) (noErrors : sd.Lacks errors)
    (dirty : test sd.status MCI_STATUS_DATAEND = true) (clean : sd'.Lacks errors)
    (noDataEnd : sd'.Lacks MCI_STATUS_DATAEND) :
    Tells errors cleared [MCI_STATUS_DATA_BLK_END, 0, 0] sd sd' := by
  intro tail never
  apply Or.inr
  constructor
  · obtain ⟨final, returned, -⟩ := checkClearStatus_returns noErrors masks.blockEndApart
      test_zero_left (test_or_self _ (by decide)) (by rw [test_or, dirty]; rfl) masks.keeps tail
    exact ⟨final, returned⟩
  · rw [checkClearStatus, Polled.checkClearStatus, List.cons_append, bind_of_eq_some
      (loop_statusRound_ends clean masks.blockEndApart (test_or_self _ (by decide)) _)]
    refine bind_of_eq_none (clearStatus_waiting
      (Sdcc.Lacks.raise noDataEnd (by decide)) ?_ cleared)
    refine List.forall_mem_cons.mpr ⟨test_zero_left, List.forall_mem_cons.mpr
      ⟨test_zero_left, fun raised member => ?_⟩⟩
    have absent := never raised member
    rw [test_endFlags, Bool.or_eq_false_iff, Bool.or_eq_false_iff] at absent
    exact absent.2.2

/-- A flag that the end of a block looks at shows on a suitable tape, which depends only
on the data flags. -/
theorem exists_tells (masks : EndMasks errors cleared) {leftovers : U32}
    (dirty : test leftovers (endFlags errors) = true) :
    ∃ tape, ∀ sd sd' : Sdcc, sd.leftovers = leftovers → sd'.leftovers = 0 →
      Tells errors cleared tape sd sd' := by
  rw [test_endFlags] at dirty
  cases errorsLeft : test leftovers errors with
  | true =>
      refine ⟨_, fun sd sd' same none => tells_errors masks ?_ ?_⟩
      · rw [← Sdcc.test_leftovers _ masks.data, same, errorsLeft]
      · exact Sdcc.lacks_of_leftovers_zero none masks.data
  | false =>
      have noErrors {sd : Sdcc} (same : sd.leftovers = leftovers) : sd.Lacks errors := by
        rw [Sdcc.Lacks, ← Sdcc.test_leftovers _ masks.data, same, errorsLeft]
      rw [errorsLeft, Bool.false_or, Bool.or_eq_true] at dirty
      rcases dirty with blockEnd | dataEnd
      · refine ⟨_, fun sd sd' same none => tells_blockEnd masks (noErrors same) ?_ ?_⟩
        · rw [← Sdcc.test_leftovers _ (by decide), same, blockEnd]
        · apply Sdcc.lacks_of_leftovers_zero none
          rw [BitVec.and_or_distrib_left, masks.data]
          rfl
      · refine ⟨_, fun sd sd' same none => tells_dataEnd masks (noErrors same) ?_
          (Sdcc.lacks_of_leftovers_zero none masks.data)
          (Sdcc.lacks_of_leftovers_zero none (by decide))⟩
        rw [← Sdcc.test_leftovers _ (by decide), same, dataEnd]

end Tells

/-! ## Transfers that depend on what was left -/

/-- Independent runs cannot give different results. -/
theorem Independent.not_differ {port : Port} {transfer : Transfer} {sd one two : Sdcc}
    {tape rest rest' : List U32} (independent : Independent port transfer sd)
    (fails : transfer.run port sd tape = some (false, one, rest))
    (ends : transfer.run port sd.withoutData tape = some (true, two, rest')) : False := by
  have same := independent tape
  rw [Transfer.outcome, Transfer.outcome, fails, ends] at same
  simp at same

/-- Nor can only one of them return. -/
theorem Independent.not_waits {port : Port} {transfer : Transfer} {sd one : Sdcc}
    {tape rest : List U32} {result : Bool} (independent : Independent port transfer sd)
    (ends : transfer.run port sd tape = some (result, one, rest))
    (waits : transfer.run port sd.withoutData tape = none) : False := by
  have same := independent tape
  rw [Transfer.outcome, Transfer.outcome, ends, waits] at same
  cases same

/-- Waiting for the card to program the block raises no flag of a block end. -/
theorem programmedTape_quiet :
    ∀ raised ∈ programmedTape, test raised (endFlags writeErrors) = false := by
  simp only [programmedTape, answeredTape, List.cons_append, List.nil_append,
    List.forall_mem_cons]
  exact ⟨by decide, by decide, by decide, by decide, List.forall_mem_nil _⟩

theorem not_independent_read (port : Port) (blockNumber : U32) (readBuffer : Nat) {sd : Sdcc}
    (dirty : test sd.status (endFlags readErrors) = true) :
    ¬ Independent port (.read blockNumber readBuffer) sd := by
  intro independent
  rw [← Sdcc.test_leftovers _ (by decide)] at dirty
  rcases exists_tells readMasks dirty with ⟨tape, tells⟩
  obtain ⟨one, oneReached, oneSame⟩ :=
    readABlock_reaches port blockNumber readBuffer sd (tape ++ [])
  obtain ⟨two, twoReached, twoSame⟩ :=
    readABlock_reaches port blockNumber readBuffer sd.withoutData (tape ++ [])
  rcases tells one two oneSame (twoSame.trans sd.leftovers_withoutData) [] (by simp) with
    ⟨⟨_, _, fails⟩, ⟨_, ends⟩⟩ | ⟨⟨_, ends⟩, waits⟩
  · exact independent.not_differ (oneReached.trans fails) (twoReached.trans ends)
  · exact independent.not_waits (oneReached.trans ends) (twoReached.trans waits)

theorem not_independent_write (port : Port) (blockNumber : U32) (writeBuffer : Nat) {sd : Sdcc}
    (dirty : test sd.status (endFlags writeErrors) = true) :
    ¬ Independent port (.write blockNumber writeBuffer) sd := by
  intro independent
  have clean {mask : U32} (data : dataFlags &&& mask = mask) : sd.withoutData.Lacks mask :=
    Sdcc.lacks_of_leftovers_zero sd.leftovers_withoutData data
  cases errorsLeft : test sd.status (MCI_STATUS_DATA_TIMEOUT ||| MCI_STATUS_TX_UNDERRUN) with
  | true =>
      -- The data phase fails before the end of the block is looked at.
      obtain ⟨_, _, fails⟩ := writeABlock_fails port blockNumber writeBuffer sd.rca errorsLeft
        (endedTape ++ programmedTape)
      obtain ⟨_, ends, -⟩ := writeABlock_returns port blockNumber writeBuffer sd.rca
        (clean (by decide)) []
      rw [List.append_nil, goodWriteTape] at ends
      exact independent.not_differ ((Transfer.run_write ..).trans fails)
        ((Transfer.run_write ..).trans ends)
  | false =>
      rw [← Sdcc.test_leftovers _ (by decide)] at dirty
      rcases exists_tells writeMasks dirty with ⟨tape, tells⟩
      obtain ⟨one, oneReached, oneSame⟩ := writeABlock_reaches port blockNumber writeBuffer
        sd.rca errorsLeft (tape ++ programmedTape)
      obtain ⟨two, twoReached, twoSame⟩ := writeABlock_reaches port blockNumber writeBuffer
        sd.rca (clean (by decide)) (tape ++ programmedTape)
      rcases tells one two oneSame (twoSame.trans sd.leftovers_withoutData) programmedTape
        programmedTape_quiet with ⟨⟨_, _, fails⟩, ⟨final, ends⟩⟩ | ⟨⟨final, ends⟩, waits⟩
      · rcases awaitProgDone_returns port sd.rca final [] with ⟨_, done, -⟩
        rw [checkClearWriteStatus, bind_of_eq_some fails] at oneReached
        rw [checkClearWriteStatus, bind_of_eq_some ends] at twoReached
        exact independent.not_differ ((Transfer.run_write ..).trans oneReached)
          ((Transfer.run_write ..).trans (twoReached.trans done))
      · rcases awaitProgDone_returns port sd.rca final [] with ⟨_, done, -⟩
        rw [checkClearWriteStatus, bind_of_eq_some ends] at oneReached
        rw [checkClearWriteStatus, bind_of_eq_none waits] at twoReached
        exact independent.not_waits ((Transfer.run_write ..).trans (oneReached.trans done))
          ((Transfer.run_write ..).trans twoReached)

/-- A transfer is independent of what was left behind exactly when none of its watched
flags is. -/
theorem independent_iff (port : Port) (transfer : Transfer) (sd : Sdcc) :
    Independent port transfer sd ↔ sd.Lacks transfer.watched := by
  constructor
  · intro independent
    rw [Sdcc.Lacks, ← Bool.not_eq_true]
    intro dirty
    cases transfer with
    | scr =>
        rw [Transfer.watched, test_eq_true_iff] at dirty
        exact dirty BitVec.and_zero
    | read blockNumber readBuffer => exact not_independent_read port _ _ dirty independent
    | write blockNumber writeBuffer => exact not_independent_write port _ _ dirty independent
  · exact independent_of_lacks port

/-! ## Runs of transfers -/

/-- For some behaviour of the controller the transfer returns, from `before` in `after`. -/
def TransferReturns (port : Port) (before : Sdcc) (transfer : Transfer) (after : Sdcc) : Prop :=
  ∃ tape result rest, transfer.run port before tape = some (result, after, rest)

/-- In any run of transfers, each goes as if it started with all data flags clear
exactly when each starts without the flags that it watches. -/
theorem transfers_independent_iff (port : Port) {start : Sdcc}
    {steps : List (Step Sdcc Transfer)} (run : Run (TransferReturns port) start steps) :
    (∀ step ∈ steps, Independent port step.label step.before) ↔
      ∀ step ∈ steps, step.before.Lacks step.label.watched :=
  run.forall_iff (I := fun _ => True) trivial
    (fun before transfer _ _ _ => independent_iff port transfer before)
    (fun _ _ _ _ _ _ => trivial)

/-! ## A read after an error -/

/-- A good read after an error that was left over fails. -/
theorem readABlock_spoiled (port : Port) (blockNumber : U32) (readBuffer : Nat) {sd : Sdcc}
    (dirty : test sd.status readErrors = true) :
    ∃ final rest, readABlock port blockNumber readBuffer sd goodReadTape =
      some (false, final, rest) := by
  obtain ⟨reached, reaches, same⟩ :=
    readABlock_reaches port blockNumber readBuffer sd endedTape
  rw [← Sdcc.test_leftovers _ (by decide), ← same, Sdcc.test_leftovers _ (by decide)] at dirty
  exact ⟨_, _, reaches.trans (checkClearStatus_fails dirty _ _ _)⟩

/-- A read does not watch the flag that a write has left. -/
theorem transfers_independent_underrun :
    ∃ failed after, TransferReturns zeroPort idle (.write 0 0) failed ∧
      test failed.status MCI_STATUS_TX_UNDERRUN = true ∧
      TransferReturns zeroPort failed (.read 1 0) after ∧
      ∀ step ∈ [(⟨idle, .write 0 0, failed⟩ : Step Sdcc Transfer), ⟨failed, .read 1 0, after⟩],
        Independent zeroPort step.label step.before := by
  obtain ⟨failed, written, dirty, keeps⟩ := writeABlock_underrun zeroPort 0 0 idle.rca idle
  have lacks : failed.Lacks (endFlags readErrors) := keeps _ (by decide) (by decide) rfl
  obtain ⟨after, read, -⟩ := readABlock_returns zeroPort 1 0 lacks []
  have writes : TransferReturns zeroPort idle (.write 0 0) failed :=
    ⟨underrunTape, false, [], (Transfer.run_write ..).trans written⟩
  have reads : TransferReturns zeroPort failed (.read 1 0) after :=
    ⟨goodReadTape ++ [], true, [], read⟩
  have clean : idle.Lacks (endFlags writeErrors) := rfl
  exact ⟨failed, after, writes, dirty, reads,
    (transfers_independent_iff zeroPort (.cons writes (.cons reads (.nil after)))).mpr
      (List.forall_mem_cons.mpr ⟨clean, List.forall_mem_singleton.mpr lacks⟩)⟩

/-- One wrong CRC, and the next read fails although the controller raises no error. -/
theorem readABlock_after_crcFail :
    ∃ failed, (Transfer.read 0 0).run zeroPort idle crcFailTape = some (false, failed, []) ∧
      ((Transfer.read 1 0).outcome zeroPort failed goodReadTape).map Outcome.result =
        some false ∧
      ((Transfer.read 1 0).outcome zeroPort failed.withoutData goodReadTape).map
        Outcome.result = some true ∧
      ¬ Independent zeroPort (.read 1 0) failed := by
  rcases readABlock_crcFail zeroPort 0 0 idle with ⟨failed, returned, dirty⟩
  rcases readABlock_spoiled zeroPort 1 0 dirty with ⟨one, rest, fails⟩
  obtain ⟨two, succeeds, -⟩ := readABlock_returns zeroPort 1 0
    (Sdcc.lacks_of_leftovers_zero failed.leftovers_withoutData (by decide)) []
  rw [List.append_nil] at succeeds
  refine ⟨failed, returned, ?_, ?_, fun independent => independent.not_differ fails succeeds⟩
  · rw [Transfer.outcome, Transfer.run, fails]
    rfl
  · rw [Transfer.outcome, Transfer.run, succeeds]
    rfl

end HtcLeo.Sd
