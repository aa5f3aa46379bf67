import HtcLeo.I2c.Transfer

/-!
# Success means that the transfer completed

`Transferred` is what a caller expects of a transfer that returned the number of
its messages.  The driver lives up to it exactly on the inputs that
`XferInput.Settles`: those on which it does not claim success, and those on which
the wait happened to last until every byte had moved.
-/

namespace HtcLeo.I2c

open Flags

/-- What a successful transfer has done. -/
structure Transferred (msgs : List I2cMsg) (ops : List BusOp) : Prop where
  clean : ∀ word, .status word ∈ ops → test word I2C_STATUS_ERROR_MASK = false
  written : ∀ i msg j, msgs[i]? = some msg → msg.isRead = false → j < msg.len →
    ∃ word, .byte i j word ∈ ops ∧ word.setWidth 8 = msg.buf.getD j 0
  filled : ∀ i msg j, msgs[i]? = some msg → msg.isRead = true → j < msg.len →
    ∃ value, .fill i j value ∈ ops
  free : ∃ word, (ops.filterMap BusOp.toStatus).getLast? = some word ∧
    test word I2C_STATUS_BUS_ACTIVE = false

/-- What the driver did during a call. -/
def opsSince (before after : Driver) : List BusOp :=
  after.log.drop before.log.length

/-- The call returns the number of messages only after a complete transfer, and a
negative value otherwise. -/
def TruthfulResult (msgs : List I2cMsg) (input : XferInput) (i2c : Driver) : Prop :=
  ((msmI2cXfer msgs input i2c).1 = msgs.length →
      Transferred msgs (opsSince i2c (msmI2cXfer msgs input i2c).2)) ∧
    ((msmI2cXfer msgs input i2c).1 ≠ msgs.length → (msmI2cXfer msgs input i2c).1 < 0)

/-- The last status word that a transfer reads says that the bus is busy: that of the recovery if
the wait found the bus busy, and that of the last handler run or of the wait otherwise. -/
def XferInput.leavesBusy (input : XferInput) : Bool :=
  if staysBusy input.waitPoll then input.endRecovery.fails else endsBusy input.waitPoll

/-- The inputs on which the result tells the truth.  Either the call fails, because
the bus cannot be freed at the start, because a handler run sees an error bit, or
because a `timeout` of an earlier transfer is still there when the bus is free
again; or it succeeds with a free bus, no error bit in any status word, and no
byte left to move. -/
def XferInput.Settles (msgs : List I2cMsg) (timeout : Int) (input : XferInput) : Prop :=
  input.startFails = true ∨ (input.engine msgs).failed = true ∨
    (input.endFails = false ∧ timeout = ERR_TIMED_OUT ∧ (input.engine msgs).complete = false) ∨
    (input.leavesBusy = false ∧ (∀ word ∈ input.words, test word I2C_STATUS_ERROR_MASK = false) ∧
      ∀ item ∈ (input.engine msgs).todo, item.isAddr = true)

/-! ## Bytes and items -/

/-- Every data item is done exactly when none is left. -/
theorem Moves.data_done_iff {msgs : List I2cMsg} {ops : List BusOp} {todo : List Item}
    {words : List U32} (moves : Moves msgs ops (items msgs) todo words) :
    (∀ item ∈ items msgs, item.isAddr = false → item ∈ ops.filterMap BusOp.toItem) ↔
      ∀ item ∈ todo, item.isAddr = true := by
  have taken := moves.taken
  have distinct := itemsFrom_nodup 0 msgs
  rw [← items, ← taken] at distinct
  have disjoint := (List.nodup_append.mp distinct).2.2
  constructor
  · intro done item left
    by_contra data
    have data : item.isAddr = false := Bool.not_eq_true _ |>.mp data
    have present : item ∈ items msgs := taken ▸ List.mem_append_right _ left
    exact disjoint item (done item present data) item left rfl
  · intro addrs item present data
    rw [← taken] at present
    rcases List.mem_append.mp present with done | left
    · exact done
    · exact absurd (addrs item left) (by simp [data])

/-- What is read off the operations of one kind is there if such an operation is. -/
theorem mem_filterMap_iff {α β : Type} {kind : BusOp → Option β} {value : β} {op : α → BusOp}
    (only : ∀ other, kind other = some value ↔ ∃ a, other = op a) {ops : List BusOp} :
    value ∈ ops.filterMap kind ↔ ∃ a, op a ∈ ops := by
  rw [List.mem_filterMap]
  constructor
  · rintro ⟨other, member, same⟩
    obtain ⟨a, rfl⟩ := (only other).mp same
    exact ⟨a, member⟩
  · rintro ⟨a, member⟩
    exact ⟨op a, member, (only (op a)).mpr ⟨a, rfl⟩⟩

theorem toItem_eq_fill_iff (i j : Nat) (op : BusOp) :
    op.toItem = some (.fill i j) ↔ ∃ value, op = .fill i j value := by
  cases op <;> simp [BusOp.toItem]

theorem toItem_eq_byte_iff (i j : Nat) (op : BusOp) :
    op.toItem = some (.byte i j) ↔ ∃ word, op = .byte i j word := by
  cases op <;> simp [BusOp.toItem]

theorem toStatus_eq_iff (word : U32) (op : BusOp) :
    op.toStatus = some word ↔ ∃ _ : Unit, op = .status word := by
  cases op <;> simp [BusOp.toStatus]

theorem message_of_getElem? {msgs : List I2cMsg} {i : Nat} {msg : I2cMsg}
    (present : msgs[i]? = some msg) : message msgs i = msg := by
  rw [message, List.getD_eq_getElem?_getD, present]
  rfl

/-- What a transfer has done, read off its items and its status words. -/
theorem Moves.transferred_iff {msgs : List I2cMsg} {ops : List BusOp} {todo : List Item}
    {words : List U32} (moves : Moves msgs ops (items msgs) todo words) :
    Transferred msgs ops ↔
      (∀ word ∈ words, test word I2C_STATUS_ERROR_MASK = false) ∧
      (∀ item ∈ todo, item.isAddr = true) ∧
      ∃ word, words.getLast? = some word ∧ test word I2C_STATUS_BUS_ACTIVE = false := by
  rw [← moves.data_done_iff, ← moves.seen]
  constructor
  · rintro ⟨clean, written, filled, free⟩
    refine ⟨fun word member => ?_, ?_, free⟩
    · obtain ⟨-, member⟩ := (mem_filterMap_iff (toStatus_eq_iff word)).mp member
      exact clean word member
    intro item present data
    rcases exists_of_mem_itemsFrom present data with ⟨i, msg, j, here, below, rfl⟩
    rw [Nat.zero_add, byteItem]
    cases read : msg.isRead with
    | true =>
        exact (mem_filterMap_iff (toItem_eq_fill_iff i j)).mpr (filled i msg j here read below)
    | false =>
        rcases written i msg j here read below with ⟨word, member, -⟩
        exact (mem_filterMap_iff (toItem_eq_byte_iff i j)).mpr ⟨word, member⟩
  · rintro ⟨clean, done, free⟩
    have moved {i j : Nat} {msg : I2cMsg} (here : msgs[i]? = some msg) (below : j < msg.len) :
        byteItem i msg j ∈ ops.filterMap BusOp.toItem := by
      have present := @byteItem_mem_itemsFrom 0 i j msgs msg here below
      rw [Nat.zero_add] at present
      exact done _ present (byteItem_isAddr i msg j)
    refine ⟨fun word member => ?_, ?_, ?_, free⟩
    · exact clean word ((mem_filterMap_iff (toStatus_eq_iff word)).mpr ⟨(), member⟩)
    · intro i msg j here write below
      have member := moved here below
      rw [byteItem, write, if_neg Bool.false_ne_true] at member
      rcases (mem_filterMap_iff (toItem_eq_byte_iff i j)).mp member with ⟨word, member⟩
      have carries : word.setWidth 8 = (message msgs i).buf.getD j 0 := moves.carries _ member
      rw [message_of_getElem? here] at carries
      exact ⟨word, member, carries⟩
    · intro i msg j here read below
      have member := moved here below
      rw [byteItem, if_pos read] at member
      exact (mem_filterMap_iff (toItem_eq_fill_iff i j)).mp member

/-- The last status word of a call tells whether the bus was left busy. -/
theorem XferInput.words_getLast (input : XferInput) :
    ∃ word, input.words.getLast? = some word ∧
      test word I2C_STATUS_BUS_ACTIVE = input.leavesBusy := by
  unfold XferInput.words XferInput.leavesBusy
  rcases pollWords_getLast input.waitPoll with ⟨word, last, active⟩
  cases staysBusy input.waitPoll with
  | false =>
      refine ⟨word, ?_, active⟩
      simp [XferInput.endWords, List.getLast?_cons, last]
  | true =>
      rcases input.endRecovery.words_getLast with ⟨word, last, active⟩
      refine ⟨word, ?_, active⟩
      simp [XferInput.endWords, List.getLast?_cons, last]

/-! ## The result -/

/-- Between transfers, the next one's result is truthful exactly on the inputs that
settle it. -/
theorem msmI2cXfer_truthful_iff {msgs : List I2cMsg} (nonempty : msgs ≠ [])
    {i2c : Driver} (idle : i2c.dev.msg = none) (input : XferInput) :
    TruthfulResult msgs input i2c ↔ input.Settles msgs i2c.timeout := by
  have spec := msmI2cXfer_spec nonempty input idle
  unfold TruthfulResult XferInput.Settles
  split at spec
  · rename_i gaveUp
    have other : (msmI2cXfer msgs input i2c).1 ≠ msgs.length := by omega
    refine ⟨fun _ => ?_, fun _ => ⟨fun same => absurd same other, fun _ => spec⟩⟩
    rcases gaveUp with start | failed | ⟨free, stale⟩
    · exact .inl start
    · exact .inr (.inl failed)
    · exact .inr (.inr (.inl ⟨free, stale⟩))
  · rename_i succeeded
    rcases spec with ⟨result_eq, ops, log_eq, moves⟩
    have ops_eq : opsSince i2c (msmI2cXfer msgs input i2c).2 = ops := by
      rw [opsSince, log_eq, List.drop_left]
    rcases input.words_getLast with ⟨last, isLast, active⟩
    rw [ops_eq, moves.transferred_iff, isLast]
    simp only [not_or, not_and] at succeeded
    rcases succeeded with ⟨started, unfailed, unflagged⟩
    have free : (∃ word, some last = some word ∧ test word I2C_STATUS_BUS_ACTIVE = false) ↔
        input.leavesBusy = false := by
      simp [active]
    rw [free]
    constructor
    · rintro ⟨truthful, -⟩
      rcases truthful result_eq with ⟨clean, done, free⟩
      exact .inr (.inr (.inr ⟨free, clean, done⟩))
    · rintro (start | failed | ⟨free, stale, incomplete⟩ | ⟨free, clean, done⟩)
      · exact absurd start started
      · exact absurd failed unfailed
      · exact absurd incomplete (unflagged free stale)
      · exact ⟨fun _ => ⟨clean, done, free⟩, fun other => absurd result_eq other⟩

/-! ## One short write -/

/-- A message that writes the byte `5`. -/
def writeFive : List I2cMsg := [⟨0x36, 0, [5], by decide⟩]

/-- A controller that is idle in every poll and needs no recovery; `first` is the
status of the first handler run, `irqs` run before the wait looks at the bus, and `late` after
that. -/
def quickBus (first : U32) (irqs late : List Irq) : XferInput where
  startPoll := ⟨fun _ => ⟨[], 0⟩, []⟩
  startRecovery := ⟨0, fun _ => ⟨true, true⟩, 0⟩
  first := ⟨first, 0⟩
  waitPoll := ⟨fun _ => ⟨irqs, 0⟩, late⟩
  endRecovery := ⟨0, fun _ => ⟨true, true⟩, 0⟩
  errorRecovery := ⟨0, fun _ => ⟨true, true⟩, 0⟩

/-- The driver after `msm_i2c_probe`. -/
def probed : Driver := ⟨⟨none, 0, 0, 0, 0, false, 0⟩, 0, []⟩

/-- Two handler runs are enough for the write, one before the bus is found idle and one after. -/
theorem msmI2cXfer_truthful_writeFive :
    TruthfulResult writeFive (quickBus 0 [⟨0, 0⟩] [⟨0, 0⟩]) probed := by
  have words : (quickBus 0 [⟨0, 0⟩] [⟨0, 0⟩]).words = [0, 0, 0, 0, 0] := by decide +kernel
  have todo : ((quickBus 0 [⟨0, 0⟩] [⟨0, 0⟩]).engine writeFive).todo = [] := by decide +kernel
  refine (msmI2cXfer_truthful_iff (by decide) rfl (quickBus 0 [⟨0, 0⟩] [⟨0, 0⟩])).mpr
    (.inr (.inr (.inr ⟨by decide +kernel, ?_, ?_⟩)))
  · rw [words]
    simp
  · rw [todo]
    simp

/-- The first handler run writes the address, and no other comes before the call drops the
message.  It returns 1, and the byte was never written. -/
theorem msmI2cXfer_unfinished :
    (msmI2cXfer writeFive (quickBus 0 [] []) probed).1 = 1 ∧
      (msmI2cXfer writeFive (quickBus 0 [] []) probed).2.log =
        [.clkEnable, .irqEnable, .status 0, .status 0, .addr 0 0x16c, .status 0, .irqDisable,
          .clkDisable] ∧
      ¬ TruthfulResult writeFive (quickBus 0 [] []) probed := by
  have log : (msmI2cXfer writeFive (quickBus 0 [] []) probed).2.log =
      [.clkEnable, .irqEnable, .status 0, .status 0, .addr 0 0x16c, .status 0, .irqDisable,
        .clkDisable] := by decide +kernel
  refine ⟨by decide +kernel, log, fun truthful => ?_⟩
  rcases (truthful.1 (by decide +kernel)).written 0 _ 0 rfl rfl (by decide) with ⟨word, member, -⟩
  rw [opsSince, log] at member
  simp [probed] at member

end HtcLeo.I2c
