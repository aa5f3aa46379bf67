import Mathlib.Data.List.Induction
import HtcLeo.I2c.Engine

/-!
# The handler follows the engine

`At msgs i k dev` says that the handler has moved `k` items of message `i`: its
address and `k - 1` of its bytes.  Each of the three parts of a handler run keeps
a position of this kind and takes off the queue what the engine takes off.
-/

namespace HtcLeo.I2c

open Flags

/-! ## What the hardware operations amount to -/

/-- The item that an operation puts on the bus. -/
def BusOp.toItem : BusOp → Option Item
  | .addr i _ => some (.addr i)
  | .byte i j _ => some (.byte i j)
  | .fill i j _ => some (.fill i j)
  | _ => none

/-- The status word that an operation read. -/
def BusOp.toStatus : BusOp → Option U32
  | .status word => some word
  | _ => none

/-- A data word carries the message's byte in its low bits. -/
def BusOp.Carries (msgs : List I2cMsg) : BusOp → Prop
  | .byte i j word => word.setWidth 8 = (message msgs i).buf.getD j 0
  | _ => True

/-- The operations take items off a queue, and read these status words. -/
structure Moves (msgs : List I2cMsg) (ops : List BusOp) (before after : List Item)
    (words : List U32) : Prop where
  taken : ops.filterMap BusOp.toItem ++ after = before
  seen : ops.filterMap BusOp.toStatus = words
  carries : ∀ op ∈ ops, op.Carries msgs

theorem Moves.nil (msgs : List I2cMsg) (todo : List Item) : Moves msgs [] todo todo [] :=
  ⟨rfl, rfl, by simp⟩

theorem Moves.status (msgs : List I2cMsg) (todo : List Item) (word : U32) :
    Moves msgs [.status word] todo todo [word] :=
  ⟨rfl, rfl, by simp [BusOp.Carries]⟩

theorem Moves.append {msgs : List I2cMsg} {first second : List BusOp}
    {before middle after : List Item} {words later : List U32}
    (one : Moves msgs first before middle words) (two : Moves msgs second middle after later) :
    Moves msgs (first ++ second) before after (words ++ later) := by
  constructor
  · rw [List.filterMap_append, List.append_assoc, two.taken, one.taken]
  · rw [List.filterMap_append, one.seen, two.seen]
  · exact List.forall_mem_append.mpr ⟨one.carries, two.carries⟩

@[simp]
theorem Driver.act_dev (i2c : Driver) (dev : Dev) (ops : List BusOp) :
    (i2c.act dev ops).dev = dev :=
  rfl

@[simp]
theorem Driver.act_act (i2c : Driver) (dev dev' : Dev) (ops ops' : List BusOp) :
    (i2c.act dev ops).act dev' ops' = i2c.act dev' (ops ++ ops') := by
  simp [Driver.act]

theorem Driver.act_self (i2c : Driver) : i2c.act i2c.dev [] = i2c := by
  simp [Driver.act]

theorem dataWord_setWidth (value : U8) (cnt rem : Int) :
    (dataWord value cnt rem).setWidth 8 = value := by
  unfold dataWord
  split
  · rw [BitVec.setWidth_or, BitVec.setWidth_setWidth_of_le _ (by decide), BitVec.setWidth_eq]
    exact BitVec.or_zero
  · rw [BitVec.setWidth_or, BitVec.setWidth_setWidth_of_le _ (by decide), BitVec.setWidth_eq]
    exact BitVec.or_zero

/-! ## Positions -/

/-- The handler is inside message `i`, `k` of whose items are done. -/
structure At (msgs : List I2cMsg) (i k : Nat) (dev : Dev) : Prop where
  inside : i < msgs.length
  msg_eq : dev.msg = some i
  rem_eq : dev.rem = msgs.length - i
  pos_eq : dev.pos = k - 1
  le_len : k ≤ (message msgs i).len + 1
  cnt_eq : dev.cnt = (message msgs i).len - (k - 1 : Nat)

/-- What is left to do at a position. -/
def todoAt (msgs : List I2cMsg) (i k : Nat) : List Item :=
  (messageItems i (message msgs i)).drop k ++ itemsFrom (i + 1) (msgs.drop (i + 1))

theorem todoAt_zero (msgs : List I2cMsg) (i : Nat) :
    todoAt msgs i 0 = .addr i :: todoAt msgs i 1 :=
  rfl

theorem todoAt_succ {msgs : List I2cMsg} {i j : Nat} (below : j < (message msgs i).len) :
    todoAt msgs i (j + 1) = byteItem i (message msgs i) j :: todoAt msgs i (j + 2) := by
  simp only [todoAt, messageItems, List.drop_succ_cons, ← List.map_drop]
  rw [List.drop_eq_getElem_cons (by simpa using below)]
  simp

theorem todoAt_end (msgs : List I2cMsg) (i : Nat) :
    todoAt msgs i ((message msgs i).len + 1) = itemsFrom (i + 1) (msgs.drop (i + 1)) := by
  simp [todoAt, messageItems, ← List.map_drop]

theorem itemsFrom_drop {msgs : List I2cMsg} {i : Nat} (inside : i < msgs.length) :
    itemsFrom i (msgs.drop i) = todoAt msgs i 0 := by
  have current : message msgs i = msgs[i] := by simp [message, inside]
  rw [List.drop_eq_getElem_cons inside, itemsFrom, todoAt, List.drop_zero, current]

/-- The position of a finished message that is not the last one is the start of the
next message. -/
theorem todoAt_next {msgs : List I2cMsg} {i : Nat} (more : i + 1 < msgs.length) :
    todoAt msgs i ((message msgs i).len + 1) = todoAt msgs (i + 1) 0 := by
  rw [todoAt_end, itemsFrom_drop more]

theorem todoAt_last {msgs : List I2cMsg} {i : Nat} (last : i + 1 = msgs.length) :
    todoAt msgs i ((message msgs i).len + 1) = [] := by
  rw [todoAt_end, last, List.drop_length]
  rfl

/-- Before the end of a message there is an item to do. -/
theorem todoAt_ne_nil {msgs : List I2cMsg} {i k : Nat} (unfinished : k ≤ (message msgs i).len) :
    todoAt msgs i k ≠ [] := by
  cases k with
  | zero => simp [todoAt_zero]
  | succ j => simp [todoAt_succ unfinished]

theorem At.pos_nonneg_iff {msgs : List I2cMsg} {i k : Nat} {dev : Dev} (at_ : At msgs i k dev) :
    0 ≤ dev.pos ↔ 1 ≤ k := by
  rw [at_.pos_eq]
  omega

theorem At.finished_iff {msgs : List I2cMsg} {i k : Nat} {dev : Dev} (at_ : At msgs i k dev) :
    (dev.pos ≥ 0 ∧ dev.cnt = 0) ↔ k = (message msgs i).len + 1 := by
  have le := at_.le_len
  rw [at_.pos_eq, at_.cnt_eq]
  omega

/-- The next item of a message that is read is a byte to store. -/
theorem todoAt_fill {msgs : List I2cMsg} {i j : Nat} (below : j < (message msgs i).len)
    (read : (message msgs i).isRead = true) :
    todoAt msgs i (j + 1) = .fill i j :: todoAt msgs i (j + 2) := by
  rw [todoAt_succ below, byteItem, if_pos read]

/-- The next item of a message that is written is a byte to send. -/
theorem todoAt_byte {msgs : List I2cMsg} {i j : Nat} (below : j < (message msgs i).len)
    (write : ¬ (message msgs i).isRead = true) :
    todoAt msgs i (j + 1) = .byte i j :: todoAt msgs i (j + 2) := by
  rw [todoAt_succ below, byteItem, if_neg write]

/-- Before the end of a message, `pos` and `cnt` are the bytes done and those left. -/
theorem At.unfinished {msgs : List I2cMsg} {i j : Nat} {dev : Dev} (at_ : At msgs i (j + 1) dev)
    (below : j < (message msgs i).len) :
    dev.pos.toNat = j ∧ ¬ dev.pos < 0 ∧ dev.cnt ≠ 0 := by
  have pos_eq := at_.pos_eq
  have cnt_eq : dev.cnt = (message msgs i).len - j := by simpa using at_.cnt_eq
  omega

/-- A byte is done. -/
theorem At.next {msgs : List I2cMsg} {i j : Nat} {dev after : Dev} (at_ : At msgs i (j + 1) dev)
    (below : j < (message msgs i).len) (msg : after.msg = dev.msg) (rem : after.rem = dev.rem)
    (pos : after.pos = dev.pos + 1) (cnt : after.cnt = dev.cnt - 1) : At msgs i (j + 2) after := by
  have cnt_eq : dev.cnt = (message msgs i).len - j := by simpa using at_.cnt_eq
  constructor
  · exact at_.inside
  · exact msg.trans at_.msg_eq
  · exact rem.trans at_.rem_eq
  · rw [pos, at_.pos_eq]
    omega
  · exact Nat.succ_le_succ below
  · rw [cnt, cnt_eq]
    omega

/-! ## The three parts of a run -/

/-- A part of a run stays in message `i`, keeps the result, and leaves `todo`. -/
def Proceeds (msgs : List I2cMsg) (i k : Nat) (before after : Driver) (todo : List Item) : Prop :=
  ∃ k' ops, after = before.act after.dev ops ∧ At msgs i k' after.dev ∧
    after.dev.ret = before.dev.ret ∧ todo = todoAt msgs i k' ∧
    Moves msgs ops (todoAt msgs i k) todo []

theorem At.stays {msgs : List I2cMsg} {i k : Nat} {i2c : Driver} (at_ : At msgs i k i2c.dev) :
    Proceeds msgs i k i2c i2c (todoAt msgs i k) :=
  ⟨k, [], i2c.act_self.symm, at_, rfl, rfl, Moves.nil msgs _⟩

/-- Writing one word takes off what the engine writes. -/
theorem fillWriteBuffer_spec {msgs : List I2cMsg} {i k : Nat} {i2c : Driver}
    (at_ : At msgs i k i2c.dev)
    (finished : k = (message msgs i).len + 1 → i + 1 = msgs.length) :
    (fillWriteBuffer msgs i i2c).1 = (Engine.write (todoAt msgs i k)).1 ∧
      (fillWriteBuffer msgs i i2c).2.dev.needFlush = i2c.dev.needFlush ∧
      Proceeds msgs i k i2c (fillWriteBuffer msgs i i2c).2
        (Engine.write (todoAt msgs i k)).2 := by
  have stays := at_.stays
  have pos_eq := at_.pos_eq
  have le_len := at_.le_len
  cases k with
  | zero =>
      -- The address.
      rcases at_ with ⟨inside, msg_eq, rem_eq, -, -, cnt_eq⟩
      have neg : i2c.dev.pos < 0 := by omega
      rw [fillWriteBuffer, if_pos neg, todoAt_zero]
      refine ⟨rfl, rfl, 1, [.addr i _], rfl, ⟨inside, msg_eq, rem_eq, ?_, by omega, ?_⟩, rfl, rfl,
        ⟨rfl, rfl, by simp [BusOp.Carries]⟩⟩
      · simp [pos_eq]
      · simpa using cnt_eq
  | succ j =>
      have nonneg : ¬ i2c.dev.pos < 0 := by omega
      rw [fillWriteBuffer, if_neg nonneg]
      by_cases done : j = (message msgs i).len
      · -- Nothing is left of the last message.
        subst done
        have none_left : i2c.dev.cnt = 0 := (at_.finished_iff.mpr rfl).2
        have empty := todoAt_last (finished rfl)
        rw [empty] at stays ⊢
        split
        · exact ⟨rfl, rfl, stays⟩
        · exact ⟨rfl, rfl, stays⟩
      · have below : j < (message msgs i).len := by omega
        by_cases read : (message msgs i).isRead = true
        · rw [if_pos read]
          rw [todoAt_fill below read] at stays ⊢
          exact ⟨rfl, rfl, stays⟩
        · obtain ⟨pos, -, left⟩ := at_.unfinished below
          rw [if_neg read, if_neg left, todoAt_byte below read]
          refine ⟨rfl, rfl, j + 2, [.byte i i2c.dev.pos.toNat _], rfl,
            at_.next below rfl rfl rfl rfl, rfl, rfl, ⟨?_, rfl, ?_⟩⟩
          · rw [todoAt_byte below read, pos]
            rfl
          · simp [BusOp.Carries, dataWord_setWidth]

/-- A word that no message expects is thrown away, and takes off nothing. -/
theorem readBuffer_discards {msgs : List I2cMsg} {i k : Nat} {i2c : Driver}
    (at_ : At msgs i k i2c.dev) (data : U32)
    (unexpected : ¬ ((message msgs i).isRead = true ∧ i2c.dev.pos ≥ 0 ∧ i2c.dev.cnt ≠ 0)) :
    (readBuffer msgs i data i2c).dev.needFlush = false ∧
      Proceeds msgs i k i2c (readBuffer msgs i data i2c) (todoAt msgs i k) := by
  rcases at_ with ⟨inside, msg_eq, rem_eq, pos_eq, le_len, cnt_eq⟩
  rw [readBuffer, if_neg unexpected]
  refine ⟨?_, k, _, rfl, ?_, ?_, rfl, ?_⟩
  · cases flag : i2c.dev.needFlush <;> simp
  · cases flag : i2c.dev.needFlush <;>
      exact ⟨inside, msg_eq, rem_eq, pos_eq, le_len, cnt_eq⟩
  · cases flag : i2c.dev.needFlush <;> rfl
  · split
    · exact ⟨rfl, rfl, by simp [BusOp.Carries]⟩
    · exact ⟨rfl, rfl, by simp [BusOp.Carries]⟩

/-- A word that the message expects is stored. -/
theorem readBuffer_fills {msgs : List I2cMsg} {i j : Nat} {i2c : Driver}
    (at_ : At msgs i (j + 1) i2c.dev) (data : U32) (below : j < (message msgs i).len)
    (read : (message msgs i).isRead = true) :
    (readBuffer msgs i data i2c).dev.needFlush =
        (i2c.dev.needFlush || (message msgs i).len == 1) ∧
      Proceeds msgs i (j + 1) i2c (readBuffer msgs i data i2c) (todoAt msgs i (j + 2)) := by
  obtain ⟨pos, nonneg, left⟩ := at_.unfinished below
  have cnt_eq : i2c.dev.cnt = (message msgs i).len - j := by simpa using at_.cnt_eq
  have expects : (message msgs i).isRead = true ∧ i2c.dev.pos ≥ 0 ∧ i2c.dev.cnt ≠ 0 :=
    ⟨read, Int.not_lt.mp nonneg, left⟩
  have single : decide (i2c.dev.cnt = 1 ∧ i2c.dev.pos = 0) = ((message msgs i).len == 1) := by
    rw [Bool.eq_iff_iff, decide_eq_true_iff, beq_iff_eq]
    omega
  rw [readBuffer, if_pos expects]
  refine ⟨by simp [← single], j + 2, _, rfl, at_.next below rfl rfl rfl rfl, rfl, rfl, ?_⟩
  rw [pos, todoAt_fill below read]
  split
  · exact ⟨rfl, rfl, by simp [BusOp.Carries]⟩
  · exact ⟨rfl, rfl, by simp [BusOp.Carries]⟩

/-- Reading one word takes off what the engine reads. -/
theorem readBuffer_spec {msgs : List I2cMsg} {i k : Nat} {i2c : Driver}
    (at_ : At msgs i k i2c.dev) (data : U32) :
    (readBuffer msgs i data i2c).dev.needFlush =
        (Engine.read msgs i2c.dev.needFlush (todoAt msgs i k)).1 ∧
      Proceeds msgs i k i2c (readBuffer msgs i data i2c)
        (Engine.read msgs i2c.dev.needFlush (todoAt msgs i k)).2 := by
  have pos_nonneg := at_.pos_nonneg_iff
  have finished := at_.finished_iff
  cases k with
  | zero =>
      exact readBuffer_discards at_ data fun expects =>
        absurd (pos_nonneg.mp expects.2.1) (by decide)
  | succ j =>
      by_cases done : j = (message msgs i).len
      · subst done
        have discarded := readBuffer_discards at_ data fun expects =>
          expects.2.2 (finished.mpr rfl).2
        by_cases more : i + 1 < msgs.length
        · rw [todoAt_next more, todoAt_zero] at discarded ⊢
          exact discarded
        · have inside := at_.inside
          rw [todoAt_last (by omega)] at discarded ⊢
          exact discarded
      · have below : j < (message msgs i).len := by
          have le_len := at_.le_len
          omega
        by_cases read : (message msgs i).isRead = true
        · rw [todoAt_fill below read]
          exact readBuffer_fills at_ data below read
        · have discarded := readBuffer_discards at_ data fun expects => read expects.1
          rw [todoAt_byte below read] at discarded ⊢
          exact discarded

/-- At the end of a run a finished message gives way to the next one, and a
finished list is noted in `timeout`. -/
theorem advance_spec {msgs : List I2cMsg} {i k : Nat} {i2c : Driver}
    (at_ : At msgs i k i2c.dev) (notDone : Bool) :
    ∃ i' k' dev,
      advance msgs i notDone i2c =
        { i2c with
          dev := dev
          timeout :=
            if (todoAt msgs i k).isEmpty && !notDone && !i2c.dev.needFlush then 0
            else i2c.timeout } ∧
      At msgs i' k' dev ∧ (k' = (message msgs i').len + 1 → i' + 1 = msgs.length) ∧
      todoAt msgs i' k' = todoAt msgs i k ∧ dev.ret = i2c.dev.ret ∧
      dev.needFlush = i2c.dev.needFlush := by
  have finished_iff := at_.finished_iff
  by_cases finished : k = (message msgs i).len + 1
  · have inside := at_.inside
    have rem_eq := at_.rem_eq
    rw [advance, if_pos (finished_iff.mpr finished)]
    by_cases more : i + 1 < msgs.length
    · have several : i2c.dev.rem > 1 := by omega
      have busy : (todoAt msgs i k).isEmpty = false := by
        rw [finished, todoAt_next more]
        rfl
      rw [if_pos several, busy]
      refine ⟨i + 1, 0, _, rfl, ⟨more, rfl, ?_, by simp, by omega, by simp⟩, by omega, ?_, rfl, rfl⟩
      · simp only [rem_eq]
        omega
      · rw [finished, todoAt_next more]
    · have single : ¬ i2c.dev.rem > 1 := by omega
      have empty : (todoAt msgs i k).isEmpty = true := by
        rw [finished, todoAt_last (by omega)]
        rfl
      rw [if_neg single, empty]
      refine ⟨i, k, i2c.dev, ?_, at_, fun _ => by omega, rfl, rfl, rfl⟩
      rw [Bool.true_and]
      split <;> rfl
  · have busy : (todoAt msgs i k).isEmpty = false := by
      have le_len := at_.le_len
      rw [List.isEmpty_eq_false_iff]
      exact todoAt_ne_nil (by omega)
    rw [advance, if_neg (mt finished_iff.mp finished), busy]
    exact ⟨i, k, i2c.dev, rfl, at_, fun done => absurd done finished, rfl, rfl, rfl⟩

/-! ## A whole run -/

/-- The handler's statics stand for an engine. -/
def Represents (msgs : List I2cMsg) (dev : Dev) (engine : Engine) : Prop :=
  ∃ i k, At msgs i k dev ∧ (k = (message msgs i).len + 1 → i + 1 = msgs.length) ∧
    engine.todo = todoAt msgs i k ∧ engine.needFlush = dev.needFlush

/-- The write part of a run, on the handler's side. -/
def writePart (msgs : List I2cMsg) (i : Nat) (status : U32) (i2c : Driver) : Bool × Driver :=
  if test status I2C_STATUS_WR_BUFFER_FULL then (true, i2c) else fillWriteBuffer msgs i i2c

/-- The read part of a run, on the handler's side. -/
def readPart (msgs : List I2cMsg) (i : Nat) (irq : Irq) (i2c : Driver) : Driver :=
  if test irq.status I2C_STATUS_RD_BUFFER_FULL then readBuffer msgs i irq.data i2c else i2c

/-- A run in the middle of a transfer. -/
theorem interruptLocked_of_msg {msgs : List I2cMsg} {i : Nat} {i2c : Driver}
    (current : i2c.dev.msg = some i) (irq : Irq) :
    interruptLocked msgs i2c irq =
      let noted := i2c.emit [.status irq.status]
      if test irq.status I2C_STATUS_ERROR_MASK then
        { noted with dev := { i2c.dev with ret := ERROR }, timeout := ERR_TIMED_OUT }
      else
        advance msgs i (writePart msgs i irq.status noted).1
          (readPart msgs i irq (writePart msgs i irq.status noted).2) := by
  simp only [interruptLocked, Driver.emit, current]
  rfl

theorem writePart_spec {msgs : List I2cMsg} {i k : Nat} {i2c : Driver} {engine : Engine}
    (at_ : At msgs i k i2c.dev)
    (finished : k = (message msgs i).len + 1 → i + 1 = msgs.length)
    (todo : engine.todo = todoAt msgs i k) (status : U32) :
    (writePart msgs i status i2c).1 = (engine.written status).1 ∧
      (writePart msgs i status i2c).2.dev.needFlush = i2c.dev.needFlush ∧
      Proceeds msgs i k i2c (writePart msgs i status i2c).2 (engine.written status).2 := by
  unfold writePart Engine.written
  rw [todo]
  split
  · exact ⟨rfl, rfl, at_.stays⟩
  · exact fillWriteBuffer_spec at_ finished

theorem readPart_spec {msgs : List I2cMsg} {i k : Nat} {i2c : Driver} {engine : Engine}
    {irq : Irq} (at_ : At msgs i k i2c.dev)
    (todo : (engine.written irq.status).2 = todoAt msgs i k)
    (flush : i2c.dev.needFlush = engine.needFlush) :
    (readPart msgs i irq i2c).dev.needFlush = (engine.received msgs irq.status).1 ∧
      Proceeds msgs i k i2c (readPart msgs i irq i2c) (engine.received msgs irq.status).2 := by
  unfold readPart Engine.received
  rw [todo, ← flush]
  split
  · exact readBuffer_spec at_ irq.data
  · exact ⟨rfl, at_.stays⟩

/-- What `timeout` is after a run. -/
def timeoutAfter (msgs : List I2cMsg) (engine : Engine) (status : U32) (timeout : Int) : Int :=
  if test status I2C_STATUS_ERROR_MASK then ERR_TIMED_OUT
  else if engine.completes msgs status then 0
  else timeout

/-- What `timeout` is after runs with these status words. -/
def timeoutRun (msgs : List I2cMsg) : (statuses : List U32) → Engine → (timeout : Int) → Int
  | [], _, timeout => timeout
  | status :: rest, engine, timeout =>
      timeoutRun msgs rest (engine.step msgs status) (timeoutAfter msgs engine status timeout)

theorem timeoutRun_append (msgs : List I2cMsg) (statuses : List U32) (status : U32)
    (engine : Engine) (timeout : Int) :
    timeoutRun msgs (statuses ++ [status]) engine timeout =
      timeoutAfter msgs (statuses.foldl (Engine.step msgs) engine) status
        (timeoutRun msgs statuses engine timeout) := by
  induction statuses generalizing engine timeout with
  | nil => rfl
  | cons first rest ih => exact ih _ _

/-- Without an error bit, only a run that finds the list finished changes `timeout`. -/
theorem timeoutRun_of_unfailed {msgs : List I2cMsg} {statuses : List U32}
    (unfailed : (Engine.run msgs statuses).failed = false) (timeout : Int) :
    timeoutRun msgs statuses (Engine.start msgs) timeout =
      if (Engine.run msgs statuses).complete then 0 else timeout := by
  induction statuses using List.reverseRecOn with
  | nil => rfl
  | append_singleton statuses status ih =>
      rw [Engine.run_append, Engine.step_failed, Bool.or_eq_false_iff] at unfailed
      rcases unfailed with ⟨unfailed, clean⟩
      rw [timeoutRun_append, ih unfailed, Engine.run_append]
      simp only [timeoutAfter, Engine.step, clean, Bool.false_eq_true, if_false]
      change (if (Engine.run msgs statuses).completes msgs status then 0 else _) = _
      cases (Engine.run msgs statuses).completes msgs status <;> simp

/-- Once a run has seen an error bit or found the list finished, the earlier `timeout` is
forgotten. -/
theorem timeoutRun_forgets {msgs : List I2cMsg} {statuses : List U32}
    (noted : (Engine.run msgs statuses).failed = true ∨
      (Engine.run msgs statuses).complete = true) (one two : Int) :
    timeoutRun msgs statuses (Engine.start msgs) one =
      timeoutRun msgs statuses (Engine.start msgs) two := by
  induction statuses using List.reverseRecOn with
  | nil => rcases noted with failed | complete <;> contradiction
  | append_singleton statuses status ih =>
      rw [timeoutRun_append, timeoutRun_append, timeoutAfter, timeoutAfter]
      by_cases error : test status I2C_STATUS_ERROR_MASK = true
      · rw [if_pos error, if_pos error]
      · rw [if_neg error, if_neg error]
        change (if (Engine.run msgs statuses).completes msgs status then 0 else _) =
          if (Engine.run msgs statuses).completes msgs status then 0 else _
        cases now : (Engine.run msgs statuses).completes msgs status with
        | true => rfl
        | false =>
            rw [Engine.run_append, Engine.step, if_neg error] at noted
            simp only [now, Bool.or_false] at noted
            exact ih noted

/-- One run of the handler is one step of the engine. -/
theorem interruptLocked_spec {msgs : List I2cMsg} {i2c : Driver} {engine : Engine}
    (represents : Represents msgs i2c.dev engine) (irq : Irq) :
    ∃ dev ops,
      interruptLocked msgs i2c irq =
        ⟨dev, timeoutAfter msgs engine irq.status i2c.timeout, i2c.log ++ ops⟩ ∧
      Represents msgs dev (engine.step msgs irq.status) ∧
      dev.ret = (if test irq.status I2C_STATUS_ERROR_MASK then ERROR else i2c.dev.ret) ∧
      Moves msgs ops engine.todo (engine.step msgs irq.status).todo [irq.status] := by
  rcases represents with ⟨i, k, at_, finished, todo, flush⟩
  rw [interruptLocked_of_msg at_.msg_eq, Engine.step, timeoutAfter]
  by_cases error : test irq.status I2C_STATUS_ERROR_MASK = true
  · simp only [error, if_true]
    refine ⟨_, [.status irq.status], rfl, ⟨i, k, ?_, finished, todo, flush⟩, rfl,
      Moves.status msgs _ _⟩
    exact ⟨at_.inside, at_.msg_eq, at_.rem_eq, at_.pos_eq, at_.le_len, at_.cnt_eq⟩
  · simp only [error]
    have noted : At msgs i k (i2c.emit [.status irq.status]).dev := at_
    generalize written_eq : writePart msgs i irq.status (i2c.emit [.status irq.status]) = written
    obtain ⟨notDone, sameFlush, k₁, ops₁, driver₁, at₁, ret₁, todo₁, moves₁⟩ :=
      writePart_spec noted finished todo irq.status
    rw [written_eq] at notDone sameFlush driver₁ at₁ ret₁
    obtain ⟨flush₂, k₂, ops₂, driver₂, at₂, ret₂, todo₂, moves₂⟩ :=
      readPart_spec at₁ todo₁ (sameFlush.trans flush.symm)
    generalize readPart msgs i irq written.2 = received at *
    obtain ⟨i', k', dev, advanced, at', finished', todo', ret', flush'⟩ :=
      advance_spec at₂ written.1
    refine ⟨dev, [.status irq.status] ++ ops₁ ++ ops₂, ?_, ⟨i', k', at', finished', ?_, ?_⟩, ?_, ?_⟩
    · rw [advanced, Engine.completes, todo₂, ← notDone, ← flush₂, driver₂, driver₁]
      simp [Driver.act, Driver.emit]
    · exact todo₂.trans todo'.symm
    · exact flush₂.symm.trans flush'.symm
    · rw [ret', ret₂, ret₁]
      rfl
    · rw [todo]
      rw [← todo₁] at moves₂
      exact ((Moves.status msgs _ irq.status).append moves₁).append moves₂

end HtcLeo.I2c
