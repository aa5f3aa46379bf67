import HtcLeo.I2c.Success

/-!
# What a transfer inherits from earlier ones

Of the driver's statics only `timeout` survives from one transfer into the next:
the fields of `dev` are set before the first handler run, and until then the
handler finds no message.  No handler run looks at `timeout`, so two runs of a call go the same
way up to the end of the wait; they differ only if the flag that one of them brought along is
still there and is looked at.
-/

namespace HtcLeo.I2c

open Flags

/-! ## Runs that differ in the flag -/

/-- The drivers agree on everything but `timeout`. -/
structure Twin (one two : Driver) : Prop where
  dev_eq : one.dev = two.dev
  log_eq : one.log = two.log

theorem Twin.act {one two : Driver} (twin : Twin one two) (dev : Dev) (ops : List BusOp) :
    Twin (one.act dev ops) (two.act dev ops) :=
  ⟨rfl, congrArg (· ++ ops) twin.log_eq⟩

theorem Twin.emit {one two : Driver} (twin : Twin one two) (ops : List BusOp) :
    Twin (one.emit ops) (two.emit ops) :=
  ⟨twin.dev_eq, congrArg (· ++ ops) twin.log_eq⟩

theorem Twin.fillWriteBuffer {one two : Driver} (twin : Twin one two) (msgs : List I2cMsg)
    (i : Nat) :
    (fillWriteBuffer msgs i one).1 = (fillWriteBuffer msgs i two).1 ∧
      Twin (fillWriteBuffer msgs i one).2 (fillWriteBuffer msgs i two).2 := by
  unfold I2c.fillWriteBuffer
  rw [twin.dev_eq]
  simp only
  split
  · exact ⟨rfl, twin.act _ _⟩
  · split
    · exact ⟨rfl, twin⟩
    · split
      · exact ⟨rfl, twin⟩
      · exact ⟨rfl, twin.act _ _⟩

theorem Twin.readBuffer {one two : Driver} (twin : Twin one two) (msgs : List I2cMsg)
    (i : Nat) (data : U32) : Twin (readBuffer msgs i data one) (readBuffer msgs i data two) := by
  unfold I2c.readBuffer
  rw [twin.dev_eq]
  simp only
  split
  · exact twin.act _ _
  · exact twin.act _ _

theorem Twin.advance {one two : Driver} (twin : Twin one two) (msgs : List I2cMsg) (i : Nat)
    (notDone : Bool) : Twin (advance msgs i notDone one) (advance msgs i notDone two) := by
  unfold I2c.advance
  rw [twin.dev_eq]
  simp only
  split
  · split
    · exact ⟨rfl, twin.log_eq⟩
    · split
      · exact ⟨rfl, twin.log_eq⟩
      · exact twin
  · exact twin

theorem Twin.interruptLocked {one two : Driver} (twin : Twin one two) (msgs : List I2cMsg)
    (irq : Irq) : Twin (interruptLocked msgs one irq) (interruptLocked msgs two irq) := by
  have noted := twin.emit [.status irq.status]
  cases current : two.dev.msg with
  | none =>
      rw [interruptLocked_of_idle current,
        interruptLocked_of_idle ((congrArg Dev.msg twin.dev_eq).trans current)]
      exact noted
  | some i =>
      rw [interruptLocked_of_msg current,
        interruptLocked_of_msg ((congrArg Dev.msg twin.dev_eq).trans current)]
      simp only
      split
      · exact ⟨by rw [twin.dev_eq], noted.log_eq⟩
      · have wrote : (writePart msgs i irq.status (one.emit [.status irq.status])).1 =
              (writePart msgs i irq.status (two.emit [.status irq.status])).1 ∧
            Twin (writePart msgs i irq.status (one.emit [.status irq.status])).2
              (writePart msgs i irq.status (two.emit [.status irq.status])).2 := by
          unfold writePart
          split
          · exact ⟨rfl, noted⟩
          · exact noted.fillWriteBuffer msgs i
        rw [wrote.1]
        apply Twin.advance
        unfold readPart
        split
        · exact wrote.2.readBuffer msgs i irq.data
        · exact wrote.2

theorem Twin.interrupts {one two : Driver} (twin : Twin one two) (msgs : List I2cMsg)
    (irqs : List Irq) :
    Twin (irqs.foldl (I2c.interruptLocked msgs) one)
      (irqs.foldl (I2c.interruptLocked msgs) two) := by
  induction irqs generalizing one two with
  | nil => exact twin
  | cons irq rest ih => exact ih (twin.interruptLocked msgs irq)

theorem Twin.rounds {one two : Driver} (twin : Twin one two) (msgs : List I2cMsg)
    (rounds : List PollRound) :
    Twin (rounds.foldl (pollStep msgs) one) (rounds.foldl (pollStep msgs) two) := by
  induction rounds generalizing one two with
  | nil => exact twin
  | cons round rest ih => exact ih ((twin.interrupts msgs round.irqs).emit _)

theorem Twin.poll {one two : Driver} (twin : Twin one two) (msgs : List I2cMsg) (poll : Poll) :
    Twin (pollEnd msgs poll one) (pollEnd msgs poll two) :=
  (twin.rounds msgs (polled poll)).interrupts msgs poll.late

theorem Twin.teardown {one two : Driver} (twin : Twin one two) :
    Twin (teardown one) (teardown two) := by
  refine ⟨?_, twin.log_eq⟩
  simp only [I2c.teardown, twin.dev_eq]

/-- The end of a call looks at `timeout` only if the bus is free then. -/
theorem Twin.endXfer {one two : Driver} (twin : Twin one two) {input : XferInput} {busy : Bool}
    (same : (busy && input.endRecovery.fails) = true ∨
      (one.timeout = ERR_TIMED_OUT ↔ two.timeout = ERR_TIMED_OUT)) (ret : Int) :
    (endXfer input ret (if busy then ERR_TIMED_OUT else 0) one).1 =
        (endXfer input ret (if busy then ERR_TIMED_OUT else 0) two).1 ∧
      (endXfer input ret (if busy then ERR_TIMED_OUT else 0) one).2.log =
        (endXfer input ret (if busy then ERR_TIMED_OUT else 0) two).2.log := by
  rw [endXfer_eq, endXfer_eq]
  rcases same with fails | flag_iff
  · rw [if_pos fails, if_pos fails]
    exact ⟨rfl, ((twin.emit _).emit _).log_eq⟩
  · simp only [flag_iff]
    split
    · exact ⟨rfl, ((twin.emit _).emit _).log_eq⟩
    · exact ⟨rfl, ((twin.emit _).emit _).log_eq⟩

/-! ## One call after a history -/

/-- What a call returns and what it does to the hardware. -/
def observe (msgs : List I2cMsg) (input : XferInput) (i2c : Driver) : Int × List BusOp :=
  let result := msmI2cXfer msgs input { i2c with log := [] }
  (result.1, result.2.log)

/-- Two runs of the handler agree on the flag at the end if they do at the beginning or if they
set it. -/
theorem timeoutRun_iff {msgs : List I2cMsg} {statuses : List U32} {one two : Int}
    (same : (one = ERR_TIMED_OUT ↔ two = ERR_TIMED_OUT) ∨
      (Engine.run msgs statuses).failed = true ∨ (Engine.run msgs statuses).complete = true) :
    timeoutRun msgs statuses (Engine.start msgs) one = ERR_TIMED_OUT ↔
      timeoutRun msgs statuses (Engine.start msgs) two = ERR_TIMED_OUT := by
  rcases same with flag_iff | noted
  · cases failed : (Engine.run msgs statuses).failed with
    | true => rw [timeoutRun_forgets (.inl failed) one two]
    | false =>
        rw [timeoutRun_of_unfailed failed, timeoutRun_of_unfailed failed]
        split
        · exact Iff.rfl
        · exact flag_iff
  · rw [timeoutRun_forgets noted one two]

/-- The call does not depend on an earlier `timeout`: it gives up before the messages or after
the wait, or a handler run sees an error bit or finds the list finished. -/
def XferInput.Forgets (msgs : List I2cMsg) (input : XferInput) : Prop :=
  input.startFails = true ∨ (input.engine msgs).failed = true ∨
    (input.engine msgs).complete = true ∨ input.endFails = true

/-- Drivers between transfers that agree on the flag cannot be told apart, and neither can any
two by a call that forgets it. -/
theorem observe_eq_of_forgets {msgs : List I2cMsg} (nonempty : msgs ≠ []) {one two : Driver}
    (idleOne : Idle one) (idleTwo : Idle two) {input : XferInput}
    (same : (one.timeout = ERR_TIMED_OUT ↔ two.timeout = ERR_TIMED_OUT) ∨ input.Forgets msgs) :
    observe msgs input one = observe msgs input two := by
  have idleOne : Idle { one with log := [] } := idleOne
  have idleTwo : Idle { two with log := [] } := idleTwo
  simp only [observe, msmI2cXfer, startXfer_eq idleOne, startXfer_eq idleTwo]
  cases starts : input.startFails with
  | true => rfl
  | false =>
      have twin : Twin (setup msgs ({ one with log := [] }.emit input.startOps))
          (setup msgs ({ two with log := [] }.emit input.startOps)) := ⟨rfl, rfl⟩
      have waited := (twin.interruptLocked msgs input.first).poll msgs input.waitPoll
      -- What the two runs have in `timeout` after the wait.
      have flagOne := (waited_follows nonempty input
        ({ one with log := [] }.emit input.startOps)).timeout_eq
      have flagTwo := (waited_follows nonempty input
        ({ two with log := [] }.emit input.startOps)).timeout_eq
      have agree : (staysBusy input.waitPoll && input.endRecovery.fails) = true ∨
          ((pollEnd msgs input.waitPoll (interruptLocked msgs
              (setup msgs ({ one with log := [] }.emit input.startOps)) input.first)).timeout =
              ERR_TIMED_OUT ↔
            (pollEnd msgs input.waitPoll (interruptLocked msgs
              (setup msgs ({ two with log := [] }.emit input.startOps)) input.first)).timeout =
              ERR_TIMED_OUT) := by
        rw [flagOne, flagTwo]
        rcases same with flag_iff | start | failed | complete | ends
        · exact .inr (timeoutRun_iff (.inl flag_iff))
        · rw [starts] at start
          cases start
        · exact .inr (timeoutRun_iff (.inr (.inl failed)))
        · exact .inr (timeoutRun_iff (.inr (.inr complete)))
        · exact .inl ends
      have ended := waited.teardown.endXfer agree
      simp only [pollNotbusy_eq, waited.dev_eq]
      exact Prod.ext (ended _).1 (ended _).2

/-! ## Histories -/

/-- The driver after a list of earlier calls, oldest first. -/
def afterCalls (calls : List (List I2cMsg × XferInput)) : Driver :=
  calls.foldl (fun i2c call => (msmI2cXfer call.1 call.2 i2c).2) probed

theorem endXfer_idle {i2c : Driver} (idle : Idle i2c) (input : XferInput) (ret : Int)
    (busy : Bool) : Idle (endXfer input ret (if busy then ERR_TIMED_OUT else 0) i2c).2 := by
  rw [endXfer_eq]
  split
  · exact idle
  · exact idle

/-- A call leaves no message behind, however it ends. -/
theorem msmI2cXfer_idle {i2c : Driver} (idle : Idle i2c) (msgs : List I2cMsg)
    (input : XferInput) : Idle (msmI2cXfer msgs input i2c).2 := by
  simp only [msmI2cXfer, startXfer_eq idle]
  cases input.startFails with
  | true => exact idle
  | false =>
      simp only [pollNotbusy_eq]
      exact endXfer_idle (show Idle (teardown _) from rfl) input _ _

theorem afterCalls_idle (calls : List (List I2cMsg × XferInput)) : Idle (afterCalls calls) := by
  have general : ∀ i2c : Driver, Idle i2c →
      Idle (calls.foldl (fun i2c call => (msmI2cXfer call.1 call.2 i2c).2) i2c) := by
    induction calls with
    | nil => exact fun _ idle => idle
    | cons call rest ih => exact fun i2c idle => ih _ (msmI2cXfer_idle idle call.1 call.2)
  exact general probed rfl

/-- After a history of calls, a call behaves as the first one after the probe exactly when the
history did not leave `ERR_TIMED_OUT` in `timeout` or the call forgets what it left. -/
theorem observe_afterCalls_iff (calls : List (List I2cMsg × XferInput)) {msgs : List I2cMsg}
    (nonempty : msgs ≠ []) (input : XferInput) :
    observe msgs input (afterCalls calls) = observe msgs input probed ↔
      (afterCalls calls).timeout ≠ ERR_TIMED_OUT ∨ input.Forgets msgs := by
  have idle := afterCalls_idle calls
  have first : Idle probed := rfl
  have fresh : probed.timeout ≠ ERR_TIMED_OUT := by decide
  constructor
  · intro same
    by_contra neither
    rw [not_or, not_not, XferInput.Forgets, not_or, not_or, not_or] at neither
    obtain ⟨stale, starts, unfailed, incomplete, ends⟩ := neither
    have cleared : Idle { afterCalls calls with log := [] } := idle
    have after := msmI2cXfer_spec nonempty input cleared
    have before := msmI2cXfer_spec nonempty input first
    rw [if_pos (.inr (.inr ⟨Bool.not_eq_true _ |>.mp ends, stale,
      Bool.not_eq_true _ |>.mp incomplete⟩))] at after
    rw [if_neg (not_or.mpr ⟨starts, not_or.mpr ⟨unfailed, fun stays => fresh stays.2.1⟩⟩)] at before
    have result : (observe msgs input (afterCalls calls)).1 = msgs.length := by
      rw [same]
      exact before.1
    have negative : (observe msgs input (afterCalls calls)).1 < 0 := after
    omega
  · rintro (unset | forgets)
    · exact observe_eq_of_forgets nonempty idle first (.inl (iff_of_false unset fresh))
    · exact observe_eq_of_forgets nonempty idle first (.inr forgets)

/-! ## One failed transfer -/

/-- A message without data. -/
def emptyWrite : List I2cMsg := [⟨0x36, 0, [], fits_nil⟩]

/-- A controller that is idle but takes no word. -/
def fullBus : XferInput := quickBus I2C_STATUS_WR_BUFFER_FULL [] []

/-- A transfer that is not acknowledged. -/
def nackedCall : List I2cMsg × XferInput := (writeFive, quickBus 0x8 [] [])

/-- A transfer that a handler run finds finished forgets the failure before it. -/
theorem observe_after_completed :
    observe writeFive (quickBus 0 [⟨0, 0⟩] [⟨0, 0⟩]) (afterCalls [nackedCall]) =
      observe writeFive (quickBus 0 [⟨0, 0⟩] [⟨0, 0⟩]) probed :=
  (observe_afterCalls_iff [nackedCall] (by decide) (quickBus 0 [⟨0, 0⟩] [⟨0, 0⟩])).mpr
    (.inr (.inr (.inr (.inl (by decide +kernel)))))

/-- After a transfer that was not acknowledged, the next one fails on a controller
on which the first transfer after the probe succeeds. -/
theorem observe_after_nacked :
    (observe emptyWrite fullBus (afterCalls [nackedCall])).1 = ERR_TIMED_OUT ∧
      (observe emptyWrite fullBus probed).1 = 1 :=
  ⟨by decide +kernel, by decide +kernel⟩

end HtcLeo.I2c
