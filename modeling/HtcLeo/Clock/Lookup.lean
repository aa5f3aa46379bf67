import HtcLeo.Clock.Core
import HtcLeo.Pcom.Exchange
import HtcLeo.Transition.Run

/-!
# The clock table over whole runs

A request for a clock changes its table entry exactly when the modem's answer
counts as a success and its first word is another number.  So the table keeps
the values of `FillClocksLookup` along a run exactly when every answer fails or
echoes the clock number.
-/

namespace HtcLeo.Clock

open Poll Pcom Transition

/-! ## One request -/

/-- The table after an answer to a request for one clock. -/
def answered (clocksLookup : ClkId → U32) (id : ClkId) (reply : Reply) : ClkId → U32 :=
  Function.update clocksLookup id
    (if reply.status ≠ PCOM_CMD_FAIL then reply.data1 else clocksLookup id)

/-- An answer that leaves the entry it was asked for as it was. -/
def Echoes (number : U32) (reply : Reply) : Prop :=
  reply.status = PCOM_CMD_FAIL ∨ reply.data1 = number

instance (number : U32) (reply : Reply) : Decidable (Echoes number reply) :=
  inferInstanceAs (Decidable (_ ∨ _))

theorem answered_eq_self_iff (clocksLookup : ClkId → U32) (id : ClkId) (reply : Reply) :
    answered clocksLookup id reply = clocksLookup ↔ Echoes (clocksLookup id) reply := by
  rw [answered, Function.update_eq_iff, Echoes]
  by_cases failed : reply.status = PCOM_CMD_FAIL
  · simp [failed]
  · simp [failed]

/-- What one request does: it sends the number in the table and stores the answer. -/
structure Requested (command : U32) (id : ClkId) (before after : Clocks) (reply : Reply) : Prop
    where
  quiet : after.shared.notified = false
  sent : ∃ data2, after.shared.exchanges =
    ⟨command, before.clocksLookup id, data2, reply⟩ :: before.shared.exchanges
  stored : after.clocksLookup = answered before.clocksLookup id reply

theorem procCommAt_requested {command : U32} (notDone : command ≠ PCOM_CMD_DONE) {id : ClkId}
    {data2 : Option U32} {before after : Clocks} {tape rest : List Modem}
    {outcome : Int × Option U32} (quiet : before.shared.notified = false)
    (returned : procCommAt command id data2 before tape = some (outcome, after, rest)) :
    ∃ reply, Requested command id before after reply := by
  rw [procCommAt, get_bind_apply] at returned
  rcases bind_eq_some_iff.mp returned with ⟨result, _, _, zoomed, returned⟩
  rcases zoom_eq_some_iff.mp zoomed with ⟨shared, called, rfl⟩
  cases returned
  rcases msmProcComm_exchange notDone quiet called with ⟨reply, rfl, -, quietAgain, exchanges⟩
  refine ⟨reply, quietAgain, ⟨data2.getD 0, exchanges⟩, ?_⟩
  by_cases failed : reply.status = PCOM_CMD_FAIL
  · simp [answered, Reply.settle_of_fail failed, failed]
  · simp [answered, Reply.settle_of_ne_fail failed, failed]

/-! ## One operation -/

/-- What an operation does that asks the modem only in some cases. -/
def AsksWhen (asks : Prop) (command : U32) (id : ClkId) (before after : Clocks) : Prop :=
  (¬asks ∧ after = before) ∨ (asks ∧ ∃ reply, Requested command id before after reply)

/-- An operation that asks if the table has a number for the clock, and does not write to
it after that. -/
theorem asksWhen_supported {α : Type} {command : U32} (notDone : command ≠ PCOM_CMD_DONE)
    {id : ClkId} {data2 : Option U32} {next : Int × Option U32 → Poll Modem Clocks α}
    {value : α} {before after : Clocks} {tape rest : List Modem} {ret : α}
    (keeps : ∀ outcome middle tape, next outcome middle tape = some (ret, after, rest) →
      after = middle)
    (quiet : before.shared.notified = false)
    (returned : (get >>= fun clocks : Clocks =>
      if clocks.clocksLookup id ≠ -1 then procCommAt command id data2 >>= next
      else pure value) before tape = some (ret, after, rest)) :
    AsksWhen (before.clocksLookup id ≠ -1) command id before after := by
  rw [get_bind_apply] at returned
  split at returned
  · rename_i supported
    rcases bind_eq_some_iff.mp returned with ⟨outcome, middle, left, called, returned⟩
    rw [keeps outcome middle left returned]
    exact .inr ⟨supported, procCommAt_requested notDone quiet called⟩
  · rename_i unsupported
    cases returned
    exact .inl ⟨unsupported, rfl⟩

theorem clkEnable_asksWhen {id : ClkId} {before after : Clocks} {tape rest : List Modem}
    {ret : U32} (quiet : before.shared.notified = false)
    (returned : clkEnable id before tape = some (ret, after, rest)) :
    AsksWhen (before.clocksLookup id ≠ -1) PCOM_CLK_REGIME_SEC_ENABLE id before after := by
  refine asksWhen_supported (by decide) (fun _ _ _ ended => ?_) quiet returned
  rw [get_bind_apply] at ended
  cases ended
  rfl

theorem clkDisable_asksWhen {id : ClkId} {before after : Clocks} {tape rest : List Modem}
    (quiet : before.shared.notified = false)
    (returned : clkDisable id before tape = some ((), after, rest)) :
    AsksWhen (before.clocksLookup id ≠ -1) PCOM_CLK_REGIME_SEC_DISABLE id before after := by
  refine asksWhen_supported (by decide) (fun _ _ _ ended => ?_) quiet returned
  cases ended
  rfl

theorem clkGetRate_asksWhen {id : ClkId} {before after : Clocks} {tape rest : List Modem}
    {ret : U32} (quiet : before.shared.notified = false)
    (returned : clkGetRate id before tape = some (ret, after, rest)) :
    AsksWhen (before.clocksLookup id ≠ -1) PCOM_CLK_REGIME_SEC_MSM_GET_CLK_FREQ_KHZ id
      before after := by
  refine asksWhen_supported (by decide) (fun _ _ _ ended => ?_) quiet returned
  cases ended
  rfl

/-- `CotullaClkSetRate` asks whenever its `switch` finds a speed, whatever the
table says. -/
theorem clkSetRate_asksWhen {id : ClkId} {freq : U32} {before after : Clocks}
    {tape rest : List Modem} {ret : U32} (quiet : before.shared.notified = false)
    (returned : clkSetRate id freq before tape = some (ret, after, rest)) :
    AsksWhen (∃ speed, selectSpeed id freq = .ok speed) PCOM_CLK_REGIME_SEC_SEL_SPEED id
      before after := by
  rcases bind_eq_some_iff.mp returned with ⟨_, _, _, returned, finished⟩
  cases finished
  rw [cotullaClkSetRate] at returned
  cases selected : selectSpeed id freq with
  | error retval =>
      rw [selected] at returned
      cases returned
      exact .inl ⟨by simp, rfl⟩
  | ok speed =>
      rw [selected] at returned
      rcases bind_eq_some_iff.mp returned with ⟨_, _, _, called, returned⟩
      cases returned
      exact .inr ⟨⟨speed, rfl⟩, procCommAt_requested (by decide) quiet called⟩

/-! ## One call -/

/-- A call of one of the four operations. -/
inductive Call where
  | enable (id : ClkId)
  | disable (id : ClkId)
  | setRate (id : ClkId) (freq : U32)
  | getRate (id : ClkId)
  deriving DecidableEq, Repr

/-- The clock that a call is about. -/
def Call.id : Call → ClkId
  | .enable id | .disable id | .setRate id _ | .getRate id => id

/-- The command that a call sends to the modem. -/
def Call.command : Call → U32
  | .enable _ => PCOM_CLK_REGIME_SEC_ENABLE
  | .disable _ => PCOM_CLK_REGIME_SEC_DISABLE
  | .setRate _ _ => PCOM_CLK_REGIME_SEC_SEL_SPEED
  | .getRate _ => PCOM_CLK_REGIME_SEC_MSM_GET_CLK_FREQ_KHZ

/-- The operation with the given table asks the modem. -/
def Call.Asks (clocksLookup : ClkId → U32) : Call → Prop
  | .setRate id freq => ∃ speed, selectSpeed id freq = .ok speed
  | call => clocksLookup call.id ≠ -1

/-- Make a call; the result is its return value, if it has one. -/
def Call.run : Call → Poll Modem Clocks (Option U32)
  | .enable id => do let ret ← clkEnable id; pure (some ret)
  | .disable id => do clkDisable id; pure none
  | .setRate id freq => do let ret ← clkSetRate id freq; pure (some ret)
  | .getRate id => do let ret ← clkGetRate id; pure (some ret)

/-- For some behaviour of the modem the call returns, from `before` in `after`. -/
def CallReturns (before : Clocks) (call : Call) (after : Clocks) : Prop :=
  ∃ tape ret rest, call.run before tape = some (ret, after, rest)

theorem CallReturns.asksWhen {call : Call} {before after : Clocks}
    (returns : CallReturns before call after) (quiet : before.shared.notified = false) :
    AsksWhen (call.Asks before.clocksLookup) call.command call.id before after := by
  rcases returns with ⟨tape, ret, rest, returned⟩
  cases call with
  | enable id =>
      rcases bind_eq_some_iff.mp returned with ⟨_, _, _, returned, finished⟩
      cases finished
      exact clkEnable_asksWhen quiet returned
  | disable id =>
      rcases bind_eq_some_iff.mp returned with ⟨_, _, _, returned, finished⟩
      cases finished
      exact clkDisable_asksWhen quiet returned
  | setRate id freq =>
      rcases bind_eq_some_iff.mp returned with ⟨_, _, _, returned, finished⟩
      cases finished
      exact clkSetRate_asksWhen quiet returned
  | getRate id =>
      rcases bind_eq_some_iff.mp returned with ⟨_, _, _, returned, finished⟩
      cases finished
      exact clkGetRate_asksWhen quiet returned

/-- The ids of the `switch` in `CotullaClkSetRate`. -/
def switchIds : List ClkId :=
  [ICODEC_RX_CLK, ICODEC_TX_CLK, SDAC_MCLK, UART1DM_CLK, UART2DM_CLK, ECODEC_CLK, VFE_MDC_CLK,
    VFE_CLK, SPI_CLK, SDC1_CLK, SDC2_CLK, SDC1_PCLK, SDC2_PCLK]

theorem selectSpeed_of_notMem {id : ClkId} (other : id ∉ switchIds) (rate : U32) :
    selectSpeed id rate = .error (-1) := by
  simp only [switchIds, List.mem_cons, List.not_mem_nil, or_false, not_or] at other
  simp [selectSpeed, other]

/-- `CotullaClkSetRate` has speeds only for clocks that the modem knows. -/
theorem fillClocksLookup_ne_of_selectSpeed {id : ClkId} {rate speed : U32}
    (selected : selectSpeed id rate = .ok speed) : fillClocksLookup id ≠ -1 := by
  have known : ∀ id ∈ switchIds, fillClocksLookup id ≠ -1 := by decide
  refine known id (Decidable.byContradiction fun other => ?_)
  rw [selectSpeed_of_notMem other] at selected
  cases selected

/-! ## Runs -/

/-- The requests that the modem answered during a step. -/
def requests (step : Step Clocks Call) : List Exchange :=
  step.after.shared.exchanges.take
    (step.after.shared.exchanges.length - step.before.shared.exchanges.length)

/-- The step leaves the table as `FillClocksLookup` filled it, and asks only for a
clock that the modem knows, under its number. -/
def KeepsLookup (step : Step Clocks Call) : Prop :=
  step.after.clocksLookup = fillClocksLookup ∧
    ∀ request ∈ requests step,
      request.data1 = fillClocksLookup step.label.id ∧ fillClocksLookup step.label.id ≠ -1

/-- The modem refuses every request of the step or repeats the clock number. -/
def AnswersEcho (step : Step Clocks Call) : Prop :=
  ∀ request ∈ requests step, Echoes (fillClocksLookup step.label.id) request.reply

instance (step : Step Clocks Call) : Decidable (AnswersEcho step) :=
  inferInstanceAs (Decidable (∀ request ∈ requests step, _))

/-- The driver between two calls, before anything went wrong. -/
def Intact (clocks : Clocks) : Prop :=
  clocks.clocksLookup = fillClocksLookup ∧ clocks.shared.notified = false

theorem requests_of_eq (clocks : Clocks) (call : Call) :
    requests ⟨clocks, call, clocks⟩ = [] := by
  simp [requests]

theorem Requested.requests {call : Call} {before after : Clocks} {reply : Reply}
    (requested : Requested call.command call.id before after reply) :
    ∃ data2, Clock.requests ⟨before, call, after⟩ =
      [⟨call.command, before.clocksLookup call.id, data2, reply⟩] := by
  rcases requested.sent with ⟨data2, sent⟩
  exact ⟨data2, by simp [Clock.requests, sent]⟩

/-- From an intact state, a call keeps the table exactly when its answer echoes. -/
theorem CallReturns.keepsLookup_iff {call : Call} {before after : Clocks}
    (returns : CallReturns before call after) (intact : Intact before) :
    KeepsLookup ⟨before, call, after⟩ ↔ AnswersEcho ⟨before, call, after⟩ := by
  rcases intact with ⟨filled, quiet⟩
  rcases returns.asksWhen quiet with ⟨-, rfl⟩ | ⟨asks, reply, requested⟩
  · simp [KeepsLookup, AnswersEcho, requests_of_eq, filled]
  · rcases requested.requests with ⟨data2, request_eq⟩
    have known : fillClocksLookup call.id ≠ -1 := by
      cases call with
      | setRate id freq => exact fillClocksLookup_ne_of_selectSpeed asks.choose_spec
      | enable id => exact filled ▸ asks
      | disable id => exact filled ▸ asks
      | getRate id => exact filled ▸ asks
    simp only [KeepsLookup, AnswersEcho, request_eq, List.forall_mem_singleton,
      requested.stored, filled, answered_eq_self_iff]
    exact and_iff_left ⟨trivial, known⟩

theorem CallReturns.intact {call : Call} {before after : Clocks}
    (returns : CallReturns before call after) (intact : Intact before)
    (kept : KeepsLookup ⟨before, call, after⟩) : Intact after := by
  rcases returns.asksWhen intact.2 with ⟨-, rfl⟩ | ⟨-, reply, requested⟩
  · exact intact
  · exact ⟨kept.1, requested.quiet⟩

/-- Along any run of calls from the filled table, the table stays as it was filled
and every request sends its number exactly when the modem refuses or echoes every
request. -/
theorem clocksLookup_constant_iff {start : Clocks} {steps : List (Step Clocks Call)}
    (filled : start.clocksLookup = fillClocksLookup) (quiet : start.shared.notified = false)
    (run : Run CallReturns start steps) :
    (∀ step ∈ steps, KeepsLookup step) ↔ ∀ step ∈ steps, AnswersEcho step :=
  run.forall_iff (I := Intact) ⟨filled, quiet⟩
    (fun _ _ _ intact returns => returns.keepsLookup_iff intact)
    (fun _ _ _ intact returns kept => returns.intact intact kept)

/-! ## Two calls for one clock -/

/-- The driver after a request that the modem answered. -/
def Clocks.handled (clocks : Clocks) (command : U32) (id : ClkId) (data2 : U32)
    (reply : Reply) : Clocks where
  clocksLookup := answered clocks.clocksLookup id reply
  shared :=
    { clocks.shared with
      appCommand := PCOM_CMD_IDLE, appStatus := reply.status, appData1 := reply.data1,
      appData2 := reply.data2, mdmStatus := PCOM_READY, notified := false,
      exchanges :=
        ⟨command, clocks.clocksLookup id, data2, reply⟩ :: clocks.shared.exchanges }

theorem procCommAt_handled (command : U32) (id : ClkId) (data2 : Option U32) {clocks : Clocks}
    (quiet : clocks.shared.notified = false) (reply : Reply) :
    ∃ outcome, procCommAt command id data2 clocks [.announce PCOM_READY, .answer reply] =
      some (outcome, clocks.handled command id (data2.getD 0) reply, []) := by
  have called := msmProcComm_answered command (some (clocks.clocksLookup id)) data2
    clocks.shared reply []
  have same : { clocks.shared with notified := false } = clocks.shared := by rw [← quiet]
  rw [same] at called
  rw [procCommAt, get_bind_apply, bind_of_eq_some (zoom_eq_some_iff.mpr ⟨_, called, rfl⟩),
    modify_bind_apply]
  refine ⟨_, congrArg some (Prod.ext rfl (Prod.ext ?_ rfl))⟩
  by_cases failed : reply.status = PCOM_CMD_FAIL
  · simp [Clocks.handled, answered, Reply.settle_of_fail failed, failed]
  · simp [Clocks.handled, answered, Reply.settle_of_ne_fail failed, failed]

/-- The calls that only name a clock. -/
def Call.Plain : Call → Prop
  | .enable _ | .disable _ => True
  | _ => False

theorem plain_returns {clocks : Clocks} {call : Call} (plain : call.Plain)
    (quiet : clocks.shared.notified = false) (supported : clocks.clocksLookup call.id ≠ -1)
    (reply : Reply) :
    CallReturns clocks call (clocks.handled call.command call.id 0 reply) := by
  obtain ⟨outcome, handled⟩ := procCommAt_handled call.command call.id none quiet reply
  refine ⟨[.announce PCOM_READY, .answer reply], ?_⟩
  cases call with
  | enable id =>
      refine ⟨some (answered clocks.clocksLookup id reply id), [], ?_⟩
      dsimp only [Call.id, Call.command] at supported handled ⊢
      rw [Call.run, clkEnable, bind_apply, get_bind_apply, if_pos supported,
        bind_of_eq_some handled]
      rfl
  | disable id =>
      refine ⟨none, [], ?_⟩
      dsimp only [Call.id, Call.command] at supported handled ⊢
      rw [Call.run, clkDisable, bind_apply, get_bind_apply, if_pos supported,
        bind_of_eq_some handled]
      rfl
  | setRate id freq => exact plain.elim
  | getRate id => exact plain.elim

/-- The driver after `FillClocksLookup`. -/
def filledClocks : Clocks := ⟨fillClocksLookup, ⟨PCOM_CMD_IDLE, 0, 0, 0, 0, false, []⟩⟩

/-- `ClkEnable(SDC1_CLK)` and then `ClkDisable(SDC1_CLK)`, with the modem's two answers. -/
def enableThenDisable (first second : Reply) : List (Step Clocks Call) :=
  let enabled := filledClocks.handled PCOM_CLK_REGIME_SEC_ENABLE SDC1_CLK 0 first
  [⟨filledClocks, .enable SDC1_CLK, enabled⟩,
    ⟨enabled, .disable SDC1_CLK, enabled.handled PCOM_CLK_REGIME_SEC_DISABLE SDC1_CLK 0 second⟩]

theorem enableThenDisable_run {first : Reply} (second : Reply)
    (supported : answered fillClocksLookup SDC1_CLK first SDC1_CLK ≠ -1) :
    Run CallReturns filledClocks
      (enableThenDisable first second) :=
  .cons (plain_returns (by trivial) rfl (by decide) first)
    (.cons (plain_returns (by trivial) rfl supported second) (.nil _))

/-- The modem echoes the number of `SDC1_CLK` twice, so the table stays. -/
theorem clocksLookup_constant_echoed :
    Run CallReturns filledClocks
        (enableThenDisable ⟨PCOM_CMD_SUCCESS, 66, 0⟩ ⟨PCOM_CMD_SUCCESS, 66, 0⟩) ∧
      ∀ step ∈ enableThenDisable ⟨PCOM_CMD_SUCCESS, 66, 0⟩ ⟨PCOM_CMD_SUCCESS, 66, 0⟩,
        KeepsLookup step := by
  have run := @enableThenDisable_run ⟨PCOM_CMD_SUCCESS, 66, 0⟩
    ⟨PCOM_CMD_SUCCESS, 66, 0⟩ (by decide)
  exact ⟨run, (clocksLookup_constant_iff rfl rfl run).mpr (by decide)⟩

/-- The modem accepts the first request and leaves `0` in its first data word; the
second request for the same clock then sends `0`. -/
theorem clkEnable_overwrites_clocksLookup :
    filledClocks.clocksLookup = fillClocksLookup ∧
    Run CallReturns filledClocks
      (enableThenDisable ⟨PCOM_CMD_SUCCESS, 0, 0⟩ ⟨PCOM_CMD_SUCCESS, 0, 0⟩) ∧
    (enableThenDisable ⟨PCOM_CMD_SUCCESS, 0, 0⟩ ⟨PCOM_CMD_SUCCESS, 0, 0⟩).map
        (fun step => (requests step).map Exchange.data1) = [[66], [0]] ∧
    ¬ ∀ step ∈ enableThenDisable ⟨PCOM_CMD_SUCCESS, 0, 0⟩ ⟨PCOM_CMD_SUCCESS, 0, 0⟩,
      KeepsLookup step := by
  refine ⟨rfl, enableThenDisable_run _ (by decide), by decide, fun kept => ?_⟩
  have entry := congrFun (kept _ (.head _)).1 SDC1_CLK
  revert entry
  decide

end HtcLeo.Clock
