import HtcLeo.Pcom.Retry

/-!
# When modem commands fail closed

`pcom.h` lists one success code and a dozen failure codes.  `msmProcComm` tests
a single failure code, so an answer such as `PCOM_CMD_FAIL_FALSE_RETURNED` is
reported as a success and overwrites the caller's arguments.  The retry loops
test for the success code instead; they end where they should, but an attempt
after such an answer repeats with the overwritten arguments.
-/

namespace HtcLeo.Pcom

open Poll

/-- A call succeeds on `PCOM_CMD_SUCCESS`; on every other status it returns `-1`
and leaves both pointers alone. -/
def FailsClosed (status : U32) (data1 data2 : Option U32)
    (outcome : Int × Option U32 × Option U32) : Prop :=
  (status = PCOM_CMD_SUCCESS → outcome.1 = 0) ∧
    (status ≠ PCOM_CMD_SUCCESS → outcome = (-1, data1, data2))

/-- The attempts of one loop all ask for the same thing, and the loop ends at
the first one that was accepted. -/
def LoopFailsClosed (attempts : List Exchange) : Prop :=
  SameArguments attempts ∧ EndsAtFirstAccepted attempts

theorem settle_failsClosed_iff (reply : Reply) (data1 data2 : Option U32) :
    FailsClosed reply.status data1 data2 (reply.settle data1 data2) ↔
      reply.status = PCOM_CMD_SUCCESS ∨ reply.status = PCOM_CMD_FAIL := by
  by_cases failed : reply.status = PCOM_CMD_FAIL
  · have refused : reply.status ≠ PCOM_CMD_SUCCESS := by rw [failed]; decide
    simp [FailsClosed, Reply.settle_of_fail failed, failed]
    decide
  · simp [FailsClosed, Reply.settle_of_ne_fail failed, failed]

theorem RetryRun.loopFailsClosed_iff {command : U32} {args after : U32 × U32}
    {attempts : List Exchange} (run : RetryRun command args attempts after) :
    LoopFailsClosed attempts ↔ ∀ attempt ∈ attempts, attempt.reply.Benign args := by
  rw [← run.sameArguments_iff]
  exact and_iff_left run.endsAtFirstAccepted

/-- A command fails closed exactly when the modem leaves `PCOM_CMD_SUCCESS` or
`PCOM_CMD_FAIL`.  A retry loop fails closed exactly when every answer is one of
these two or repeats the arguments the loop started with. -/
theorem modemCommands_failClosed_iff (shared final : Shared) (tape rest : List Modem) :
    (∀ (cmd : U32) (data1 data2 : Option U32) (outcome : Int × Option U32 × Option U32),
      msmProcComm cmd data1 data2 shared tape = some (outcome, final, rest) →
        (FailsClosed final.appStatus data1 data2 outcome ↔
          final.appStatus = PCOM_CMD_SUCCESS ∨ final.appStatus = PCOM_CMD_FAIL)) ∧
    (∀ vreg level state : U32, shared.notified = false →
      pcomVregControl vreg level state shared tape = some ((), final, rest) →
        ∃ setLevel switch vreg' s,
          final.exchanges = (setLevel ++ switch).reverse ++ shared.exchanges ∧
          s = (if state ≠ 0 then PCOM_ENABLE else PCOM_DISABLE) ∧
          (state = 0 → setLevel = [] ∧ vreg' = vreg) ∧
          (state ≠ 0 → Starts PCOM_VREG_SET_LEVEL (vreg, level) setLevel ∧
            (∃ last ∈ setLevel.getLast?, vreg' = last.reply.data1) ∧
            (LoopFailsClosed setLevel ↔
              ∀ attempt ∈ setLevel, attempt.reply.Benign (vreg, level))) ∧
          Starts PCOM_VREG_SWITCH (vreg', s) switch ∧
          (LoopFailsClosed switch ↔
            ∀ attempt ∈ switch, attempt.reply.Benign (vreg', s))) ∧
    (∀ state : U32, shared.notified = false →
      pcomSdcardPower state shared tape = some ((), final, rest) →
        ∃ switch s,
          final.exchanges = switch.reverse ++ shared.exchanges ∧
          s = (if state ≠ 0 then PCOM_ENABLE else PCOM_DISABLE) ∧
          Starts PCOM_VREG_SWITCH (PCOM_VREG_SDC, s) switch ∧
          (LoopFailsClosed switch ↔
            ∀ attempt ∈ switch, attempt.reply.Benign (PCOM_VREG_SDC, s))) := by
  refine ⟨?_, ?_, ?_⟩
  · intro cmd data1 data2 outcome returned
    rw [msmProcComm_outcome returned]
    exact settle_failsClosed_iff ⟨final.appStatus, final.appData1, final.appData2⟩ data1 data2
  · intro vreg level state quiet returned
    obtain ⟨setLevel, switch, vreg', level', after, exchanges, first, second⟩ :=
      pcomVregControl_runs quiet returned
    refine ⟨setLevel, switch, vreg', _, exchanges, rfl, fun off => ?_, fun on => ?_,
      second.starts, second.loopFailsClosed_iff⟩
    · rwa [if_neg (not_not.mpr off)] at first
    · rw [if_pos on] at first
      rcases first.after_eq with ⟨last, isLast, after_eq⟩
      exact ⟨first.starts, ⟨last, isLast, congrArg Prod.fst after_eq⟩,
        first.loopFailsClosed_iff⟩
  · intro state quiet returned
    rcases pcomSdcardPower_runs quiet returned with ⟨switch, after, exchanges, run⟩
    exact ⟨switch, _, exchanges, rfl, run.starts, run.loopFailsClosed_iff⟩

/-- Shared memory before the first command. -/
def quietShared : Shared := ⟨PCOM_CMD_IDLE, 0, 0, 0, 0, false, []⟩

/-- The modem refuses the first attempt with `PCOM_CMD_FAIL` and accepts the second. -/
def failOnce : List Modem :=
  [.announce PCOM_READY, .answer ⟨PCOM_CMD_FAIL, 7, 9⟩, .idle,
    .answer ⟨PCOM_CMD_SUCCESS, 0, 0⟩]

/-- Under `failOnce` a command, a regulator switched off and the card's regulator
switched on all fail closed. -/
theorem modemCommands_failClosed_failOnce :
    FailsClosed PCOM_CMD_FAIL (some 5) none (-1, some 5, none) ∧
      LoopFailsClosed
        [⟨PCOM_VREG_SWITCH, 3, PCOM_DISABLE, PCOM_CMD_FAIL, 7, 9⟩,
          ⟨PCOM_VREG_SWITCH, 3, PCOM_DISABLE, PCOM_CMD_SUCCESS, 0, 0⟩] ∧
      LoopFailsClosed
        [⟨PCOM_VREG_SWITCH, PCOM_VREG_SDC, PCOM_ENABLE, PCOM_CMD_FAIL, 7, 9⟩,
          ⟨PCOM_VREG_SWITCH, PCOM_VREG_SDC, PCOM_ENABLE, PCOM_CMD_SUCCESS, 0, 0⟩] := by
  refine ⟨?_, ?_, ?_⟩
  · exact ((modemCommands_failClosed_iff quietShared
      ⟨PCOM_CMD_IDLE, PCOM_CMD_FAIL, 7, 9, PCOM_READY, false,
        [⟨PCOM_VREG_SWITCH, 5, 0, PCOM_CMD_FAIL, 7, 9⟩]⟩
      failOnce [.idle, .answer ⟨PCOM_CMD_SUCCESS, 0, 0⟩]).1 PCOM_VREG_SWITCH (some 5) none
      (-1, some 5, none) (by decide +kernel)).mpr (.inr rfl)
  · obtain ⟨setLevel, switch, vreg', s, exchanges, rfl, off, -, -, closed⟩ :=
      (modemCommands_failClosed_iff quietShared
        ⟨PCOM_CMD_IDLE, PCOM_CMD_SUCCESS, 0, 0, PCOM_READY, false,
          [⟨PCOM_VREG_SWITCH, 3, PCOM_DISABLE, PCOM_CMD_SUCCESS, 0, 0⟩,
            ⟨PCOM_VREG_SWITCH, 3, PCOM_DISABLE, PCOM_CMD_FAIL, 7, 9⟩]⟩
        failOnce []).2.1 3 1800 0 rfl (by decide +kernel)
    rcases off rfl with ⟨rfl, rfl⟩
    rw [quietShared, List.append_nil, List.nil_append, eq_comm, List.reverse_eq_iff] at exchanges
    subst exchanges
    exact closed.mpr (by decide)
  · obtain ⟨switch, s, exchanges, rfl, -, closed⟩ :=
      (modemCommands_failClosed_iff quietShared
        ⟨PCOM_CMD_IDLE, PCOM_CMD_SUCCESS, 0, 0, PCOM_READY, false,
          [⟨PCOM_VREG_SWITCH, PCOM_VREG_SDC, PCOM_ENABLE, PCOM_CMD_SUCCESS, 0, 0⟩,
            ⟨PCOM_VREG_SWITCH, PCOM_VREG_SDC, PCOM_ENABLE, PCOM_CMD_FAIL, 7, 9⟩]⟩
        failOnce []).2.2 1 rfl (by decide +kernel)
    rw [quietShared, List.append_nil, eq_comm, List.reverse_eq_iff] at exchanges
    subst exchanges
    exact closed.mpr (by decide)

/-! ## An answer that is neither -/

/-- The modem refuses the first attempt with status 5 and data words of its own,
and accepts the second. -/
def refuseOnce : List Modem :=
  [.announce PCOM_READY, .answer ⟨PCOM_CMD_FAIL_FALSE_RETURNED, 7, 9⟩,
    .idle, .answer ⟨PCOM_CMD_SUCCESS, 7, 9⟩]

/-- `msm_proc_comm` reports the refusal as a success, and `pcom_sdcard_power(1)`
then switches another regulator than the card's. -/
theorem msmProcComm_refused_succeeds :
    (∃ final rest,
      msmProcComm PCOM_VREG_SWITCH (some PCOM_VREG_SDC) (some PCOM_ENABLE) quietShared
          refuseOnce = some ((0, some 7, some 9), final, rest) ∧
        final.appStatus = PCOM_CMD_FAIL_FALSE_RETURNED ∧
        ¬ FailsClosed final.appStatus (some PCOM_VREG_SDC) (some PCOM_ENABLE)
          (0, some 7, some 9)) ∧
    ∃ final rest, pcomSdcardPower 1 quietShared refuseOnce = some ((), final, rest) ∧
      final.exchanges.reverse =
        [⟨PCOM_VREG_SWITCH, PCOM_VREG_SDC, PCOM_ENABLE, PCOM_CMD_FAIL_FALSE_RETURNED, 7, 9⟩,
          ⟨PCOM_VREG_SWITCH, 7, 9, PCOM_CMD_SUCCESS, 7, 9⟩] ∧
      ¬ LoopFailsClosed final.exchanges.reverse := by
  refine ⟨⟨⟨PCOM_CMD_IDLE, PCOM_CMD_FAIL_FALSE_RETURNED, 7, 9, PCOM_READY, false,
      [⟨PCOM_VREG_SWITCH, PCOM_VREG_SDC, PCOM_ENABLE, PCOM_CMD_FAIL_FALSE_RETURNED, 7, 9⟩]⟩,
    [.idle, .answer ⟨PCOM_CMD_SUCCESS, 7, 9⟩], by decide +kernel, rfl, ?_⟩,
    ⟨PCOM_CMD_IDLE, PCOM_CMD_SUCCESS, 7, 9, PCOM_READY, false,
      [⟨PCOM_VREG_SWITCH, 7, 9, PCOM_CMD_SUCCESS, 7, 9⟩,
        ⟨PCOM_VREG_SWITCH, PCOM_VREG_SDC, PCOM_ENABLE, PCOM_CMD_FAIL_FALSE_RETURNED, 7, 9⟩]⟩,
    [], by decide +kernel, rfl, ?_⟩
  · rintro ⟨-, closed⟩
    exact absurd (closed (by decide)) (by decide)
  · rintro ⟨same, -⟩
    exact absurd (same _ rfl ⟨PCOM_VREG_SWITCH, 7, 9, PCOM_CMD_SUCCESS, 7, 9⟩ (by decide)).1
      (by decide)

end HtcLeo.Pcom
