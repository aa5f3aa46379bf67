import HtcLeo.Pcom.Exchange

/-!
# Retry loops of the modem clients

`pcom_vreg_control` and `pcom_sdcard_power` repeat a command until the modem
leaves `PCOM_CMD_SUCCESS` in `APP_STATUS`.  They pass the same two variables in
every attempt, and `msmProcComm` writes the modem's answer into them, so a
later attempt may ask for something else than the first one did.

`RetryRun` lists the attempts of one loop as the modem received them.  From it
follow when a loop ends and when all of its attempts carry the same arguments.
-/

namespace HtcLeo.Pcom

open Poll

def PCOM_ENABLE : U32 := 1
def PCOM_DISABLE : U32 := 0

/-- `PM_VREG_PDOWN_GP6_ID`, the regulator of the card slot. -/
def PCOM_VREG_SDC : U32 := 22

/-! ## The clients -/

/-- One attempt: send the command with the current arguments and look at the
status that it left. -/
def retryRound (command : U32) (args : U32 × U32) :
    Poll Modem Shared ((U32 × U32) ⊕ (U32 × U32)) := do
  let outcome ← msmProcComm command (some args.1) (some args.2)
  let shared ← get
  let after := (outcome.2.1.getD args.1, outcome.2.2.getD args.2)
  pure (if shared.appStatus = PCOM_CMD_SUCCESS then .inr after else .inl after)

/-- `do msm_proc_comm(command, &arg1, &arg2) while (PCOM_CMD_SUCCESS != readl(APP_STATUS))`;
the result is what the two variables hold after the loop. -/
def retryUntilSuccess (command : U32) (args : U32 × U32) : Poll Modem Shared (U32 × U32) :=
  loop (retryRound command) args

/-- Turning a regulator on sets its level first, through the same `vreg`. -/
def pcomVregControl (vreg level state : U32) : Poll Modem Shared Unit := do
  let s := if state ≠ 0 then PCOM_ENABLE else PCOM_DISABLE
  let args ←
    (if state ≠ 0 then retryUntilSuccess PCOM_VREG_SET_LEVEL (vreg, level)
      else pure (vreg, level))
  let _ ← retryUntilSuccess PCOM_VREG_SWITCH (args.1, s)
  pure ()

/-- `pcom_sdcard_power`. -/
def pcomSdcardPower (state : U32) : Poll Modem Shared Unit := do
  let s := if state ≠ 0 then PCOM_ENABLE else PCOM_DISABLE
  let _ ← retryUntilSuccess PCOM_VREG_SWITCH (PCOM_VREG_SDC, s)
  pure ()

/-! ## The attempts of one loop -/

/-- What the caller's variables hold after an attempt. -/
def Reply.after (reply : Reply) (args : U32 × U32) : U32 × U32 :=
  if reply.status ≠ PCOM_CMD_FAIL then (reply.data1, reply.data2) else args

theorem Reply.settle_snd (reply : Reply) (args : U32 × U32) :
    ((reply.settle (some args.1) (some args.2)).2.1.getD args.1,
      (reply.settle (some args.1) (some args.2)).2.2.getD args.2) = reply.after args := by
  by_cases failed : reply.status = PCOM_CMD_FAIL
  · simp [settle_of_fail failed, after, failed]
  · simp [settle_of_ne_fail failed, after, failed]

/-- `RetryRun command args attempts after`: a loop that starts with the given
arguments makes exactly these attempts, oldest first, and leaves `after` in its
variables. -/
inductive RetryRun (command : U32) : U32 × U32 → List Exchange → U32 × U32 → Prop
  | accepted (args : U32 × U32) (reply : Reply) :
      reply.status = PCOM_CMD_SUCCESS →
      RetryRun command args [⟨command, args.1, args.2, reply⟩] (reply.after args)
  | again {args : U32 × U32} {reply : Reply} {attempts : List Exchange} {after : U32 × U32} :
      reply.status ≠ PCOM_CMD_SUCCESS →
      RetryRun command (reply.after args) attempts after →
      RetryRun command args (⟨command, args.1, args.2, reply⟩ :: attempts) after

/-- The invariant of a retry loop that started with `first`: any way to finish
from the current arguments finishes the whole loop. -/
def Retrying (command : U32) (first : U32 × U32) (earlier : List Exchange)
    (args : U32 × U32) (shared : Shared) : Prop :=
  shared.notified = false ∧
    ∃ attempts, shared.exchanges = attempts.reverse ++ earlier ∧
      ∀ rest after, RetryRun command args rest after →
        RetryRun command first (attempts ++ rest) after

/-- What holds after a retry loop that started with `first`. -/
def Retried (command : U32) (first : U32 × U32) (earlier : List Exchange)
    (after : U32 × U32) (shared : Shared) : Prop :=
  shared.notified = false ∧
    ∃ attempts, shared.exchanges = attempts.reverse ++ earlier ∧
      RetryRun command first attempts after

/-- One attempt keeps the invariant, or ends the loop. -/
theorem triple_retryRound {command : U32} (notDone : command ≠ PCOM_CMD_DONE)
    (first : U32 × U32) (earlier : List Exchange) (args : U32 × U32) :
    Triple (Retrying command first earlier args) (retryRound command args)
      (Sum.elim (Retrying command first earlier) (Retried command first earlier)) := by
  intro shared tape result final rest holds returned
  rcases holds with ⟨quiet, attempts, sofar, extend⟩
  rcases bind_eq_some_iff.mp returned with ⟨outcome, _, _, called, returned⟩
  rw [get_bind_apply] at returned
  cases returned
  obtain ⟨reply, rfl, status, quietAgain, exchanges⟩ :=
    msmProcComm_exchange notDone quiet called
  have recorded : final.exchanges =
      (attempts ++ [Exchange.mk command args.1 args.2 reply]).reverse ++ earlier := by
    rw [exchanges, sofar]
    simp
  rw [Reply.settle_snd, status]
  split
  · rename_i success
    exact ⟨quietAgain, _, recorded, extend _ _ (.accepted args reply success)⟩
  · rename_i refused
    refine ⟨quietAgain, _, recorded, fun rest after run => ?_⟩
    rw [List.append_assoc]
    exact extend _ _ (.again refused run)

/-- A retry loop that returns has made a `RetryRun`. -/
theorem retryUntilSuccess_run {command : U32} (notDone : command ≠ PCOM_CMD_DONE)
    {first after : U32 × U32} {shared final : Shared} {tape rest : List Modem}
    (quiet : shared.notified = false)
    (returned : retryUntilSuccess command first shared tape = some (after, final, rest)) :
    Retried command first shared.exchanges after final :=
  triple_loop (triple_retryRound notDone first shared.exchanges) first
    ⟨quiet, [], rfl, fun _ _ run => run⟩ returned

/-! ## What a loop asks for -/

/-- The attempts all carry the command and the first one carries `args`. -/
def Starts (command : U32) (args : U32 × U32) (attempts : List Exchange) : Prop :=
  (∀ attempt ∈ attempts, attempt.command = command) ∧
    ∃ first ∈ attempts.head?, (first.data1, first.data2) = args

/-- Every attempt sends what the first one sent. -/
def SameArguments (attempts : List Exchange) : Prop :=
  ∀ first ∈ attempts.head?, ∀ attempt ∈ attempts,
    attempt.data1 = first.data1 ∧ attempt.data2 = first.data2

/-- The last attempt is the only one that the modem accepted. -/
def EndsAtFirstAccepted (attempts : List Exchange) : Prop :=
  ∃ refused last, attempts = refused ++ [last] ∧
    last.reply.status = PCOM_CMD_SUCCESS ∧
    ∀ attempt ∈ refused, attempt.reply.status ≠ PCOM_CMD_SUCCESS

/-- An answer that leaves the caller's variables as they were, or ends the loop. -/
def Reply.Benign (reply : Reply) (args : U32 × U32) : Prop :=
  reply.status = PCOM_CMD_SUCCESS ∨ reply.status = PCOM_CMD_FAIL ∨
    (reply.data1, reply.data2) = args

instance (reply : Reply) (args : U32 × U32) : Decidable (reply.Benign args) :=
  inferInstanceAs (Decidable (_ ∨ _ ∨ _))

theorem Reply.after_eq_iff {reply : Reply} (refused : reply.status ≠ PCOM_CMD_SUCCESS)
    (args : U32 × U32) : reply.after args = args ↔ reply.Benign args := by
  by_cases failed : reply.status = PCOM_CMD_FAIL
  · simp [after, Benign, failed]
  · simp [after, Benign, failed, refused]

theorem Reply.after_of_success {reply : Reply} (success : reply.status = PCOM_CMD_SUCCESS)
    (args : U32 × U32) : reply.after args = (reply.data1, reply.data2) :=
  if_pos (by rw [success]; decide)

theorem RetryRun.starts {command : U32} {args after : U32 × U32} {attempts : List Exchange}
    (run : RetryRun command args attempts after) : Starts command args attempts := by
  constructor
  · induction run with
    | accepted args reply _ => simp
    | again _ _ ih =>
        intro attempt member
        rcases List.mem_cons.mp member with rfl | later
        · rfl
        · exact ih attempt later
  · cases run <;> simp

theorem RetryRun.endsAtFirstAccepted {command : U32} {args after : U32 × U32}
    {attempts : List Exchange} (run : RetryRun command args attempts after) :
    EndsAtFirstAccepted attempts := by
  induction run with
  | accepted args reply success => exact ⟨[], _, rfl, success, by simp⟩
  | @again args reply attempts after refused _ ih =>
      rcases ih with ⟨earlier, last, rfl, success, refusedBefore⟩
      refine ⟨⟨command, args.1, args.2, reply⟩ :: earlier, last, rfl, success, ?_⟩
      intro attempt member
      rcases List.mem_cons.mp member with rfl | later
      · exact refused
      · exact refusedBefore attempt later

/-- What a loop leaves in its variables is the answer that ended it. -/
theorem RetryRun.after_eq {command : U32} {args after : U32 × U32}
    {attempts : List Exchange} (run : RetryRun command args attempts after) :
    ∃ last ∈ attempts.getLast?, after = (last.reply.data1, last.reply.data2) := by
  induction run with
  | accepted args reply success => exact ⟨_, rfl, Reply.after_of_success success args⟩
  | @again args reply attempts after _ _ ih =>
      rcases ih with ⟨last, isLast, after_eq⟩
      exact ⟨last, by simp [List.getLast?_cons, Option.mem_def.mp isLast], after_eq⟩

/-- All attempts carry the loop's first arguments exactly when every answer is benign. -/
theorem RetryRun.all_eq_iff {command : U32} {args after : U32 × U32}
    {attempts : List Exchange} (run : RetryRun command args attempts after) :
    (∀ attempt ∈ attempts, (attempt.data1, attempt.data2) = args) ↔
      ∀ attempt ∈ attempts, attempt.reply.Benign args := by
  induction run with
  | accepted args reply success =>
      simp [Reply.Benign, success]
  | @again args reply attempts after refused later ih =>
      rw [List.forall_mem_cons, List.forall_mem_cons, ← Reply.after_eq_iff refused]
      constructor
      · rintro ⟨-, same⟩
        -- The next attempt carries what this answer left in the variables.
        rcases later.starts with ⟨-, next, nextFirst, nextArgs⟩
        have kept : reply.after args = args :=
          nextArgs.symm.trans (same next (List.mem_of_mem_head? nextFirst))
        rw [kept] at ih
        exact ⟨kept, ih.mp same⟩
      · rintro ⟨kept, benign⟩
        rw [kept] at ih
        exact ⟨rfl, ih.mpr benign⟩

theorem RetryRun.sameArguments_iff {command : U32} {args after : U32 × U32}
    {attempts : List Exchange} (run : RetryRun command args attempts after) :
    SameArguments attempts ↔ ∀ attempt ∈ attempts, attempt.reply.Benign args := by
  rw [← run.all_eq_iff]
  rcases run.starts with ⟨-, first, isFirst, rfl⟩
  constructor
  · intro same attempt member
    exact Prod.ext_iff.mpr (same first isFirst attempt member)
  · intro same first' isFirst' attempt member
    cases Option.mem_unique isFirst isFirst'
    exact Prod.ext_iff.mp (same attempt member)

/-! ## The clients as a whole -/

/-- Turning a regulator on is two loops, turning it off is one. -/
theorem pcomVregControl_runs {vreg level state : U32} {shared final : Shared}
    {tape rest : List Modem} (quiet : shared.notified = false)
    (returned : pcomVregControl vreg level state shared tape = some ((), final, rest)) :
    ∃ setLevel switch vreg' level' after,
      final.exchanges = (setLevel ++ switch).reverse ++ shared.exchanges ∧
      (if state ≠ 0 then RetryRun PCOM_VREG_SET_LEVEL (vreg, level) setLevel (vreg', level')
        else setLevel = [] ∧ vreg' = vreg) ∧
      RetryRun PCOM_VREG_SWITCH
        (vreg', if state ≠ 0 then PCOM_ENABLE else PCOM_DISABLE) switch after := by
  rcases bind_eq_some_iff.mp returned with ⟨args, middle, left, first, returned⟩
  rcases bind_eq_some_iff.mp returned with ⟨after, _, _, second, finished⟩
  cases finished
  split at first
  · rename_i on
    obtain ⟨quietAgain, setLevel, firstExchanges, firstRun⟩ :=
      retryUntilSuccess_run (by decide) quiet first
    obtain ⟨-, switch, secondExchanges, secondRun⟩ :=
      retryUntilSuccess_run (by decide) quietAgain second
    refine ⟨setLevel, switch, args.1, args.2, after, ?_, ?_, secondRun⟩
    · rw [secondExchanges, firstExchanges]
      simp
    · rw [if_pos on]
      exact firstRun
  · rename_i off
    cases first
    rcases retryUntilSuccess_run (by decide) quiet second with ⟨-, switch, exchanges, run⟩
    refine ⟨[], switch, vreg, level, after, exchanges, ?_, run⟩
    rw [if_neg off]
    exact ⟨rfl, rfl⟩

theorem pcomSdcardPower_runs {state : U32} {shared final : Shared} {tape rest : List Modem}
    (quiet : shared.notified = false)
    (returned : pcomSdcardPower state shared tape = some ((), final, rest)) :
    ∃ switch after, final.exchanges = switch.reverse ++ shared.exchanges ∧
      RetryRun PCOM_VREG_SWITCH
        (PCOM_VREG_SDC, if state ≠ 0 then PCOM_ENABLE else PCOM_DISABLE) switch after := by
  rcases bind_eq_some_iff.mp returned with ⟨after, _, _, looped, finished⟩
  cases finished
  rcases retryUntilSuccess_run (by decide) quiet looped with ⟨-, switch, exchanges, run⟩
  exact ⟨switch, after, exchanges, run⟩

end HtcLeo.Pcom
