import HtcLeo.Pcom.Core

/-!
# One exchange with the modem

A returned `msmProcComm` call is one exchange: the modem received exactly the
command and arguments of the call, and the outcome is a function of its answer.
Callers use `msmProcComm_exchange` and never unfold the waiting loops.
-/

namespace HtcLeo.Pcom

open Poll

/-- The return value and pointer contents that the code derives from an answer. -/
def Reply.settle (reply : Reply) (data1 data2 : Option U32) :
    Int × Option U32 × Option U32 :=
  if reply.status ≠ PCOM_CMD_FAIL then
    (0, data1.map fun _ => reply.data1, data2.map fun _ => reply.data2)
  else
    (-1, data1, data2)

theorem Reply.settle_of_fail {reply : Reply} (failed : reply.status = PCOM_CMD_FAIL)
    (data1 data2 : Option U32) : reply.settle data1 data2 = (-1, data1, data2) := by
  rw [settle, if_neg (not_not.mpr failed)]

theorem Reply.settle_of_ne_fail {reply : Reply} (accepted : reply.status ≠ PCOM_CMD_FAIL)
    (data1 data2 : Option U32) :
    reply.settle data1 data2 =
      (0, data1.map fun _ => reply.data1, data2.map fun _ => reply.data2) := by
  rw [settle, if_pos accepted]

/-! ## The waiting loops -/

/-- An invariant of the modem's actions holds when a waiting loop ends, and the
awaited value has been read. -/
theorem triple_pcomWaitFor {I : Shared → Prop}
    (stable : ∀ shared modem, I shared → I (shared.react modem))
    (read : Shared → U32) (value : U32) :
    Triple I (pcomWaitFor read value) fun _ shared => I shared ∧ read shared = value := by
  refine triple_loop (I := fun _ => I) (fun _ => ?_) ()
  unfold pcomWaitRound
  refine triple_bind (Q := fun _ => I) (triple_next.consequence (Q := fun _ => I)
    (fun _ holds _ => holds) fun _ _ => id) fun modem => ?_
  refine triple_bind (Q := fun _ => I) (triple_modify.consequence (Q := fun _ => I)
    (fun shared => stable shared modem) fun _ _ => id) fun _ => ?_
  intro state tape value' final rest holds returned
  rcases bind_eq_some_iff.mp returned with ⟨_, _, _, got, finished⟩
  cases got
  cases finished
  split
  · exact ⟨holds, ‹_›⟩
  · exact holds

/-- While no command is pending the modem handles none. -/
theorem react_of_not_notified {shared : Shared} (quiet : shared.notified = false)
    (modem : Modem) :
    (shared.react modem).notified = false ∧
      (shared.react modem).exchanges = shared.exchanges := by
  cases modem <;> simp [Shared.react, quiet]

/-- A pending command is still pending, or has been handled exactly once. -/
def PendingOrHandled (command data1 data2 : U32) (earlier : List Exchange)
    (shared : Shared) : Prop :=
  (shared.notified = true ∧ shared.appCommand = command ∧ shared.appData1 = data1 ∧
      shared.appData2 = data2 ∧ shared.exchanges = earlier) ∨
    ∃ reply : Reply, shared.notified = false ∧ shared.appStatus = reply.status ∧
      shared.appData1 = reply.data1 ∧ shared.appData2 = reply.data2 ∧
      shared.exchanges = ⟨command, data1, data2, reply⟩ :: earlier

theorem PendingOrHandled.react {command data1 data2 : U32} {earlier : List Exchange}
    {shared : Shared} (holds : PendingOrHandled command data1 data2 earlier shared)
    (modem : Modem) :
    PendingOrHandled command data1 data2 earlier (shared.react modem) := by
  rcases holds with ⟨pending, rfl, rfl, rfl, rfl⟩ | ⟨reply, quiet, handled⟩
  · cases modem with
    | idle => exact .inl ⟨pending, rfl, rfl, rfl, rfl⟩
    | announce mdmStatus => exact .inl ⟨pending, rfl, rfl, rfl, rfl⟩
    | answer reply => exact .inr ⟨reply, by simp [Shared.react, pending]⟩
  · refine .inr ⟨reply, ?_⟩
    cases modem with
    | idle => exact ⟨quiet, handled⟩
    | announce mdmStatus => exact ⟨quiet, handled⟩
    | answer late => simpa [Shared.react, quiet] using handled

/-! ## The exchange -/

/-- Steps of a returned call: the wait for the modem, the wait for its answer,
and what is read afterwards. -/
theorem msmProcComm_eq_some {cmd : U32} {data1 data2 : Option U32} {shared final : Shared}
    {tape rest : List Modem} {outcome : Int × Option U32 × Option U32}
    (returned : msmProcComm cmd data1 data2 shared tape = some (outcome, final, rest)) :
    ∃ ready answered : Shared, ∃ tape₁ result₁ result₂,
      pcomWaitFor Shared.mdmStatus PCOM_READY shared tape = some (result₁, ready, tape₁) ∧
      pcomWaitFor Shared.appCommand PCOM_CMD_DONE
        { ready with
          appCommand := cmd, appData1 := data1.getD 0, appData2 := data2.getD 0,
          notified := true } tape₁ = some (result₂, answered, rest) ∧
      final = { answered with appCommand := PCOM_CMD_IDLE } ∧
      outcome = Reply.settle ⟨answered.appStatus, answered.appData1, answered.appData2⟩
        data1 data2 := by
  rcases bind_eq_some_iff.mp returned with ⟨_, ready, tape₁, waited, returned⟩
  rcases bind_eq_some_iff.mp waited with ⟨result₁, _, _, waited, negated⟩
  cases negated
  rcases bind_eq_some_iff.mp returned with ⟨_, _, _, wrote, returned⟩
  cases wrote
  rcases bind_eq_some_iff.mp returned with ⟨_, _, _, notified, returned⟩
  cases notified
  rcases bind_eq_some_iff.mp returned with ⟨result₂, answered, _, answeredAt, returned⟩
  rcases bind_eq_some_iff.mp returned with ⟨_, _, _, got, returned⟩
  cases got
  rcases bind_eq_some_iff.mp returned with ⟨_, _, _, idled, returned⟩
  cases idled
  cases returned
  exact ⟨ready, answered, tape₁, result₁, result₂, waited, answeredAt, rfl, rfl⟩

/-- The outcome depends only on the status and data words left in shared memory. -/
theorem msmProcComm_outcome {cmd : U32} {data1 data2 : Option U32} {shared final : Shared}
    {tape rest : List Modem} {outcome : Int × Option U32 × Option U32}
    (returned : msmProcComm cmd data1 data2 shared tape = some (outcome, final, rest)) :
    outcome = Reply.settle ⟨final.appStatus, final.appData1, final.appData2⟩ data1 data2 := by
  rcases msmProcComm_eq_some returned with ⟨_, _, _, _, _, _, _, rfl, outcome_eq⟩
  exact outcome_eq

/-- A returned call is exactly one exchange. -/
theorem msmProcComm_exchange {cmd : U32} (notDone : cmd ≠ PCOM_CMD_DONE)
    {data1 data2 : Option U32} {shared final : Shared} {tape rest : List Modem}
    {outcome : Int × Option U32 × Option U32} (quiet : shared.notified = false)
    (returned : msmProcComm cmd data1 data2 shared tape = some (outcome, final, rest)) :
    ∃ reply : Reply, outcome = reply.settle data1 data2 ∧
      final.appStatus = reply.status ∧ final.notified = false ∧
      final.exchanges = ⟨cmd, data1.getD 0, data2.getD 0, reply⟩ :: shared.exchanges := by
  obtain ⟨ready, answered, _, _, _, waited, answeredAt, rfl, outcome_eq⟩ :=
    msmProcComm_eq_some returned
  have readyInv := triple_pcomWaitFor
    (I := fun current => current.notified = false ∧ current.exchanges = shared.exchanges)
    (fun current modem holds =>
      ⟨(react_of_not_notified holds.1 modem).1,
        (react_of_not_notified holds.1 modem).2.trans holds.2⟩)
    _ _ ⟨quiet, rfl⟩ waited
  have pending : PendingOrHandled cmd (data1.getD 0) (data2.getD 0) shared.exchanges
      { ready with
        appCommand := cmd, appData1 := data1.getD 0, appData2 := data2.getD 0,
        notified := true } :=
    .inl ⟨rfl, rfl, rfl, rfl, readyInv.1.2⟩
  have answeredInv := triple_pcomWaitFor (fun _ modem holds => holds.react modem) _ _
    pending answeredAt
  rcases answeredInv with ⟨pending | ⟨reply, quietAgain, status, word1, word2, handled⟩, done⟩
  · exact absurd (pending.2.1.symm.trans done) notDone
  · refine ⟨reply, ?_, status, quietAgain, handled⟩
    rw [outcome_eq, status, word1, word2]

/-- Every answer is possible: the modem is ready and answers at once. -/
theorem msmProcComm_answered (cmd : U32) (data1 data2 : Option U32) (shared : Shared)
    (reply : Reply) (rest : List Modem) :
    msmProcComm cmd data1 data2 { shared with notified := false }
        (.announce PCOM_READY :: .answer reply :: rest) =
      some (reply.settle data1 data2,
        { shared with
          appCommand := PCOM_CMD_IDLE, appStatus := reply.status, appData1 := reply.data1,
          appData2 := reply.data2, mdmStatus := PCOM_READY, notified := false,
          exchanges := ⟨cmd, data1.getD 0, data2.getD 0, reply⟩ :: shared.exchanges },
        rest) := by
  rfl

end HtcLeo.Pcom
