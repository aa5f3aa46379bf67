import HtcLeo.Keypad.Acquisition
import HtcLeo.Keypad.Served

/-!
# Starts and stops are atomic

An idle driver stays idle or runs, and a running driver stays as it is or is released.  The
two exceptions are a start without memory for the private structure and a stop whose
interfaces are not uninstalled.
-/

namespace HtcLeo.Keypad

open Transition

namespace Driver

/-! ## The entry points -/

section Enter

variable {driver : Driver} {returns : Returns}

theorem Released.openProtocol_fst (released : driver.Released) (status : U32) :
    (driver.openProtocol status).1 = status := by
  rw [openProtocol, released.protocols, if_neg Bool.false_ne_true]
  split <;> rfl

/-- A private structure of zeros, with an empty list, is all that is held at first. -/
theorem Released.allocate (released : driver.Released) {candidate : U32}
    (memory : (driver.allocateZeroPool candidate).1 ≠ 0) :
    candidate ≠ 0 ∧ ∃ after,
      ({ driver with protocols := ⟨true, none⟩ } : Driver).allocateZeroPool candidate =
        (candidate, ({ driver with protocols := ⟨true, none⟩ } : Driver).allocated candidate) ∧
      (({ driver with protocols := ⟨true, none⟩ } : Driver).allocated
        candidate).initializeListHead candidate = some after ∧
      after.Starting candidate ⟨fun _ => false, false⟩ false := by
  rw [allocateZeroPool] at memory
  split at memory
  · exact absurd rfl memory
  · rename_i usable
    have nonzero : candidate ≠ 0 := fun same => usable (.inl same)
    have head_ne : candidate + NOTIFY_LIST ≠ 0 := fun same => usable (.inr (.inr (.inl same)))
    have free : driver.structures = fun _ => none := funext released.structures
    let opened : Driver := { driver with protocols := ⟨true, none⟩ }
    let links := Function.update (opened.allocated candidate).heap.links
      (candidate + NOTIFY_LIST) (some ⟨candidate + NOTIFY_LIST, candidate + NOTIFY_LIST⟩)
    have initialized : (opened.allocated candidate).initializeListHead candidate =
        some { opened.allocated candidate with
          heap := { (opened.allocated candidate).heap with links := links } } := by
      simp [allocated, initializeListHead, ListMemory.initializeListHead, links]
    refine ⟨nonzero, _, if_neg usable, initialized, ?_, rfl, released.polled⟩
    constructor
    · simp [allocated, opened, free]
    · exact fun pointer => by simp [allocated, opened, released.created]
    · simp [allocated, opened, released.polled]
    · exact nonzero
    · rfl
    · exact head_ne
    · apply NotifyHeap.represents_nil
      · simp [allocated, links]
      · intro address apart
        simp only [allocated, links, opened] at apart ⊢
        simp only [Function.update_of_ne apart, released.links]
      · exact released.nodes

/-- With memory for the private structure, starting ends with nothing held or with a
running driver. -/
theorem Released.start (released : driver.Released)
    (memory : efiError (returns .openKeypadDevice) = false →
      (driver.allocateZeroPool (returns .allocateZeroPool)).1 ≠ 0) :
    Concludes (driver.keypadControllerDriverStart returns) := by
  have closed : driver.protocols.opened = false := by rw [released.protocols]
  have installed : driver.protocols.installed = none := by rw [released.protocols]
  cases error : efiError (returns .openKeypadDevice) with
  | true =>
      refine ⟨returns .openKeypadDevice, driver, ?_, fun _ => released, fun success => ?_⟩
      · simp [keypadControllerDriverStart, openProtocol, closed, error]
      · exact absurd (success.symm.trans error) Bool.false_ne_true
  | false =>
      obtain ⟨nonzero, after, address, initialized, starting⟩ := released.allocate (memory error)
      have result : driver.keypadControllerDriverStart returns =
          performStages returns (returns .allocateZeroPool) stages EFI_SUCCESS after := by
        simp only [keypadControllerDriverStart, openProtocol, closed, error, installed,
          Bool.false_eq_true, if_false, address, if_neg nonzero, initialized, Option.bind_some]
      rw [result]
      apply starting.createEvent
      intro one oneStarting
      apply oneStarting.createEvent
      intro two twoStarting
      apply twoStarting.createEvent
      intro three threeStarting
      apply threeStarting.setTimer rfl
      intro four fourStarting
      apply fourStarting.createEvent
      intro five fiveStarting
      apply fiveStarting.reset rfl
      apply fiveStarting.controllerNameTable rfl
      intro six on sixStarting
      exact sixStarting.installMultipleProtocolInterfaces rfl

/-- Without it, the exit reads a list head that is not in memory. -/
theorem Released.start_eq_none (released : driver.Released)
    (opens : efiError (returns .openKeypadDevice) = false)
    (exhausted : (driver.allocateZeroPool (returns .allocateZeroPool)).1 = 0) :
    driver.keypadControllerDriverStart returns = none := by
  let opened : Driver := { driver with protocols := ⟨true, none⟩ }
  have null : opened.allocateZeroPool (returns .allocateZeroPool) = (0, opened) := by
    rw [allocateZeroPool] at exhausted ⊢
    split at exhausted
    · rename_i unusable
      exact if_pos unusable
    · rename_i usable
      exact absurd (.inl exhausted) usable
  have unread : ∀ fuel, NotifyHeap.freeNodes (0 + NOTIFY_LIST) (fuel + 1) opened.heap = none := by
    intro fuel
    have absent : opened.heap.links (0 + NOTIFY_LIST) = none := released.links _
    rw [NotifyHeap.freeNodes, absent, Option.bind_none]
  have faults : opened.kbdFreeNotifyList (0 + NOTIFY_LIST) = none := by
    rw [kbdFreeNotifyList, NotifyHeap.kbdFreeNotifyList, if_neg (by decide), unread]
    rfl
  have opening : driver.openProtocol (returns .openKeypadDevice) =
      (returns .openKeypadDevice, opened) := by
    simp [openProtocol, opens, opened, released.protocols]
  rw [keypadControllerDriverStart, opening]
  simp only [opens, Bool.false_eq_true, if_false, null, if_true, errorExit, exitRelease,
    Option.bind_eq_bind, Option.bind_some, faults, Option.bind_none]

/-- A running driver is not started again. -/
theorem Running.start (running : driver.Running) (returns : Returns) :
    driver.openProtocol (returns .openKeypadDevice) = (EFI_ALREADY_STARTED, driver) ∧
      driver.keypadControllerDriverStart returns = some (EFI_ALREADY_STARTED, driver) := by
  rcases running with ⟨consoleIn, data, notifyList, -, protocols, -⟩
  have opening : driver.openProtocol (returns .openKeypadDevice) =
      (EFI_ALREADY_STARTED, driver) := by
    rw [openProtocol, protocols]
    rfl
  refine ⟨opening, ?_⟩
  rw [keypadControllerDriverStart, opening]
  exact if_pos efiError_alreadyStarted

/-- Only a running driver can be stopped. -/
theorem Released.stop (released : driver.Released) :
    driver.keypadControllerDriverStop returns = some (EFI_UNSUPPORTED, driver) := by
  rw [keypadControllerDriverStop, released.protocols]

/-- If an interface is not opened, the driver runs on. -/
theorem Running.stop_of_unopened (running : driver.Running)
    (unopened : efiError (returns .openSimpleTextIn) = true ∨
      efiError (returns .openSimpleTextInEx) = true) :
    ∃ status, driver.keypadControllerDriverStop returns = some (status, driver) ∧
      efiError status = true := by
  rcases running with ⟨consoleIn, data, notifyList, -, protocols, -⟩
  rw [keypadControllerDriverStop, protocols]
  by_cases textIn : efiError (returns .openSimpleTextIn) = true
  · exact ⟨_, if_pos textIn, textIn⟩
  · have textInEx := unopened.resolve_left textIn
    exact ⟨_, (if_neg textIn).trans (if_pos textInEx), textInEx⟩

/-- If both are, the timer event is closed, whether or not they can be uninstalled. -/
theorem Running.stop_of_opened (running : driver.Running)
    (textIn : efiError (returns .openSimpleTextIn) = false)
    (textInEx : efiError (returns .openSimpleTextInEx) = false) :
    ∃ after, driver.keypadControllerDriverStop returns =
        some (if efiError (returns .uninstallMultipleProtocolInterfaces) then
            returns .uninstallMultipleProtocolInterfaces
          else EFI_SUCCESS, after) ∧
      if efiError (returns .uninstallMultipleProtocolInterfaces) then
        driver.polled = true ∧ after.polled = false
      else after.Released := by
  rcases running with ⟨consoleIn, data, notifyList, holds, protocols, polled, -⟩
  obtain ⟨closed, closed_eq, closedHolds, same, stopped⟩ :=
    holds.closeEvent .timerEvent List.not_mem_nil
  rw [keypadControllerDriverStop, protocols]
  simp only [textIn, textInEx, Bool.false_eq_true, if_false, closed_eq, Option.bind_some]
  split
  · refine ⟨closed, rfl, polled, ?_⟩
    rw [stopped, polled]
    rfl
  · rw [same, protocols]
    exact (closedHolds.ofProtocols ⟨true, none⟩).stopTail (by simp [PrivateData.point]) rfl

/-- The notify list of a running driver is registered in memory whatever is called. -/
theorem Running.notify (running : driver.Running) (call : ListCall) :
    ∃ after, driver.enter (.notify call) = some (EFI_SUCCESS, after) ∧ after.Running := by
  rcases running with ⟨consoleIn, data, notifyList, holds, protocols, polled, works⟩
  obtain ⟨heap, listAfter, performed, represents, changed⟩ := holds.represents.perform call
  refine ⟨{ driver with heap := heap }, ?_, consoleIn, data, listAfter, ?_, protocols, polled,
    works⟩
  · rw [enter, performed, Option.map_some]
  · exact { holds with
      listHead := changed.listHead.trans holds.listHead
      represents := represents }

end Enter

end Driver

/-! ## One step -/

section Step

variable {before after : Driver} {entryPoint : EntryPoint}

theorem Driver.Released.atomic_iff (released : before.Released) (entryPoint : EntryPoint) :
    Atomic ⟨before, entryPoint, after⟩ ↔ Spared ⟨before, entryPoint, after⟩ := by
  cases entryPoint with
  | start returns =>
      simp only [Atomic, Spared, released.openProtocol_fst]
      by_cases memory : efiError (returns .openKeypadDevice) = false →
          (before.allocateZeroPool (returns .allocateZeroPool)).1 ≠ 0
      · obtain ⟨status, started, result, nothing, -⟩ := released.start memory
        exact iff_of_true ⟨status, started, result, fun error => released.same (nothing error)⟩
          memory
      · refine iff_of_false ?_ memory
        simp only [not_forall, not_not] at memory
        rcases memory with ⟨opens, exhausted⟩
        rintro ⟨status, started, result, -⟩
        rw [released.start_eq_none opens exhausted] at result
        exact Option.some_ne_none _ result.symm
  | stop returns =>
      apply iff_of_true
      · refine ⟨_, before, released.stop, fun _ => .refl before, fun success => ?_⟩
        exact absurd success (by simp)
      · exact fun installed => absurd (by rw [released.protocols]) installed
  | notify call => exact iff_of_true trivial trivial

theorem Driver.Running.installed (running : before.Running) :
    before.protocols.installed ≠ none := by
  rcases running with ⟨consoleIn, data, notifyList, -, protocols, -⟩
  rw [protocols]
  exact Option.some_ne_none consoleIn

theorem Driver.Running.stop_iff (running : before.Running) (returns : Returns) :
    Atomic ⟨before, .stop returns, after⟩ ↔ Spared ⟨before, .stop returns, after⟩ := by
  by_cases unopened : efiError (returns .openSimpleTextIn) = true ∨
      efiError (returns .openSimpleTextInEx) = true
  · obtain ⟨status, result, error⟩ := running.stop_of_unopened unopened
    apply iff_of_true
    · refine ⟨status, before, result, fun _ => .refl before, fun success => ?_⟩
      exact absurd (success.symm.trans error) Bool.false_ne_true
    · intro _ textIn textInEx
      rw [textIn, textInEx] at unopened
      exact absurd unopened (by simp)
  · rw [not_or, Bool.not_eq_true, Bool.not_eq_true] at unopened
    obtain ⟨stopped, result, outcome⟩ := running.stop_of_opened unopened.1 unopened.2
    cases failed : efiError (returns .uninstallMultipleProtocolInterfaces) with
    | true =>
        simp only [failed, if_true] at result outcome
        apply iff_of_false
        · rintro ⟨status, driver, performed, same, -⟩
          rw [result] at performed
          cases performed
          have polled := (same failed).polled
          rw [outcome.1, outcome.2] at polled
          exact Bool.false_ne_true polled
        · intro spared
          exact absurd (failed.symm.trans (spared running.installed unopened.1 unopened.2))
            Bool.false_ne_true.symm
    | false =>
        simp only [failed, Bool.false_eq_true, if_false] at result outcome
        apply iff_of_true
        · exact ⟨_, stopped, result, fun error => absurd error (by simp), fun _ => outcome⟩
        · exact fun _ _ _ => failed

theorem Driver.Running.atomic_iff (running : before.Running) (entryPoint : EntryPoint) :
    Atomic ⟨before, entryPoint, after⟩ ↔ Spared ⟨before, entryPoint, after⟩ := by
  cases entryPoint with
  | start returns =>
      obtain ⟨opening, result⟩ := running.start returns
      apply iff_of_true
      · exact ⟨_, before, result, fun _ => .refl before⟩
      · intro opens
        rw [opening] at opens
        exact absurd opens (by simp)
  | stop returns => exact running.stop_iff returns
  | notify call => exact iff_of_true trivial trivial

/-- An idle driver stays idle or runs, as long as there is memory. -/
theorem Driver.Released.next (released : before.Released)
    (entered : Enters before entryPoint after)
    (spared : Spared ⟨before, entryPoint, after⟩) : after.Released ∨ after.Running := by
  cases entryPoint with
  | start returns =>
      simp only [Spared, released.openProtocol_fst] at spared
      obtain ⟨status, started, result, nothing, runs⟩ := released.start spared
      rw [entered.2 status started result]
      cases error : efiError status with
      | true => exact .inl (nothing error)
      | false => exact .inr (runs error)
  | stop returns =>
      rw [entered.2 _ before released.stop]
      exact .inl released
  | notify call => exact absurd (by rw [released.protocols]) (entered.1 call rfl)

/-- A running driver runs on or is stopped, as long as its interfaces can be uninstalled. -/
theorem Driver.Running.next (running : before.Running)
    (entered : Enters before entryPoint after)
    (spared : Spared ⟨before, entryPoint, after⟩) : after.Released ∨ after.Running := by
  cases entryPoint with
  | start returns =>
      rw [entered.2 _ before (running.start _).2]
      exact .inr running
  | stop returns =>
      by_cases unopened : efiError (returns .openSimpleTextIn) = true ∨
          efiError (returns .openSimpleTextInEx) = true
      · obtain ⟨status, result, -⟩ := running.stop_of_unopened unopened
        rw [entered.2 status before result]
        exact .inr running
      · rw [not_or, Bool.not_eq_true, Bool.not_eq_true] at unopened
        obtain ⟨stopped, result, outcome⟩ := running.stop_of_opened unopened.1 unopened.2
        rw [entered.2 _ stopped result]
        rw [spared running.installed unopened.1 unopened.2, if_neg Bool.false_ne_true] at outcome
        exact .inl outcome
  | notify call =>
      obtain ⟨changed, result, runs⟩ := running.notify call
      rw [entered.2 _ changed result]
      exact .inr runs

end Step

/-- Starting and stopping are atomic in a run exactly when, in it, no device is opened for
which there is no memory, and no interfaces are opened that cannot be uninstalled. -/
theorem entries_atomic_iff {start : Driver} {steps : List (Step Driver EntryPoint)}
    (released : start.Released) (run : Run Enters start steps) :
    (∀ step ∈ steps, Atomic step) ↔ ∀ step ∈ steps, Spared step := by
  apply run.forall_iff (I := fun driver => driver.Released ∨ driver.Running) (.inl released)
  · rintro before entryPoint after (released | running) -
    · exact released.atomic_iff entryPoint
    · exact running.atomic_iff entryPoint
  · rintro before entryPoint after (released | running) entered atomic
    · exact released.next entered ((released.atomic_iff entryPoint).mp atomic)
    · exact running.next entered ((running.atomic_iff entryPoint).mp atomic)

/-! ## Runs of concrete calls -/

/-- The driver before it is first started. -/
def unstarted : Driver where
  protocols := ⟨false, none⟩
  structures := fun _ => none
  created := fun _ => false
  polled := false
  heap := ⟨0, fun _ => none, fun _ => none, 0⟩

theorem unstarted_released : unstarted.Released :=
  ⟨rfl, fun _ => rfl, fun _ => rfl, rfl, fun _ => rfl, fun _ => rfl⟩

/-- Every call succeeds, but for those that fail. -/
def failing (fails : List (BootCall × U32)) : Returns := fun call =>
  match fails.lookup call with
  | some status => status
  | none => if call = .allocateZeroPool then 0x10000 else EFI_SUCCESS

def EFI_ACCESS_DENIED : U32 := 0x8000000F

/-- The driver after an entry point has returned. -/
def Driver.perform (driver : Driver) (entryPoint : EntryPoint) : Driver :=
  ((driver.enter entryPoint).map (·.2)).getD driver

theorem enters_perform {driver : Driver} {entryPoint : EntryPoint}
    (installed : ∀ call, entryPoint = .notify call → driver.protocols.installed ≠ none) :
    Enters driver entryPoint (driver.perform entryPoint) := by
  refine ⟨installed, fun status after entered => ?_⟩
  rw [Driver.perform, entered]
  rfl

/-- Events run out the first time; then the driver is started, listens, and is stopped. -/
def startedAndStopped : List (Step Driver EntryPoint) :=
  trace Driver.perform unstarted
    [.start (failing [(.createEvent .timerEvent, EFI_OUT_OF_RESOURCES)]), .start (failing []),
      .notify (listenAt 1 0x20), .stop (failing [])]

theorem entries_atomic_startedAndStopped :
    unstarted.Released ∧ Run Enters unstarted startedAndStopped ∧
      ∀ step ∈ startedAndStopped, Atomic step := by
  have run : Run Enters unstarted startedAndStopped := by
    apply run_trace
    simp only [trace, List.forall_mem_cons]
    refine ⟨enters_perform ?_, enters_perform ?_, enters_perform ?_, enters_perform ?_, by simp⟩
    · rintro call ⟨⟩
    · rintro call ⟨⟩
    · rintro _ -
      decide +kernel
    · rintro call ⟨⟩
  refine ⟨unstarted_released, run, (entries_atomic_iff unstarted_released run).mpr ?_⟩
  simp only [startedAndStopped, trace, List.forall_mem_cons, Spared]
  refine ⟨?_, ?_, trivial, ?_, by simp⟩ <;> decide +kernel

/-- There is no memory for the private structure. -/
def starved : List (Step Driver EntryPoint) :=
  trace Driver.perform unstarted [.start (failing [(.allocateZeroPool, 0)])]

/-- The interfaces are in use when the driver is to be stopped. -/
def denied : List (Step Driver EntryPoint) :=
  trace Driver.perform unstarted
    [.start (failing []), .stop (failing [(.uninstallMultipleProtocolInterfaces,
      EFI_ACCESS_DENIED)])]

/-- Starting reads through a null pointer, and a driver that could not be stopped has
stopped to poll. -/
theorem start_and_stop_not_atomic :
    (Run Enters unstarted starved ∧ ∃ step ∈ starved, ¬ Atomic step) ∧
      Run Enters unstarted denied ∧ ∃ step ∈ denied, ¬ Atomic step := by
  refine ⟨⟨?_, _, .head _, ?_⟩, ?_, _, .tail _ (.head _), ?_⟩
  · apply run_trace
    simp only [trace, List.forall_mem_cons]
    exact ⟨enters_perform (by rintro call ⟨⟩), by simp⟩
  · rintro ⟨status, after, started, -⟩
    rw [unstarted_released.start_eq_none (by decide) (by decide)] at started
    exact Option.some_ne_none _ started.symm
  · apply run_trace
    simp only [trace, List.forall_mem_cons]
    exact ⟨enters_perform (by rintro call ⟨⟩), enters_perform (by rintro call ⟨⟩), by simp⟩
  · rintro ⟨status, after, stopped, same, -⟩
    have outcome : ((unstarted.perform (.start (failing []))).keypadControllerDriverStop
        (failing [(.uninstallMultipleProtocolInterfaces, EFI_ACCESS_DENIED)])).map
          (fun result => (efiError result.1, result.2.polled)) = some (true, false) := by
      decide +kernel
    rw [stopped, Option.map_some, Option.some_inj, Prod.mk.injEq] at outcome
    have polled : after.polled = true := by
      rw [(same outcome.1).polled]
      decide +kernel
    exact Bool.false_ne_true (outcome.2.symm.trans polled)

end HtcLeo.Keypad
