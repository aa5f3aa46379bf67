import Mathlib.Algebra.GroupWithZero.Nat
import Mathlib.Algebra.Order.BigOperators.Group.List
import Mathlib.Algebra.Order.Group.Nat
import HtcLeo.Keypad.Core
import HtcLeo.Transition.Run

/-!
# Whether each keystroke reaches each listener once

A keystroke waits in the notify queue once for every entry it matched, and each time it
is taken out every matching entry is called.  With `m` matching entries a function
that has one of them is therefore called `m` times, and one that has `e` of them `m * e`
times.  Counting the calls shows that no combination of keystrokes makes up for this.
-/

namespace HtcLeo.Keypad

open Transition

/-! ## Requests -/

/-- A keystroke that was pushed, with the entries registered at that time. -/
structure Keystroke where
  keyData : EfiKeyData
  notifyList : List Notify
  deriving DecidableEq, Repr

/-- The entries that a keystroke matched when it was pushed. -/
def Keystroke.entries (keystroke : Keystroke) : List Notify :=
  matching keystroke.notifyList keystroke.keyData

/-- The device, and the keystrokes pushed since the handler last ran. -/
structure Console where
  consoleIn : ConsoleIn
  awaited : List Keystroke

/-- What can happen to the device: calls on the list, a keystroke, the handler of its event. -/
inductive Request where
  | register (keyData : Option EfiKeyData) (keyNotificationFunction : U32)
      (notifyHandle : Bool) (allocated : U32)
  | unregister (notificationHandle : U32)
  | keystroke (keyData : EfiKeyData)
  | process
  deriving DecidableEq, Repr

/-- A partial key is dropped unless partial keys were asked for. -/
def ConsoleIn.drops (consoleIn : ConsoleIn) (keyData : EfiKeyData) : Bool :=
  keyData.isPartialKey && !consoleIn.isSupportPartialKey

/-- The console after a request. -/
def Console.perform (console : Console) : Request → Console
  | .register keyData keyNotificationFunction notifyHandle allocated =>
      { console with
        consoleIn := (keypadRegisterKeyNotify console.consoleIn keyData
          keyNotificationFunction notifyHandle allocated).2.2 }
  | .unregister notificationHandle =>
      { console with
        consoleIn := (keypadUnregisterKeyNotify console.consoleIn notificationHandle).2 }
  | .keystroke keyData =>
      { consoleIn := keypadReturnApiPushEfikeyBufTail console.consoleIn keyData
        awaited :=
          if console.consoleIn.drops keyData then console.awaited
          else console.awaited ++ [⟨keyData, console.consoleIn.notifyList⟩] }
  | .process =>
      { consoleIn := (keyNotifyProcessHandler console.consoleIn).2
        awaited := [] }

/-- The notify queue has room for what a keystroke adds to it. -/
def Console.Room (console : Console) : Request → Prop
  | .keystroke keyData => console.consoleIn.drops keyData = false →
      console.consoleIn.efiKeyQueueForNotify.contents.length +
        (matching console.consoleIn.notifyList keyData).length < KEYPAD_EFI_KEY_MAX_COUNT
  | _ => True

/-- A request that does not overflow the notify queue. -/
def Performs (before : Console) (request : Request) (after : Console) : Prop :=
  before.Room request ∧ after = before.perform request

/-! ## The notify queue -/

/-- Every keystroke waits once for each entry that it matched. -/
def Console.Queued (console : Console) : Prop :=
  console.consoleIn.efiKeyQueueForNotify.contents =
    console.awaited.flatMap fun keystroke =>
      List.replicate keystroke.entries.length keystroke.keyData

theorem register_efiKeyQueueForNotify (consoleIn : ConsoleIn) (keyData : Option EfiKeyData)
    (fn : U32) (notifyHandle : Bool) (allocated : U32) :
    (keypadRegisterKeyNotify consoleIn keyData fn notifyHandle
      allocated).2.2.efiKeyQueueForNotify = consoleIn.efiKeyQueueForNotify := by
  unfold keypadRegisterKeyNotify
  repeat' split
  all_goals rfl

theorem unregister_efiKeyQueueForNotify (consoleIn : ConsoleIn) (handle : U32) :
    (keypadUnregisterKeyNotify consoleIn handle).2.efiKeyQueueForNotify =
      consoleIn.efiKeyQueueForNotify := by
  unfold keypadUnregisterKeyNotify
  repeat' split
  all_goals rfl

theorem Console.Queued.perform {console : Console} (queued : console.Queued)
    {request : Request} (room : console.Room request) : (console.perform request).Queued := by
  cases request with
  | register keyData fn notifyHandle allocated =>
      rw [Queued, Console.perform, register_efiKeyQueueForNotify]
      exact queued
  | unregister handle =>
      rw [Queued, Console.perform, unregister_efiKeyQueueForNotify]
      exact queued
  | process => exact keyNotifyProcessHandler_contents console.consoleIn
  | keystroke keyData =>
      cases dropped : console.consoleIn.drops keyData with
      | true =>
          have unchanged : console.perform (.keystroke keyData) = console := by
            unfold ConsoleIn.drops at dropped
            simp only [Console.perform, ConsoleIn.drops, keypadReturnApiPushEfikeyBufTail,
              dropped, if_true]
          rw [unchanged]
          exact queued
      | false =>
          have pushed := foldl_signal_contents keyData console.consoleIn.notifyList
            (room dropped)
          have entries : (⟨keyData, console.consoleIn.notifyList⟩ : Keystroke).entries =
            matching console.consoleIn.notifyList keyData := rfl
          unfold ConsoleIn.drops at dropped
          simp only [Queued, Console.perform, ConsoleIn.drops, keypadReturnApiPushEfikeyBufTail,
            dropped, Bool.false_eq_true, if_false, List.flatMap_append, List.flatMap_singleton]
          rw [pushed, queued, entries]

/-! ## The property and its condition -/

/-- The call is due for the keystroke: its function had a matching entry. -/
def Keystroke.Due (keystroke : Keystroke) (call : Call) : Prop :=
  call.keyData = keystroke.keyData ∧
    ∃ entry ∈ keystroke.entries, entry.keyNotificationFn = call.keyNotificationFn

/-- Keystroke by keystroke, the calls are those that are due, each made once. -/
def Delivered : List Keystroke → List Call → Prop
  | [], calls => calls = []
  | keystroke :: later, calls => ∃ first rest, calls = first ++ rest ∧
      first.Nodup ∧ (∀ call, call ∈ first ↔ keystroke.Due call) ∧ Delivered later rest

/-- When the handler has run, each keystroke has reached each of its listeners once. -/
def ReachesOnce (step : Step Console Request) : Prop :=
  step.label = .process →
    Delivered step.before.awaited (keyNotifyProcessHandler step.before.consoleIn).1

/-- No entry matched the keystroke when it was pushed; or a single one did, and of the
present entries, too, a single one matches, with the same function. -/
def Keystroke.Lone (keystroke : Keystroke) (notifyList : List Notify) : Prop :=
  keystroke.entries = [] ∨ ∃ entry present, keystroke.entries = [entry] ∧
    matching notifyList keystroke.keyData = [present] ∧
      present.keyNotificationFn = entry.keyNotificationFn

/-- The handler finds keystrokes of single entries only. -/
def FindsLone (step : Step Console Request) : Prop :=
  step.label = .process →
    ∀ keystroke ∈ step.before.awaited, keystroke.Lone step.before.consoleIn.notifyList

/-! ## Single entries are enough -/

theorem Keystroke.Lone.calls {keystroke : Keystroke} {notifyList : List Notify}
    (lone : keystroke.Lone notifyList) :
    ((List.replicate keystroke.entries.length keystroke.keyData).flatMap
        (notifyCalls notifyList)).Nodup ∧
      ∀ call, call ∈ (List.replicate keystroke.entries.length keystroke.keyData).flatMap
        (notifyCalls notifyList) ↔ keystroke.Due call := by
  rcases lone with none | ⟨entry, present, single, matched, same⟩
  · simp [none, Keystroke.Due]
  · have calls : (List.replicate keystroke.entries.length keystroke.keyData).flatMap
        (notifyCalls notifyList) = [⟨entry.keyNotificationFn, keystroke.keyData⟩] := by
      simp [single, notifyCalls, matched, same]
    rw [calls]
    constructor
    · exact List.pairwise_singleton _ _
    · rintro ⟨fn, keyData⟩
      rw [List.mem_singleton, Call.mk.injEq, Keystroke.Due, single]
      simp only [List.mem_singleton, exists_eq_left]
      exact ⟨fun ⟨fn_eq, key_eq⟩ => ⟨key_eq, fn_eq.symm⟩,
        fun ⟨key_eq, fn_eq⟩ => ⟨fn_eq.symm, key_eq⟩⟩

theorem delivered_of_lone {notifyList : List Notify} {awaited : List Keystroke}
    (lone : ∀ keystroke ∈ awaited, keystroke.Lone notifyList) :
    Delivered awaited ((awaited.flatMap fun keystroke =>
      List.replicate keystroke.entries.length keystroke.keyData).flatMap
        (notifyCalls notifyList)) := by
  induction awaited with
  | nil => rfl
  | cons keystroke later ih =>
      rw [List.forall_mem_cons] at lone
      rw [List.flatMap_cons, List.flatMap_append]
      exact ⟨_, _, rfl, lone.1.calls.1, lone.1.calls.2, ih lone.2⟩

/-! ## Counting the calls -/

section Sums

variable {ι : Type} {items : List ι} {large small : ι → Nat}

theorem eq_of_sum_eq (le : ∀ item ∈ items, small item ≤ large item)
    (eq : (items.map large).sum = (items.map small).sum) :
    ∀ item ∈ items, large item = small item := by
  intro item member
  by_contra differ
  have less : small item < large item := Nat.lt_of_le_of_ne (le item member) (Ne.symm differ)
  exact (List.sum_lt_sum small large le ⟨item, member, less⟩).ne eq.symm

/-- If the larger numbers times a factor have the same positive sum as the smaller ones,
the factor is `1` and the numbers are the same. -/
theorem eq_of_sum_mul_eq {factor : Nat} (le : ∀ item ∈ items, small item ≤ large item)
    (eq : (items.map large).sum * factor = (items.map small).sum)
    (positive : 0 < (items.map small).sum) :
    factor = 1 ∧ ∀ item ∈ items, large item = small item := by
  have ordered := List.sum_le_sum le
  have one : factor = 1 := by
    match factor with
    | 0 => omega
    | 1 => rfl
    | more + 2 =>
        rw [Nat.mul_add] at eq
        omega
  rw [one, Nat.mul_one] at eq
  exact ⟨one, eq_of_sum_eq le eq⟩

end Sums

instance (keystroke : Keystroke) (call : Call) : Decidable (keystroke.Due call) :=
  inferInstanceAs (Decidable (_ ∧ _))

/-- How often a keystroke waits under the key of a call. -/
def Keystroke.waits (call : Call) (keystroke : Keystroke) : Nat :=
  if keystroke.keyData = call.keyData then keystroke.entries.length else 0

/-- How often a call is due for a keystroke. -/
def Keystroke.dues (call : Call) (keystroke : Keystroke) : Nat :=
  if keystroke.Due call then 1 else 0

theorem Keystroke.dues_le_waits (call : Call) (keystroke : Keystroke) :
    keystroke.dues call ≤ keystroke.waits call := by
  rw [dues]
  split
  · rename_i due
    rcases due with ⟨same, entry, member, -⟩
    rw [waits, if_pos same.symm]
    exact List.length_pos_of_mem member
  · exact Nat.zero_le _

theorem Delivered.count {awaited : List Keystroke} {calls : List Call}
    (delivered : Delivered awaited calls) (call : Call) :
    calls.count call = (awaited.map (Keystroke.dues call)).sum := by
  induction awaited generalizing calls with
  | nil =>
      rw [show calls = [] from delivered]
      rfl
  | cons keystroke later ih =>
      rcases delivered with ⟨first, rest, rfl, once, due, others⟩
      rw [List.count_append, ih others, List.map_cons, List.sum_cons, once.count,
        Keystroke.dues]
      simp only [due]

theorem mem_notifyCalls {notifyList : List Notify} {keyData : EfiKeyData} {call : Call} :
    call ∈ notifyCalls notifyList keyData ↔ call.keyData = keyData ∧
      ∃ present ∈ matching notifyList keyData,
        present.keyNotificationFn = call.keyNotificationFn := by
  rcases call with ⟨fn, callKey⟩
  rw [notifyCalls, List.mem_map]
  constructor
  · rintro ⟨present, member, eq⟩
    cases eq
    exact ⟨rfl, present, member, rfl⟩
  · rintro ⟨rfl, present, member, rfl⟩
    exact ⟨present, member, rfl⟩

/-- The handler makes a call as often as keystrokes wait under its key, times the number
of entries that lead to it. -/
theorem count_calls (notifyList : List Notify) (awaited : List Keystroke) (call : Call) :
    ((awaited.flatMap fun keystroke =>
        List.replicate keystroke.entries.length keystroke.keyData).flatMap
          (notifyCalls notifyList)).count call =
      (awaited.map (Keystroke.waits call)).sum *
        (notifyCalls notifyList call.keyData).count call := by
  induction awaited with
  | nil => simp
  | cons keystroke later ih =>
      rw [List.flatMap_cons, List.flatMap_append, List.count_append, ih, List.map_cons,
        List.sum_cons, Nat.add_mul]
      congr 1
      rw [List.flatMap_replicate, List.count_flatten, List.map_replicate,
        List.sum_replicate_nat, Keystroke.waits]
      split
      · rename_i same
        rw [same]
      · rename_i different
        have absent : call ∉ notifyCalls notifyList keystroke.keyData :=
          fun member => different (mem_notifyCalls.mp member).1.symm
        rw [List.count_eq_zero.mpr absent, Nat.mul_zero, Nat.zero_mul]

/-! ## Single entries are necessary -/

/-- A call that is due for some awaited keystroke: one entry leads to it, and each
keystroke under its key waits as often as the call is due. -/
theorem Delivered.exact {notifyList : List Notify} {awaited : List Keystroke}
    (delivered : Delivered awaited ((awaited.flatMap fun keystroke =>
      List.replicate keystroke.entries.length keystroke.keyData).flatMap
        (notifyCalls notifyList)))
    {call : Call} (positive : 0 < (awaited.map (Keystroke.dues call)).sum) :
    (notifyCalls notifyList call.keyData).count call = 1 ∧
      ∀ keystroke ∈ awaited, keystroke.waits call = keystroke.dues call := by
  apply eq_of_sum_mul_eq _ _ positive
  · exact fun keystroke _ => keystroke.dues_le_waits call
  · rw [← count_calls, delivered.count]

theorem dues_sum_pos {awaited : List Keystroke} {keystroke : Keystroke} {call : Call}
    (member : keystroke ∈ awaited) (due : keystroke.Due call) :
    0 < (awaited.map (Keystroke.dues call)).sum := by
  apply List.sum_pos_iff_exists_pos_nat.mpr
  refine ⟨keystroke.dues call, List.mem_map_of_mem member, ?_⟩
  rw [Keystroke.dues, if_pos due]
  exact Nat.one_pos

section Delivered

variable {notifyList : List Notify} {awaited : List Keystroke}
  (delivered : Delivered awaited ((awaited.flatMap fun keystroke =>
    List.replicate keystroke.entries.length keystroke.keyData).flatMap
      (notifyCalls notifyList)))
  {keystroke : Keystroke} (member : keystroke ∈ awaited)

include delivered member

/-- A keystroke that matched waits once, and one call is made for it. -/
theorem single_of_delivered {entry : Notify} {others : List Notify}
    (entries : keystroke.entries = entry :: others) :
    keystroke.entries = [entry] ∧
      (notifyCalls notifyList keystroke.keyData).count
        ⟨entry.keyNotificationFn, keystroke.keyData⟩ = 1 := by
  have due : keystroke.Due ⟨entry.keyNotificationFn, keystroke.keyData⟩ := by
    refine ⟨rfl, entry, ?_, rfl⟩
    rw [entries]
    exact List.mem_cons_self
  rcases delivered.exact (dues_sum_pos member due) with ⟨once, waits_eq⟩
  have length_eq := waits_eq keystroke member
  rw [Keystroke.waits, if_pos rfl, Keystroke.dues, if_pos due, entries, List.length_cons,
    Nat.add_eq_right, List.length_eq_zero_iff] at length_eq
  exact ⟨by rw [entries, length_eq], once⟩

/-- Every call that is made for it is due. -/
theorem due_of_delivered {entry present : Notify} (single : keystroke.entries = [entry])
    (matches_ : present ∈ matching notifyList keystroke.keyData) :
    keystroke.Due ⟨present.keyNotificationFn, keystroke.keyData⟩ := by
  let call : Call := ⟨present.keyNotificationFn, keystroke.keyData⟩
  have made : call ∈ notifyCalls notifyList keystroke.keyData :=
    mem_notifyCalls.mpr ⟨rfl, present, matches_, rfl⟩
  have waits : keystroke.waits call = 1 := by
    rw [Keystroke.waits, if_pos rfl, single]
    rfl
  have waiting : 0 < (awaited.map (Keystroke.waits call)).sum := by
    apply List.sum_pos_iff_exists_pos_nat.mpr
    refine ⟨keystroke.waits call, List.mem_map_of_mem member, ?_⟩
    rw [waits]
    exact Nat.one_pos
  have positive : 0 < (awaited.map (Keystroke.dues call)).sum := by
    rw [← delivered.count, count_calls]
    exact Nat.mul_pos waiting (List.count_pos_iff.mpr made)
  have dues_eq := (delivered.exact positive).2 keystroke member
  rw [waits, Keystroke.dues] at dues_eq
  by_contra undue
  rw [if_neg undue] at dues_eq
  exact Nat.one_ne_zero dues_eq

theorem lone_of_delivered : keystroke.Lone notifyList := by
  cases entries : keystroke.entries with
  | nil => exact .inl entries
  | cons entry others =>
      rcases single_of_delivered delivered member entries with ⟨single, once⟩
      -- An entry with another function would lead to a call that is not due.
      have same : ∀ present ∈ matching notifyList keystroke.keyData,
          present.keyNotificationFn = entry.keyNotificationFn := by
        intro present presentMember
        rcases (due_of_delivered delivered member single presentMember).2 with
          ⟨first, firstMember, fn_eq⟩
        rw [single, List.mem_singleton] at firstMember
        rw [← firstMember]
        exact fn_eq.symm
      have replicated : notifyCalls notifyList keystroke.keyData =
          List.replicate (matching notifyList keystroke.keyData).length
            ⟨entry.keyNotificationFn, keystroke.keyData⟩ := by
        apply List.eq_replicate_iff.mpr
        constructor
        · exact List.length_map _
        · intro made madeMember
          rcases List.mem_map.mp madeMember with ⟨present, presentMember, rfl⟩
          rw [same present presentMember]
      have length_eq : (matching notifyList keystroke.keyData).length = 1 := by
        rw [← once, replicated, List.count_replicate_self]
      rcases List.length_eq_one_iff.mp length_eq with ⟨present, present_eq⟩
      refine .inr ⟨entry, present, single, present_eq, same present ?_⟩
      rw [present_eq]
      exact List.mem_singleton_self present

end Delivered

/-- What waits in the notify queue is delivered exactly when each keystroke is one of
single entries. -/
theorem delivered_iff (notifyList : List Notify) (awaited : List Keystroke) :
    Delivered awaited ((awaited.flatMap fun keystroke =>
      List.replicate keystroke.entries.length keystroke.keyData).flatMap
        (notifyCalls notifyList)) ↔
      ∀ keystroke ∈ awaited, keystroke.Lone notifyList :=
  ⟨fun delivered _ member => lone_of_delivered delivered member, delivered_of_lone⟩

/-! ## Runs -/

/-- Along any run from an empty notify queue that does not overflow it, each keystroke
reaches each of its listeners exactly once, whenever the handler has run, exactly when
the handler always finds keystrokes of single entries. -/
theorem listeners_reachedOnce_iff {start : Console} {steps : List (Step Console Request)}
    (idle : start.consoleIn.efiKeyQueueForNotify.contents = []) (fresh : start.awaited = [])
    (run : Run Performs start steps) :
    (∀ step ∈ steps, ReachesOnce step) ↔ ∀ step ∈ steps, FindsLone step := by
  have initial : start.Queued := by
    rw [Console.Queued, idle, fresh]
    rfl
  apply run.forall_iff (I := Console.Queued) initial
  · rintro before request _ queued ⟨-, rfl⟩
    apply imp_congr_right
    rintro -
    rw [keyNotifyProcessHandler_calls, queued]
    exact delivered_iff _ _
  · rintro before request _ queued ⟨room, rfl⟩ -
    exact queued.perform room

/-! ## One listener and two -/

/-- The Enter key, without any shift or toggle state. -/
def enterKey : EfiKeyData := ⟨⟨0, 13⟩, ⟨0, 0⟩⟩

theorem zero_lt_maxCount : 0 < KEYPAD_EFI_KEY_MAX_COUNT := by decide

/-- A queue that holds nothing. -/
def emptyQueue : EfiKeyQueue :=
  ⟨.replicate _ enterKey, 0, 0, zero_lt_maxCount, zero_lt_maxCount⟩

/-- The device after its initialization. -/
def idleConsole : Console := ⟨⟨false, emptyQueue, emptyQueue, [], false⟩, []⟩

/-- Register the function at `fn` for the Enter key; its entry is stored at `allocated`. -/
def listen (fn allocated : U32) : Request :=
  .register (some enterKey) fn true allocated

/-- One listener, one keystroke. -/
def oneListener : List (Step Console Request) :=
  trace Console.perform idleConsole [listen 1 16, .keystroke enterKey, .process]

/-- Two listeners, one keystroke. -/
def twoListeners : List (Step Console Request) :=
  trace Console.perform idleConsole
    [listen 1 16, listen 2 32, .keystroke enterKey, .process]

theorem listeners_reachedOnce_one :
    Run Performs idleConsole oneListener ∧ ∀ step ∈ oneListener, ReachesOnce step := by
  have run : Run Performs idleConsole oneListener := by
    apply run_trace
    simp only [trace, List.forall_mem_cons]
    refine ⟨⟨trivial, rfl⟩, ⟨fun _ => ?_, rfl⟩, ⟨trivial, rfl⟩, by simp⟩
    decide +kernel
  refine ⟨run, (listeners_reachedOnce_iff rfl rfl run).mpr ?_⟩
  simp only [oneListener, trace, List.forall_mem_cons]
  refine ⟨Request.noConfusion, Request.noConfusion, fun _ => ?_, by simp⟩
  intro keystroke member
  cases List.mem_singleton.mp member
  exact .inr ⟨⟨16, enterKey, 1⟩, ⟨16, enterKey, 1⟩, rfl, rfl, rfl⟩

/-- Each of the two listeners is called twice. -/
theorem twoListeners_called_twice :
    Run Performs idleConsole twoListeners ∧ ∃ step ∈ twoListeners, ¬ ReachesOnce step := by
  constructor
  · apply run_trace
    simp only [trace, List.forall_mem_cons]
    refine ⟨⟨trivial, rfl⟩, ⟨trivial, rfl⟩, ⟨fun _ => ?_, rfl⟩, ⟨trivial, rfl⟩, by simp⟩
    decide +kernel
  · let pressed := (idleConsole.perform (listen 1 16)).perform (listen 2 32) |>.perform
      (.keystroke enterKey)
    refine ⟨⟨pressed, .process, pressed.perform .process⟩, by simp [twoListeners, trace, pressed],
      fun reaches => ?_⟩
    have calls : (keyNotifyProcessHandler pressed.consoleIn).1 =
        [⟨1, enterKey⟩, ⟨2, enterKey⟩, ⟨1, enterKey⟩, ⟨2, enterKey⟩] := by
      decide +kernel
    have awaited : pressed.awaited =
        [⟨enterKey, [⟨16, enterKey, 1⟩, ⟨32, enterKey, 2⟩]⟩] := by
      decide +kernel
    have delivered := reaches rfl
    rw [calls, awaited] at delivered
    rcases delivered with ⟨first, rest, split, once, -, none⟩
    rw [show rest = [] from none, List.append_nil] at split
    rw [← split] at once
    exact absurd once (by decide)

end HtcLeo.Keypad
