import HtcLeo.Keypad.Delivery
import HtcLeo.Keypad.NotifyHeap

/-!
# Callbacks that change the notify list

`KeyNotifyProcessHandler` goes along the notify list, calls the function of each entry
that matches, and takes the next link from the entry when the function has returned.  The
function may have registered and unregistered entries, its own included, which frees the
node that the link is read from.  As long as no function does that, the position of the
loop stays in the list, and no entry ahead of it is skipped.
-/

namespace HtcLeo.Keypad

open Transition

/-! ## What a callback does to the list -/

/-- A call on the notify list. -/
inductive ListCall where
  | register (keyData : Option EfiKeyData) (keyNotificationFunction : U32)
      (notifyHandle : Bool) (candidate : U32)
  | unregister (notificationHandle : U32)
  deriving DecidableEq, Repr

namespace NotifyHeap

/-- The list after a call; `none` where memory that is not there is read. -/
def perform (heap : NotifyHeap) : ListCall → Option NotifyHeap
  | .register keyData keyNotificationFunction notifyHandle candidate =>
      (heap.keypadRegisterKeyNotify keyData keyNotificationFunction notifyHandle
        candidate).map (·.2.2)
  | .unregister notificationHandle =>
      (heap.keypadUnregisterKeyNotify notificationHandle).map (·.2)

/-- The list after several calls. -/
def performAll (heap : NotifyHeap) : List ListCall → Option NotifyHeap
  | [] => some heap
  | call :: rest => (heap.perform call).bind fun after => after.performAll rest

/-- The node is in the list. -/
def Registered (heap : NotifyHeap) (node : NotifyNode) : Prop :=
  ∃ address, heap.nodes address = some node

end NotifyHeap

/-! ## The handler -/

/-- The loop of the handler at `link`, for the keystroke `keyData`.  Besides what it works
on: how many entries it has passed for this keystroke, the nodes whose functions it has
called, and the nodes that have been in the list since it began, with their places. -/
structure Traversal where
  heap : NotifyHeap
  queue : EfiKeyQueue
  keyData : EfiKeyData
  link : U32
  passed : Nat
  called : List NotifyNode
  throughout : NotifyNode → Nat → Prop

/-- Take the next keystroke and go to the first entry. -/
def Traversal.next (traversal : Traversal) : Option Traversal :=
  (popEfikeyBufHead traversal.queue).bind fun popped =>
    (traversal.heap.links traversal.heap.listHead).map fun head =>
      { heap := traversal.heap
        queue := popped.2
        keyData := popped.1
        link := head.forwardLink
        passed := 0
        called := []
        throughout := fun node place => ∃ before address after,
          traversal.heap.links.Circular traversal.heap.listHead (before ++ address :: after) ∧
            before.length = place ∧ traversal.heap.nodes address = some node }

/-- Go on to the next link when an entry was visited. -/
def Traversal.pass (traversal : Traversal) (currentNotify : NotifyNode) (heap : NotifyHeap)
    (link : U32) : Traversal where
  heap := heap
  queue := traversal.queue
  keyData := traversal.keyData
  link := link
  passed := traversal.passed + 1
  called :=
    if isKeyRegistered currentNotify.keyData traversal.keyData then
      traversal.called ++ [currentNotify]
    else traversal.called
  throughout node place := traversal.throughout node place ∧ heap.Registered node

/-- One round of the loop; if the entry matches, its function makes the calls.  No result
is the access to a node that is not there, or to another one than before the calls. -/
def Traversal.visit (traversal : Traversal) (calls : List ListCall) : Option Traversal :=
  (traversal.heap.nodes traversal.link).bind fun currentNotify =>
    (if isKeyRegistered currentNotify.keyData traversal.keyData then
        traversal.heap.performAll calls
      else some traversal.heap).bind fun heap =>
      (heap.nodes traversal.link).bind fun node =>
        if node.allocation = currentNotify.allocation then
          (heap.links traversal.link).map fun entry =>
            traversal.pass currentNotify heap entry.forwardLink
        else none

/-- The handler before its first keystroke. -/
def Traversal.start (heap : NotifyHeap) (queue : EfiKeyQueue) (keyData : EfiKeyData) :
    Traversal :=
  ⟨heap, queue, keyData, heap.listHead, 0, [], fun _ _ => False⟩

/-- A round of the handler: the next key, or an entry whose function makes calls. -/
inductive Round where
  | next
  | visit (calls : List ListCall)
  deriving DecidableEq, Repr

/-- At the head of the list the handler takes the next keystroke, elsewhere it visits an
entry.  After an access to a node that is not there anything may follow. -/
def Handles (before : Traversal) (round : Round) (after : Traversal) : Prop :=
  match round with
  | .next => before.link = before.heap.listHead ∧ before.next = some after
  | .visit calls => before.link ≠ before.heap.listHead ∧
      ∀ visited, before.visit calls = some visited → after = visited

/-! ## The property and its condition -/

/-- No node is read after it was freed; and an entry that matches and has been in the list
throughout is called by the time that its place was passed, at the latest when the loop
is back at the head. -/
def Serves (step : Step Traversal Round) : Prop :=
  (∀ calls, step.label = .visit calls → step.before.visit calls ≠ none) ∧
    ∀ node place, step.after.throughout node place →
      isKeyRegistered node.keyData step.after.keyData = true →
        step.after.link = step.after.heap.listHead ∨ place < step.after.passed →
          node ∈ step.after.called

/-- A function that is called does not unregister the entry that it is called for. -/
def KeepsOwn (step : Step Traversal Round) : Prop :=
  ∀ calls node, step.label = .visit calls →
    step.before.heap.nodes step.before.link = some node →
      isKeyRegistered node.keyData step.before.keyData = true →
        .unregister step.before.link ∉ calls

namespace NotifyHeap

/-! ## One call -/

/-- What a call does: a node more, the node of the handle less, or nothing. -/
def Changed (heap after : NotifyHeap) (notifyList listAfter : List Notify) :
    ListCall → Prop
  | .register _ _ _ _ => after = heap ∧ listAfter = notifyList ∨
      ∃ entry, heap.Stored after entry ∧ listAfter = notifyList ++ [entry]
  | .unregister notificationHandle => heap.Freed after notificationHandle ∧
      listAfter = notifyList.filter fun entry => entry.address ≠ notificationHandle

section Call

variable {heap after : NotifyHeap} {notifyList listAfter : List Notify} {call : ListCall}

theorem Represents.perform (represents : heap.Represents notifyList) (call : ListCall) :
    ∃ after listAfter, heap.perform call = some after ∧ after.Represents listAfter ∧
      heap.Changed after notifyList listAfter call := by
  let consoleIn : ConsoleIn := { idleConsole.consoleIn with notifyList := notifyList }
  have same : heap.Represents consoleIn.notifyList := represents
  cases call with
  | register keyData fn notifyHandle candidate =>
      obtain ⟨status, handle, after, consoleAfter, registered, -, afterRepresents, changed⟩ :=
        same.register keyData fn notifyHandle candidate
      exact ⟨after, _, by rw [NotifyHeap.perform, registered]; rfl, afterRepresents, changed⟩
  | unregister handle =>
      rcases same.unregister handle with ⟨status, after, consoleAfter, unregistered, -,
        afterRepresents, ⟨rfl, list_eq, absent⟩ | ⟨before, entry, rest, rfl, freed, split, list_eq⟩⟩
      · refine ⟨after, notifyList, by rw [NotifyHeap.perform, unregistered]; rfl, represents,
          ⟨?_, rfl, rfl⟩, ?_⟩
        · symm
          apply Function.update_eq_self_iff.mpr
          cases stored : after.nodes handle with
          | none => rfl
          | some node => exact absurd rfl (absent _ (represents.mem_of_node handle node stored))
        · symm
          apply List.filter_eq_self.mpr
          intro entry member
          exact decide_eq_true (absent entry member)
      · refine ⟨after, _, by rw [NotifyHeap.perform, unregistered]; rfl, afterRepresents, freed, ?_⟩
        have nodup := represents.circular.nodup
        change notifyList = _ at split
        rw [split, List.map_append, List.map_cons] at nodup
        rw [list_eq, split, List.filter_append, List.filter_cons_of_neg (by simp)]
        have absent := (List.nodup_middle.mp (List.nodup_cons.mp nodup).2).notMem
        rw [← List.map_append] at absent
        rw [← List.filter_append]
        symm
        apply List.filter_eq_self.mpr
        intro other member
        apply decide_eq_true
        intro same
        rw [← same] at absent
        exact absent (List.mem_map_of_mem member)

theorem Changed.listHead (changed : heap.Changed after notifyList listAfter call) :
    after.listHead = heap.listHead := by
  cases call with
  | register =>
      rcases changed with ⟨rfl, -⟩ | ⟨entry, stored, -⟩
      · rfl
      · exact stored.listHead
  | unregister => exact changed.1.listHead

theorem Changed.allocations_le (changed : heap.Changed after notifyList listAfter call) :
    heap.allocations ≤ after.allocations := by
  cases call with
  | register =>
      rcases changed with ⟨rfl, -⟩ | ⟨entry, stored, -⟩
      · exact Nat.le_refl _
      · rw [stored.allocations]
        exact Nat.le_succ _
  | unregister => exact Nat.le_of_eq changed.1.allocations.symm

/-- A node that was allocated before the call was stored at its address before. -/
theorem Changed.nodes_eq (changed : heap.Changed after notifyList listAfter call)
    {address : U32} {node : NotifyNode} (stored : after.nodes address = some node)
    (old : node.allocation < heap.allocations) : heap.nodes address = some node := by
  cases call with
  | register =>
      rcases changed with ⟨rfl, -⟩ | ⟨entry, added, -⟩
      · exact stored
      · rw [added.nodes, Function.update_apply] at stored
        split at stored
        · cases stored
          exact absurd old (Nat.lt_irrefl _)
        · exact stored
  | unregister handle =>
      rw [changed.1.nodes, Function.update_apply] at stored
      split at stored
      · exact absurd stored.symm (Option.some_ne_none node)
      · exact stored

/-- A call leaves an entry where it is, unless it is the one that is unregistered, and no
entry behind it moves away from it. -/
theorem Changed.moves {visited ahead : List Notify} {current : Notify} {own : NotifyNode}
    (changed : heap.Changed after (visited ++ current :: ahead) listAfter call)
    (ownStored : heap.nodes current.address = some own)
    (kept : call ≠ .unregister current.address) :
    ∃ visitedAfter aheadAfter, listAfter = visitedAfter ++ current :: aheadAfter ∧
      after.nodes current.address = heap.nodes current.address ∧
      ∀ front entry rest, ahead = front ++ entry :: rest →
        (∃ node, after.nodes entry.address = some node) →
          ∃ frontAfter restAfter, aheadAfter = frontAfter ++ entry :: restAfter ∧
            frontAfter.length ≤ front.length := by
  cases call with
  | register =>
      rcases changed with ⟨rfl, rfl⟩ | ⟨new, stored, rfl⟩
      · exact ⟨visited, ahead, rfl, rfl, fun front entry rest split _ =>
          ⟨front, rest, split, Nat.le_refl _⟩⟩
      · refine ⟨visited, ahead ++ [new], by simp, ?_, ?_⟩
        · rw [stored.nodes, Function.update_of_ne]
          intro same
          rw [same, stored.fresh] at ownStored
          exact Option.some_ne_none own ownStored.symm
        · rintro front entry rest rfl -
          exact ⟨front, rest ++ [new], by simp, Nat.le_refl _⟩
  | unregister handle =>
      rcases changed with ⟨freed, rfl⟩
      have apart : current.address ≠ handle := by
        rintro rfl
        exact kept rfl
      refine ⟨visited.filter fun entry => entry.address ≠ handle,
        ahead.filter fun entry => entry.address ≠ handle, ?_,
        by rw [freed.nodes, Function.update_of_ne apart], ?_⟩
      · rw [List.filter_append, List.filter_cons_of_pos (by simpa using apart)]
      · rintro front entry rest rfl ⟨node, stored⟩
        have other : entry.address ≠ handle := by
          rintro rfl
          rw [freed.nodes, Function.update_self] at stored
          exact absurd stored.symm (Option.some_ne_none node)
        refine ⟨front.filter fun entry => entry.address ≠ handle,
          rest.filter fun entry => entry.address ≠ handle, ?_, List.length_filter_le _ front⟩
        rw [List.filter_append, List.filter_cons_of_pos (by simpa using other)]

end Call

/-! ## All calls of a callback -/

section Calls

variable {heap after : NotifyHeap} {notifyList : List Notify} {calls : List ListCall}

/-- The calls never read a node that is not there, and a node that was allocated before
them was stored at its address before. -/
theorem Represents.performAll (represents : heap.Represents notifyList)
    (calls : List ListCall) :
    ∃ after listAfter, heap.performAll calls = some after ∧ after.Represents listAfter ∧
      ∀ address node, after.nodes address = some node →
        node.allocation < heap.allocations → heap.nodes address = some node := by
  induction calls generalizing heap notifyList with
  | nil => exact ⟨heap, notifyList, rfl, represents, fun _ _ stored _ => stored⟩
  | cons call rest ih =>
      obtain ⟨middle, _, performed, middleRepresents, changed⟩ := represents.perform call
      obtain ⟨after, listAfter, all, afterRepresents, earlier⟩ := ih middleRepresents
      refine ⟨after, listAfter, ?_, afterRepresents, ?_⟩
      · rw [NotifyHeap.performAll, performed, Option.bind_some, all]
      · intro address node stored old
        have stillOld := Nat.lt_of_lt_of_le old changed.allocations_le
        exact changed.nodes_eq (earlier address node stored stillOld) old

theorem Represents.nodes_of_performAll (represents : heap.Represents notifyList)
    (performed : heap.performAll calls = some after) {address : U32} {node : NotifyNode}
    (stored : after.nodes address = some node) (old : node.allocation < heap.allocations) :
    heap.nodes address = some node := by
  obtain ⟨same, _, all, -, earlier⟩ := represents.performAll calls
  cases Option.some.inj (performed.symm.trans all)
  exact earlier address node stored old

/-- A node that is still in the list after a call and others is where it was. -/
theorem Represents.nodes_middle {middle : NotifyHeap} {listMiddle : List Notify}
    {call : ListCall} (represents : heap.Represents notifyList)
    (middleRepresents : middle.Represents listMiddle)
    (changed : heap.Changed middle notifyList listMiddle call)
    (performed : middle.performAll calls = some after) {address : U32} {node : NotifyNode}
    (stored : heap.nodes address = some node) (registered : after.Registered node) :
    middle.nodes address = some node := by
  have old := represents.numbered address node stored
  rcases registered with ⟨place, there⟩
  have between := middleRepresents.nodes_of_performAll performed there
    (Nat.lt_of_lt_of_le old changed.allocations_le)
  have before := changed.nodes_eq between old
  rw [represents.distinct address place node node stored before rfl]
  exact between

/-- A node whose own handle was unregistered does not come back. -/
theorem Represents.not_registered (represents : heap.Represents notifyList) {address : U32}
    {node : NotifyNode} (stored : heap.nodes address = some node)
    (own : .unregister address ∈ calls) (performed : heap.performAll calls = some after) :
    ¬ after.Registered node := by
  intro registered
  induction calls generalizing heap notifyList with
  | nil => exact absurd own List.not_mem_nil
  | cons call rest ih =>
      obtain ⟨middle, _, first, middleRepresents, changed⟩ := represents.perform call
      rw [NotifyHeap.performAll, first, Option.bind_some] at performed
      have kept := represents.nodes_middle middleRepresents changed performed stored registered
      rcases List.mem_cons.mp own with rfl | later
      · rw [changed.1.nodes, Function.update_self] at kept
        exact absurd kept.symm (Option.some_ne_none node)
      · exact ih middleRepresents kept later performed

/-- Of the entries ahead none that stays in the list moves away. -/
def Follows (heap after : NotifyHeap) (ahead aheadAfter : List Notify) : Prop :=
  ∀ front entry rest node, ahead = front ++ entry :: rest →
    heap.nodes entry.address = some node → after.Registered node →
      ∃ frontAfter restAfter, aheadAfter = frontAfter ++ entry :: restAfter ∧
        frontAfter.length ≤ front.length ∧ after.nodes entry.address = some node

/-- The entry at which the loop stands keeps its place between those behind and those
ahead, and of these none that stays in the list moves away. -/
theorem Represents.performAll_kept {visited ahead : List Notify} {current : Notify}
    (represents : heap.Represents (visited ++ current :: ahead))
    (kept : .unregister current.address ∉ calls) :
    ∃ after visitedAfter aheadAfter, heap.performAll calls = some after ∧
      after.Represents (visitedAfter ++ current :: aheadAfter) ∧
      after.listHead = heap.listHead ∧
      after.nodes current.address = heap.nodes current.address ∧
      heap.Follows after ahead aheadAfter := by
  induction calls generalizing heap visited ahead with
  | nil =>
      refine ⟨heap, visited, ahead, rfl, represents, rfl, rfl, ?_⟩
      exact fun front entry rest node split stored _ =>
        ⟨front, rest, split, Nat.le_refl _, stored⟩
  | cons call others ih =>
      rw [List.mem_cons, not_or] at kept
      obtain ⟨middle, list, performed, middleRepresents, changed⟩ := represents.perform call
      obtain ⟨own, ownStored, -⟩ := represents.node_of_mem current (by simp)
      obtain ⟨visitedMiddle, aheadMiddle, rfl, ownKept, aheadKept⟩ :=
        changed.moves ownStored (Ne.symm kept.1)
      obtain ⟨after, visitedAfter, aheadAfter, all, afterRepresents, head, ownAfter, follows⟩ :=
        ih middleRepresents kept.2
      refine ⟨after, visitedAfter, aheadAfter, ?_, afterRepresents, ?_, ?_, ?_⟩
      · rw [NotifyHeap.performAll, performed, Option.bind_some, all]
      · rw [head, changed.listHead]
      · rw [ownAfter, ownKept]
      · intro front entry rest node split stored registered
        have between := represents.nodes_middle middleRepresents changed all stored registered
        obtain ⟨frontMiddle, restMiddle, middleSplit, shorter⟩ :=
          aheadKept front entry rest split ⟨node, between⟩
        obtain ⟨frontAfter, restAfter, afterSplit, shorterAfter, afterStored⟩ :=
          follows frontMiddle entry restMiddle node middleSplit between registered
        exact ⟨frontAfter, restAfter, afterSplit, Nat.le_trans shorterAfter shorter, afterStored⟩

end Calls

end NotifyHeap

end HtcLeo.Keypad
