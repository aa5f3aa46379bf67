import HtcLeo.Keypad.Traversal

/-!
# Who is called

The position of the handler splits the list into the entries that it has passed and those
ahead of it.  One round at a time, an entry that has been in the list throughout was called
or is still ahead, as long as no function unregisters its own entry.
-/

namespace HtcLeo.Keypad

open Transition

/-! ## One round -/

/-- The loop stands at the first of the entries ahead.  A node that matches and has been in
the list throughout was called, or it is ahead and not farther than its place. -/
def Traversal.Proper (traversal : Traversal) : Prop :=
  ∃ visited ahead, traversal.heap.Represents (visited ++ ahead) ∧
    traversal.link = (ahead.map Notify.address).headD traversal.heap.listHead ∧
    ∀ node place, traversal.throughout node place →
      isKeyRegistered node.keyData traversal.keyData = true →
        node ∈ traversal.called ∨
          ∃ front entry rest, ahead = front ++ entry :: rest ∧
            front.length + traversal.passed ≤ place ∧
            traversal.heap.nodes entry.address = some node

section Round

variable {traversal : Traversal} {visited ahead : List Notify} {current : Notify}
  {calls : List ListCall}

theorem Traversal.start_proper {heap : NotifyHeap} {notifyList : List Notify}
    (represents : heap.Represents notifyList) (queue : EfiKeyQueue) (keyData : EfiKeyData) :
    (Traversal.start heap queue keyData).Proper := by
  refine ⟨notifyList, [], ?_, rfl, fun _ _ throughout => False.elim throughout⟩
  rw [List.append_nil]
  exact represents

/-- The functions are called with the entry of their node. -/
def Traversal.callsMade (traversal : Traversal) (node : NotifyNode) (calls : List ListCall) :
    List ListCall :=
  if isKeyRegistered node.keyData traversal.keyData then calls else []

theorem Traversal.visit_eq {node : NotifyNode}
    (stored : traversal.heap.nodes traversal.link = some node) (calls : List ListCall) :
    traversal.visit calls =
      (traversal.heap.performAll (traversal.callsMade node calls)).bind fun heap =>
        (heap.nodes traversal.link).bind fun current =>
          if current.allocation = node.allocation then
            (heap.links traversal.link).map fun entry =>
              traversal.pass node heap entry.forwardLink
          else none := by
  rw [visit, stored, Option.bind_some, callsMade]
  split <;> rfl

/-- A function that unregisters its own entry makes the loop read a freed node. -/
theorem Traversal.visit_eq_none {notifyList : List Notify}
    (represents : traversal.heap.Represents notifyList) {node : NotifyNode}
    (stored : traversal.heap.nodes traversal.link = some node)
    (registered : isKeyRegistered node.keyData traversal.keyData = true)
    (own : .unregister traversal.link ∈ calls) : traversal.visit calls = none := by
  obtain ⟨after, list, performed, afterRepresents, earlier⟩ := represents.performAll calls
  rw [visit_eq stored, callsMade, if_pos registered, performed, Option.bind_some]
  cases there : after.nodes traversal.link with
  | none => rfl
  | some other =>
      rw [Option.bind_some, if_neg]
      intro same
      have old := represents.numbered _ _ stored
      rw [← same] at old
      have before := earlier _ _ there old
      cases Option.some.inj (stored.symm.trans before)
      exact represents.not_registered stored own performed ⟨_, there⟩

/-- A round in which the entry keeps its place leads to the next one. -/
theorem Traversal.visit_kept (represents : traversal.heap.Represents (visited ++ current :: ahead))
    (at_ : traversal.link = current.address) {node : NotifyNode}
    (stored : traversal.heap.nodes traversal.link = some node)
    (kept : isKeyRegistered node.keyData traversal.keyData = true →
      .unregister traversal.link ∉ calls) :
    ∃ after visitedAfter aheadAfter, traversal.visit calls = some after ∧
      after.heap.Represents ((visitedAfter ++ [current]) ++ aheadAfter) ∧
      after.heap.listHead = traversal.heap.listHead ∧
      after.link = (aheadAfter.map Notify.address).headD traversal.heap.listHead ∧
      after.keyData = traversal.keyData ∧ after.passed = traversal.passed + 1 ∧
      after.called = (if isKeyRegistered node.keyData traversal.keyData then
        traversal.called ++ [node] else traversal.called) ∧
      (∀ other place, after.throughout other place →
        traversal.throughout other place ∧ after.heap.Registered other) ∧
      traversal.heap.Follows after.heap ahead aheadAfter := by
  have keptCalls : .unregister current.address ∉ traversal.callsMade node calls := by
    rw [callsMade, ← at_]
    split
    · rename_i registered
      exact kept registered
    · exact List.not_mem_nil
  obtain ⟨heap, visitedAfter, aheadAfter, performed, afterRepresents, head, own, follows⟩ :=
    represents.performAll_kept keptCalls
  have link := afterRepresents.circular
  rw [List.map_append, List.map_cons] at link
  obtain ⟨entry, present, forward⟩ := ListMemory.isSome_of_forward? link.forward
  have there : heap.nodes traversal.link = some node := by
    rw [at_, own, ← at_, stored]
  rw [← at_] at present
  refine ⟨traversal.pass node heap entry.forwardLink, visitedAfter, aheadAfter, ?_, ?_, ?_, ?_,
    rfl, rfl, rfl, ?_, follows⟩
  · rw [visit_eq stored, performed, Option.bind_some, there, Option.bind_some, if_pos rfl, present,
      Option.map_some]
  · rw [List.append_assoc, List.singleton_append]
    exact afterRepresents
  · exact head
  · rw [← head]
    exact forward
  · exact fun other place throughout => throughout

/-- Where the loop stands when it is not at the head. -/
theorem Traversal.exists_current (represents : traversal.heap.Represents (visited ++ ahead))
    (at_ : traversal.link = (ahead.map Notify.address).headD traversal.heap.listHead)
    (inside : traversal.link ≠ traversal.heap.listHead) :
    ∃ current rest node, ahead = current :: rest ∧ traversal.link = current.address ∧
      traversal.heap.nodes traversal.link = some node := by
  cases ahead with
  | nil => exact absurd at_ inside
  | cons current rest =>
      obtain ⟨node, stored, -⟩ := represents.node_of_mem current (by simp)
      exact ⟨current, rest, node, rfl, at_, by rw [at_]; exact stored⟩

theorem Traversal.Proper.visit (proper : traversal.Proper)
    (inside : traversal.link ≠ traversal.heap.listHead)
    (kept : ∀ node, traversal.heap.nodes traversal.link = some node →
      isKeyRegistered node.keyData traversal.keyData = true →
        .unregister traversal.link ∉ calls) :
    ∃ after, traversal.visit calls = some after ∧ after.Proper := by
  rcases proper with ⟨visited, ahead, represents, at_, due⟩
  obtain ⟨current, rest, node, rfl, here, stored⟩ := Traversal.exists_current represents at_ inside
  rcases Traversal.visit_kept represents here stored (kept node stored) with
    ⟨after, visitedAfter, aheadAfter, visited_eq, afterRepresents, head, link, keyData, passed,
      called, throughout, follows⟩
  refine ⟨after, visited_eq, _, aheadAfter, afterRepresents, by rw [link, head], ?_⟩
  intro other place lasting registered
  rw [keyData] at registered
  obtain ⟨before, still⟩ := throughout other place lasting
  rw [called, passed]
  rcases due other place before registered with made | ⟨front, entry, behind, split, near, there⟩
  · left
    split
    · exact List.mem_append_left _ made
    · exact made
  · cases front with
    | nil =>
        -- The node is the one at which the loop stands.
        left
        cases split
        rw [here, there] at stored
        cases stored
        rw [if_pos registered]
        exact List.mem_append_right _ (List.mem_singleton.mpr rfl)
    | cons first others =>
        right
        cases split
        obtain ⟨frontAfter, restAfter, splitAfter, shorter, afterStored⟩ :=
          follows others entry behind other rfl there still
        rw [List.length_cons] at near
        exact ⟨frontAfter, entry, restAfter, splitAfter, by omega, afterStored⟩

theorem Traversal.Proper.next (proper : traversal.Proper) {after : Traversal}
    (next : traversal.next = some after) : after.Proper := by
  rcases proper with ⟨visited, ahead, represents, -, -⟩
  obtain ⟨popped, -, first⟩ := Option.bind_eq_some_iff.mp next
  obtain ⟨head, present, rfl⟩ := Option.map_eq_some_iff.mp first
  refine ⟨[], visited ++ ahead, represents, ?_, ?_⟩
  · have forward := represents.circular.forward_head
    rw [ListMemory.forward?, present] at forward
    exact Option.some.inj forward
  · rintro node place ⟨before, address, behind, circular, rfl, stored⟩ -
    right
    have split := circular.unique represents.circular
    obtain ⟨front, others, list_eq, front_eq, others_eq⟩ := List.map_eq_append_iff.mp split.symm
    obtain ⟨entry, rest, rfl, rfl, -⟩ := List.map_eq_cons_iff.mp others_eq
    refine ⟨front, entry, rest, list_eq, ?_, stored⟩
    rw [← front_eq, List.length_map]
    exact Nat.le_refl _

/-- What was passed has been called. -/
theorem Traversal.Proper.called (proper : traversal.Proper) {node : NotifyNode} {place : Nat}
    (throughout : traversal.throughout node place)
    (registered : isKeyRegistered node.keyData traversal.keyData = true)
    (finished : traversal.link = traversal.heap.listHead ∨ place < traversal.passed) :
    node ∈ traversal.called := by
  rcases proper with ⟨visited, ahead, represents, at_, due⟩
  rcases due node place throughout registered with
    made | ⟨front, entry, rest, rfl, near, stored⟩
  · exact made
  · exfalso
    rcases finished with ended | passed
    · have outside : ∀ other ∈ front ++ entry :: rest, other.address ≠ traversal.heap.listHead :=
        fun other member => represents.address_ne_head (List.mem_append_right _ member)
      rw [ended] at at_
      cases front with
      | nil => exact outside entry (by simp) at_.symm
      | cons first others => exact outside first (by simp) at_.symm
    · omega

theorem Traversal.Proper.serves_iff (proper : traversal.Proper) {round : Round}
    {after : Traversal} (handles : Handles traversal round after) :
    Serves ⟨traversal, round, after⟩ ↔ KeepsOwn ⟨traversal, round, after⟩ := by
  cases round with
  | next =>
      have afterProper := proper.next handles.2
      constructor
      · rintro - calls node ⟨⟩
      · rintro -
        exact ⟨fun calls label => Round.noConfusion label,
          fun node place throughout registered => afterProper.called throughout registered⟩
  | visit calls =>
      rcases handles with ⟨inside, result⟩
      constructor
      · rintro serves _ node ⟨⟩ stored registered own
        rcases proper with ⟨visited, ahead, represents, -, -⟩
        exact serves.1 calls rfl (Traversal.visit_eq_none represents stored registered own)
      · intro keeps
        obtain ⟨visited, visited_eq, visitedProper⟩ :=
          proper.visit inside fun node stored registered => keeps calls node rfl stored registered
        rw [result visited visited_eq]
        constructor
        · rintro _ ⟨⟩ none
          exact Option.some_ne_none visited (visited_eq.symm.trans none)
        · exact fun node place throughout registered =>
            visitedProper.called throughout registered

theorem Traversal.Proper.handles (proper : traversal.Proper) {round : Round}
    {after : Traversal} (handles : Handles traversal round after)
    (keeps : KeepsOwn ⟨traversal, round, after⟩) : after.Proper := by
  cases round with
  | next => exact proper.next handles.2
  | visit calls =>
      obtain ⟨visited, visited_eq, visitedProper⟩ :=
        proper.visit handles.1 fun node stored registered => keeps calls node rfl stored registered
      rw [handles.2 visited visited_eq]
      exact visitedProper

/-! ## Functions that leave the list alone -/

/-- Go on for a number of entries without a call. -/
def Traversal.walk : Nat → Traversal → Option Traversal
  | 0, traversal => some traversal
  | rounds + 1, traversal => (traversal.visit []).bind (walk rounds)

/-- The loop then calls, in order, the functions that the list names. -/
theorem Traversal.walk_called (represents : traversal.heap.Represents (visited ++ ahead))
    (at_ : traversal.link = (ahead.map Notify.address).headD traversal.heap.listHead) :
    ∃ after, traversal.walk ahead.length = some after ∧
      after.link = traversal.heap.listHead ∧
      after.called.map (fun node => (⟨node.keyNotificationFn, traversal.keyData⟩ : Call)) =
        traversal.called.map (fun node => ⟨node.keyNotificationFn, traversal.keyData⟩) ++
          notifyCalls ahead traversal.keyData := by
  induction ahead generalizing traversal visited with
  | nil =>
      refine ⟨traversal, rfl, at_, ?_⟩
      rw [notifyCalls, matching, List.filter_nil, List.map_nil, List.append_nil]
  | cons current rest ih =>
      obtain ⟨node, stored, entry_eq⟩ := represents.node_of_mem current (by simp)
      have here : traversal.link = current.address := at_
      have silent : traversal.callsMade node [] = [] := by
        unfold callsMade
        split <;> rfl
      have link := represents.circular
      rw [List.map_append, List.map_cons] at link
      obtain ⟨entry, present, forward⟩ := ListMemory.isSome_of_forward? link.forward
      rw [← here] at stored present
      let after := traversal.pass node traversal.heap entry.forwardLink
      have visit_eq : traversal.visit [] = some after := by
        rw [Traversal.visit_eq stored, silent, NotifyHeap.performAll, Option.bind_some, stored,
          Option.bind_some, if_pos rfl, present, Option.map_some]
      have onward : after.heap.Represents ((visited ++ [current]) ++ rest) := by
        rw [List.append_assoc, List.singleton_append]
        exact represents
      obtain ⟨last, walked, ended, called⟩ := ih onward forward
      refine ⟨last, by rw [List.length_cons, walk, visit_eq, Option.bind_some, walked], ended, ?_⟩
      rw [← entry_eq] at here ⊢
      refine called.trans ?_
      simp only [after, pass, notifyCalls, matching, List.filter_cons, NotifyNode.entry]
      split <;> simp

end Round

/-! ## Runs -/

/-- In every run of the handler over any list, no freed node is read and every entry that
matches and stays is called, exactly when no function that is called unregisters the
entry that it is called for. -/
theorem listeners_served_iff {heap : NotifyHeap} {notifyList : List Notify}
    (represents : heap.Represents notifyList) {queue : EfiKeyQueue} {keyData : EfiKeyData}
    {steps : List (Step Traversal Round)}
    (run : Run Handles (.start heap queue keyData) steps) :
    (∀ step ∈ steps, Serves step) ↔ ∀ step ∈ steps, KeepsOwn step := by
  apply run.forall_iff (I := Traversal.Proper)
  · exact Traversal.start_proper represents queue keyData
  · exact fun before round after proper handles => proper.serves_iff handles
  · exact fun before round after proper handles serves =>
      proper.handles handles ((proper.serves_iff handles).mp serves)

/-! ## A callback that removes another entry, and one that removes its own -/

/-- A list without entries. -/
def emptyHeap : NotifyHeap where
  listHead := 0x1000
  links := Function.update (fun _ => none) 0x1000 (some ⟨0x1000, 0x1000⟩)
  nodes := fun _ => none
  allocations := 0

theorem emptyHeap_represents : emptyHeap.Represents [] := by
  apply NotifyHeap.represents_nil
  · simp [emptyHeap]
  · intro address apart
    simp only [emptyHeap] at apart ⊢
    rw [Function.update_of_ne apart]
  · exact fun _ => rfl

/-- The list after a number of calls. -/
def heapAfter (calls : List ListCall) : NotifyHeap :=
  (emptyHeap.performAll calls).getD emptyHeap

theorem heapAfter_represents (calls : List ListCall) :
    ∃ notifyList, (heapAfter calls).Represents notifyList := by
  obtain ⟨after, notifyList, performed, represents, -⟩ := emptyHeap_represents.performAll calls
  rw [heapAfter, performed]
  exact ⟨notifyList, represents⟩

/-- A round, or nothing if the round is not possible. -/
def Traversal.perform (traversal : Traversal) : Round → Traversal
  | .next => traversal.next.getD traversal
  | .visit calls => (traversal.visit calls).getD traversal

theorem handles_next {traversal : Traversal} (back : traversal.link = traversal.heap.listHead)
    (waiting : traversal.next.isSome) : Handles traversal .next (traversal.perform .next) := by
  refine ⟨back, ?_⟩
  obtain ⟨after, next⟩ := Option.isSome_iff_exists.mp waiting
  rw [Traversal.perform, next, Option.getD_some]

theorem handles_visit {traversal : Traversal} (inside : traversal.link ≠ traversal.heap.listHead)
    (calls : List ListCall) :
    Handles traversal (.visit calls) (traversal.perform (.visit calls)) := by
  refine ⟨inside, fun visited visit => ?_⟩
  rw [Traversal.perform, visit, Option.getD_some]

/-- Listen for the Enter key. -/
def listenAt (fn address : U32) : ListCall := .register (some enterKey) fn true address

/-- The Enter key was pressed, and the given functions listen for it. -/
def entered (calls : List ListCall) : Traversal :=
  .start (heapAfter calls) (pushEfikeyBufTail emptyQueue enterKey) enterKey

/-- The first of three functions unregisters the second one. -/
def otherRemoved : List (Step Traversal Round) :=
  trace Traversal.perform (entered [listenAt 1 0x20, listenAt 2 0x40, listenAt 3 0x60])
    [.next, .visit [.unregister 0x40], .visit []]

/-- A function unregisters itself. -/
def ownRemoved : List (Step Traversal Round) :=
  trace Traversal.perform (entered [listenAt 1 0x20]) [.next, .visit [.unregister 0x20]]

theorem listeners_served_other :
    Run Handles (entered [listenAt 1 0x20, listenAt 2 0x40, listenAt 3 0x60]) otherRemoved ∧
      ∀ step ∈ otherRemoved, Serves step := by
  have run : Run Handles (entered [listenAt 1 0x20, listenAt 2 0x40, listenAt 3 0x60])
      otherRemoved := by
    apply run_trace
    simp only [trace, List.forall_mem_cons]
    refine ⟨handles_next (by decide +kernel) (by decide +kernel),
      handles_visit (by decide +kernel) _, handles_visit (by decide +kernel) _, by simp⟩
  obtain ⟨notifyList, represents⟩ :=
    heapAfter_represents [listenAt 1 0x20, listenAt 2 0x40, listenAt 3 0x60]
  refine ⟨run, (listeners_served_iff represents run).mpr ?_⟩
  simp only [otherRemoved, trace, List.forall_mem_cons]
  refine ⟨fun _ _ label => Round.noConfusion label, ?_, ?_, by simp⟩
  · rintro _ node ⟨⟩ - -
    decide +kernel
  · rintro _ node ⟨⟩ - -
    exact List.not_mem_nil

/-- The loop takes the next link from the freed node. -/
theorem own_entry_freed :
    Run Handles (entered [listenAt 1 0x20]) ownRemoved ∧ ∃ step ∈ ownRemoved, ¬ Serves step := by
  constructor
  · apply run_trace
    simp only [trace, List.forall_mem_cons]
    exact ⟨handles_next (by decide +kernel) (by decide +kernel),
      handles_visit (by decide +kernel) _, by simp⟩
  · refine ⟨_, .tail _ (.head _), fun serves => serves.1 _ rfl ?_⟩
    apply Option.isNone_iff_eq_none.mp
    decide +kernel

end HtcLeo.Keypad
