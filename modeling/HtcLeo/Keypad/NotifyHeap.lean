import Mathlib.Data.List.Find
import Mathlib.Data.List.Nodup
import HtcLeo.Heap.ListEntry
import HtcLeo.Keypad.Core

/-!
# The notify list in memory

The entries of the notify list are nodes of the pool, linked through their list entries.
Registering allocates a node and unregistering frees it, so that a node may later be
stored where another one was; the number of its allocation tells the two apart.  The
functions of the driver do on the nodes what their namesakes do on the list.
-/

namespace HtcLeo.Keypad

/-! ## Nodes -/

/-- `KEYPAD_CONSOLE_IN_EX_NOTIFY`, with the number of its allocation. -/
structure NotifyNode where
  allocation : Nat
  keyData : EfiKeyData
  keyNotificationFn : U32
  deriving DecidableEq, Repr

/-- The entry that a node is when it is stored at an address. -/
def NotifyNode.entry (node : NotifyNode) (address : U32) : Notify :=
  ⟨address, node.keyData, node.keyNotificationFn⟩

/-- The head of the list is at `listHead`; `allocations` counts the nodes allocated so
far. -/
structure NotifyHeap where
  listHead : U32
  links : ListMemory U32
  nodes : U32 → Option NotifyNode
  allocations : Nat

namespace NotifyHeap

/-! ## The pool -/

/-- `AllocateZeroPool` returns memory that is not in use, or a null pointer. -/
def allocateZeroPool (heap : NotifyHeap) (candidate : U32) : U32 :=
  if heap.links candidate = none then candidate else 0

/-- The node is stored in memory that was allocated for it. -/
def store (heap : NotifyHeap) (address : U32) (keyData : EfiKeyData)
    (keyNotificationFn : U32) : NotifyHeap :=
  { heap with
    links := Function.update heap.links address (some ⟨0, 0⟩)
    nodes := Function.update heap.nodes address
      (some ⟨heap.allocations, keyData, keyNotificationFn⟩)
    allocations := heap.allocations + 1 }

/-- `FreePool` of a list entry. -/
def freePool (heap : NotifyHeap) (address : U32) : NotifyHeap :=
  { heap with
    links := Function.update heap.links address none
    nodes := Function.update heap.nodes address none }

/-! ## The functions of the driver -/

/-- The loops over the list; a list has no more nodes than were ever allocated. -/
def search (heap : NotifyHeap) (hit : Notify → Bool) : Option (Option U32) :=
  (heap.links heap.listHead).bind fun head =>
    heap.links.search heap.listHead
      (fun link => (heap.nodes link).map fun node => hit (node.entry link))
      (heap.allocations + 1) head.forwardLink

/-- No result is the access to a node that is not there. -/
def keypadRegisterKeyNotify (heap : NotifyHeap) (keyData : Option EfiKeyData)
    (keyNotificationFunction : U32) (notifyHandle : Bool) (candidate : U32) :
    Option (EfiStatus × Option U32 × NotifyHeap) :=
  match keyData with
  | none => some (.invalidParameter, none, heap)
  | some keyData =>
    if notifyHandle = false ∨ keyNotificationFunction = 0 then
      some (.invalidParameter, none, heap)
    else
      (heap.search fun currentNotify => isKeyRegistered currentNotify.keyData keyData &&
          currentNotify.keyNotificationFn == keyNotificationFunction).bind fun found =>
        match found with
        | some address => some (.success, some address, heap)
        | none =>
          let allocated := heap.allocateZeroPool candidate
          if allocated = 0 then some (.outOfResources, none, heap)
          else
            let stored := heap.store allocated keyData keyNotificationFunction
            (stored.links.insertTailList heap.listHead allocated).map fun links =>
              (.success, some allocated, { stored with links := links })

/-- `KeypadUnregisterKeyNotify` on the heap. -/
def keypadUnregisterKeyNotify (heap : NotifyHeap) (notificationHandle : U32) :
    Option (EfiStatus × NotifyHeap) :=
  if notificationHandle = 0 then some (.invalidParameter, heap)
  else
    (heap.search fun currentNotify => currentNotify.address == notificationHandle).bind
      fun found =>
        match found with
        | none => some (.invalidParameter, heap)
        | some address =>
          (heap.links.removeEntryList address).map fun links =>
            (.success, { heap with links := links }.freePool address)

/-- The loop of `KbdFreeNotifyList`, for at most `fuel` nodes. -/
def freeNodes (listHead : U32) : Nat → NotifyHeap → Option NotifyHeap
  | 0, _ => none
  | fuel + 1, heap =>
      (heap.links listHead).bind fun head =>
        if head.forwardLink = listHead then some heap
        else
          (heap.links.removeEntryList head.forwardLink).bind fun links =>
            freeNodes listHead fuel ({ heap with links := links }.freePool head.forwardLink)

/-- `KbdFreeNotifyList`. -/
def kbdFreeNotifyList (heap : NotifyHeap) (listHead : U32) : Option (EfiStatus × NotifyHeap) :=
  if listHead = 0 then some (.invalidParameter, heap)
  else (freeNodes listHead (heap.allocations + 1) heap).map fun freed => (.success, freed)

/-! ## The list that the nodes are -/

/-- The nodes are those of the list, in its order; nothing else is in use, and no two
nodes are of one allocation. -/
structure Represents (heap : NotifyHeap) (notifyList : List Notify) : Prop where
  circular : heap.links.Circular heap.listHead (notifyList.map Notify.address)
  node_of_mem : ∀ entry ∈ notifyList,
    ∃ node, heap.nodes entry.address = some node ∧ node.entry entry.address = entry
  mem_of_node : ∀ address node, heap.nodes address = some node → node.entry address ∈ notifyList
  unused : ∀ address, address ∉ heap.listHead :: notifyList.map Notify.address →
    heap.links address = none
  nonzero : ∀ entry ∈ notifyList, entry.address ≠ 0
  numbered : ∀ address node, heap.nodes address = some node →
    node.allocation < heap.allocations
  distinct : ∀ one two oneNode twoNode, heap.nodes one = some oneNode →
    heap.nodes two = some twoNode → oneNode.allocation = twoNode.allocation → one = two
  length_le : notifyList.length ≤ heap.allocations

section Represents

variable {heap : NotifyHeap} {notifyList : List Notify}

/-- A head that leads to itself, alone in memory, is the empty list. -/
theorem represents_nil (head : heap.links heap.listHead = some ⟨heap.listHead, heap.listHead⟩)
    (others : ∀ address, address ≠ heap.listHead → heap.links address = none)
    (nodeless : ∀ address, heap.nodes address = none) : heap.Represents [] := by
  have absurd_node {P : Prop} (address : U32) (node : NotifyNode)
      (stored : heap.nodes address = some node) : P := by
    rw [nodeless] at stored
    exact absurd stored.symm (Option.some_ne_none node)
  constructor
  · exact ListMemory.circular_nil head
  · exact fun entry member => absurd member List.not_mem_nil
  · exact fun address node stored => absurd_node address node stored
  · exact fun address absent => others address fun same =>
      absent (List.mem_singleton.mpr same)
  · exact fun entry member => absurd member List.not_mem_nil
  · exact fun address node stored => absurd_node address node stored
  · exact fun one _ node _ stored => absurd_node one node stored
  · exact Nat.zero_le _

/-- Of an empty list only the head is in memory. -/
theorem Represents.of_nil (represents : heap.Represents []) :
    (∀ address, heap.nodes address = none) ∧
      ∀ address, address ≠ heap.listHead → heap.links address = none := by
  constructor
  · intro address
    cases stored : heap.nodes address with
    | none => rfl
    | some node => exact absurd (represents.mem_of_node address node stored) List.not_mem_nil
  · exact fun address apart => represents.unused address fun member =>
      apart (List.mem_singleton.mp member)

theorem Represents.search_eq (represents : heap.Represents notifyList) (hit : Notify → Bool) :
    heap.search hit = some ((notifyList.find? hit).map Notify.address) := by
  obtain ⟨head, present, forward⟩ := ListMemory.isSome_of_forward? represents.circular.forward_head
  have hits : ∀ address ∈ notifyList.map Notify.address,
      ((heap.nodes address).map fun node => hit (node.entry address)) =
        some (((heap.nodes address).map fun node => hit (node.entry address)).getD false) := by
    intro address member
    obtain ⟨entry, entryMember, rfl⟩ := List.mem_map.mp member
    obtain ⟨node, stored, -⟩ := represents.node_of_mem entry entryMember
    rw [stored]
    rfl
  have enough : (notifyList.map Notify.address).length < heap.allocations + 1 := by
    rw [List.length_map]
    exact Nat.lt_succ_of_le represents.length_le
  rw [search, present, Option.bind_some, forward,
    ListMemory.Circular.search_eq [] represents.circular hits enough,
    List.find?_map]
  congr 2
  apply List.find?_congr
  intro entry member
  obtain ⟨node, stored, same⟩ := represents.node_of_mem entry member
  simp only [Function.comp_apply, stored, Option.map_some, Option.getD_some, same]

theorem Represents.address_ne_head (represents : heap.Represents notifyList) {entry : Notify}
    (member : entry ∈ notifyList) : entry.address ≠ heap.listHead := by
  intro same
  apply (List.nodup_cons.mp represents.circular.nodup).1
  rw [← same]
  exact List.mem_map_of_mem member

/-- Memory that is not in use holds no node. -/
theorem Represents.node_eq_none (represents : heap.Represents notifyList) {address : U32}
    (free : heap.links address = none) : heap.nodes address = none := by
  cases stored : heap.nodes address with
  | none => rfl
  | some node =>
      have member := represents.mem_of_node address node stored
      have inUse := represents.circular.inUse
        (List.mem_cons_of_mem _ (List.mem_map_of_mem (f := Notify.address) member))
      simp [NotifyNode.entry, free] at inUse

/-- A node of the heap after one more was stored is that one, or an old one elsewhere. -/
theorem nodes_store {address other : U32} {keyData : EfiKeyData} {keyNotificationFn : U32}
    {node : NotifyNode}
    (stored : (heap.store address keyData keyNotificationFn).nodes other = some node) :
    (other = address ∧ node = ⟨heap.allocations, keyData, keyNotificationFn⟩) ∨
      (other ≠ address ∧ heap.nodes other = some node) := by
  simp only [NotifyHeap.store, Function.update_apply] at stored
  split at stored
  · exact .inl ⟨‹_›, (Option.some.inj stored).symm⟩
  · exact .inr ⟨‹_›, stored⟩

/-- A node that is left when one was freed is elsewhere. -/
theorem nodes_freePool {address other : U32} {node : NotifyNode}
    (stored : (heap.freePool address).nodes other = some node) :
    other ≠ address ∧ heap.nodes other = some node := by
  simp only [freePool, Function.update_apply] at stored
  split at stored
  · exact absurd stored.symm (Option.some_ne_none node)
  · exact ⟨‹_›, stored⟩

/-- What is not in use stays so when the same places are in use. -/
theorem eq_none_of_inUse {links : ListMemory U32} {address : U32}
    (inUse : (links address).isSome = (heap.links address).isSome)
    (unused : heap.links address = none) : links address = none := by
  rw [unused] at inUse
  exact Option.not_isSome_iff_eq_none.mp (by simp [inUse])

/-- A node that is stored becomes the last one. -/
theorem Represents.store (represents : heap.Represents notifyList) {address : U32}
    (free : heap.links address = none) (nonzero : address ≠ 0) (keyData : EfiKeyData)
    (keyNotificationFn : U32) :
    ∃ links, (heap.store address keyData keyNotificationFn).links.insertTailList heap.listHead
        address = some links ∧
      ({ heap.store address keyData keyNotificationFn with links := links } :
        NotifyHeap).Represents (notifyList ++ [⟨address, keyData, keyNotificationFn⟩]) := by
  have fresh : address ∉ heap.listHead :: notifyList.map Notify.address := by
    intro member
    have inUse := represents.circular.inUse member
    rw [free] at inUse
    exact Bool.false_ne_true inUse
  have circular := represents.circular.free fresh (some ⟨0, 0⟩)
  obtain ⟨links, inserted, after, inUse⟩ := circular.insertTailList fresh (by simp)
  refine ⟨links, inserted, ?_⟩
  constructor
  case circular =>
    rw [List.map_append]
    exact after
  case node_of_mem =>
    intro entry member
    simp only [NotifyHeap.store]
    rcases List.mem_append.mp member with old | new
    · have apart : entry.address ≠ address := by
        rintro rfl
        exact fresh (List.mem_cons_of_mem _ (List.mem_map_of_mem old))
      rw [Function.update_of_ne apart]
      exact represents.node_of_mem entry old
    · rw [List.mem_singleton.mp new, Function.update_self]
      exact ⟨_, rfl, rfl⟩
  case mem_of_node =>
    intro other node stored
    rcases nodes_store stored with ⟨rfl, rfl⟩ | ⟨-, old⟩
    · exact List.mem_append_right _ List.mem_cons_self
    · exact List.mem_append_left _ (represents.mem_of_node other node old)
  case unused =>
    intro other absent
    rw [List.map_append, ← List.cons_append, List.mem_append, not_or] at absent
    have apart : other ≠ address := by
      rintro rfl
      exact absent.2 (List.mem_singleton.mpr rfl)
    have same := inUse other
    rw [Function.update_of_ne apart] at same
    exact eq_none_of_inUse same (represents.unused other absent.1)
  case nonzero =>
    intro entry member
    rcases List.mem_append.mp member with old | new
    · exact represents.nonzero entry old
    · rw [List.mem_singleton.mp new]
      exact nonzero
  case numbered =>
    intro other node stored
    rcases nodes_store stored with ⟨rfl, rfl⟩ | ⟨-, old⟩
    · exact Nat.lt_succ_self _
    · exact Nat.lt_succ_of_lt (represents.numbered other node old)
  case distinct =>
    intro one two oneNode twoNode oneStored twoStored same
    rcases nodes_store oneStored with ⟨oneNew, rfl⟩ | ⟨-, oneOld⟩ <;>
      rcases nodes_store twoStored with ⟨twoNew, rfl⟩ | ⟨-, twoOld⟩
    · rw [oneNew, twoNew]
    · exact absurd same (Nat.ne_of_gt (represents.numbered two twoNode twoOld))
    · exact absurd same (Nat.ne_of_lt (represents.numbered one oneNode oneOld))
    · exact represents.distinct one two oneNode twoNode oneOld twoOld same
  case length_le =>
    rw [List.length_append, List.length_singleton]
    exact Nat.succ_le_succ represents.length_le

/-- A node that is removed and freed is no longer in the list, the others are. -/
theorem Represents.remove {before after : List Notify} {entry : Notify}
    (represents : heap.Represents (before ++ entry :: after)) :
    ∃ links, heap.links.removeEntryList entry.address = some links ∧
      ({ heap with links := links }.freePool entry.address).Represents (before ++ after) := by
  have circular := represents.circular
  have nodup := circular.nodup
  rw [List.map_append, List.map_cons] at circular nodup
  obtain ⟨links, removed, joined, inUse⟩ := circular.removeEntryList
  have absent : entry.address ∉
      heap.listHead :: (before.map Notify.address ++ after.map Notify.address) := by
    rw [← List.cons_append] at nodup ⊢
    exact (List.nodup_middle.mp nodup).notMem
  have others : ∀ other ∈ before ++ after, other.address ≠ entry.address := by
    intro other member same
    apply absent
    rw [← List.map_append, ← same]
    exact List.mem_cons_of_mem _ (List.mem_map_of_mem member)
  have old : ∀ other ∈ before ++ after, other ∈ before ++ entry :: after := by
    intro other member
    rw [List.mem_append] at member ⊢
    exact member.imp_right (List.mem_cons_of_mem _)
  refine ⟨links, removed, ?_⟩
  constructor
  case circular =>
    rw [List.map_append]
    exact joined.free absent none
  case node_of_mem =>
    intro other member
    simp only [freePool]
    rw [Function.update_of_ne (others other member)]
    exact represents.node_of_mem other (old other member)
  case mem_of_node =>
    intro address node stored
    obtain ⟨apart, left⟩ := nodes_freePool stored
    have member := represents.mem_of_node address node left
    rw [List.mem_append, List.mem_cons] at member
    rw [List.mem_append]
    rcases member with member | rfl | member
    · exact .inl member
    · exact absurd rfl apart
    · exact .inr member
  case unused =>
    intro address missing
    simp only [freePool, Function.update_apply]
    split
    · rfl
    · rename_i apart
      apply eq_none_of_inUse (inUse address)
      apply represents.unused
      intro member
      apply missing
      rw [List.map_append, List.map_cons, List.mem_cons, List.mem_append, List.mem_cons] at member
      rw [List.map_append, List.mem_cons, List.mem_append]
      exact member.imp_right (Or.imp_right fun found => found.resolve_left apart)
  case nonzero => exact fun other member => represents.nonzero other (old other member)
  case numbered =>
    intro address node stored
    exact represents.numbered address node (nodes_freePool stored).2
  case distinct =>
    intro one two oneNode twoNode oneStored twoStored
    exact represents.distinct one two oneNode twoNode (nodes_freePool oneStored).2
      (nodes_freePool twoStored).2
  case length_le =>
    have shorter : (before ++ after).length ≤ (before ++ entry :: after).length := by simp
    exact Nat.le_trans shorter represents.length_le

/-- Node after node is freed, until the list is empty. -/
theorem Represents.freeNodes (represents : heap.Represents notifyList) {fuel : Nat}
    (enough : notifyList.length < fuel) :
    ∃ after, NotifyHeap.freeNodes heap.listHead fuel heap = some after ∧ after.Represents [] ∧
      after.listHead = heap.listHead := by
  induction notifyList generalizing heap fuel with
  | nil =>
      cases fuel with
      | zero => exact absurd enough (Nat.not_lt_zero _)
      | succ fuel =>
          obtain ⟨head, present, back⟩ :=
            ListMemory.isSome_of_forward? represents.circular.forward_head
          change head.forwardLink = heap.listHead at back
          refine ⟨heap, ?_, represents, rfl⟩
          rw [NotifyHeap.freeNodes, present, Option.bind_some, if_pos back]
  | cons entry rest ih =>
      cases fuel with
      | zero => exact absurd enough (Nat.not_lt_zero _)
      | succ fuel =>
          obtain ⟨head, present, first⟩ :=
            ListMemory.isSome_of_forward? represents.circular.forward_head
          change head.forwardLink = entry.address at first
          have apart := represents.address_ne_head List.mem_cons_self
          have whole : heap.Represents ([] ++ entry :: rest) := represents
          obtain ⟨links, removed, left⟩ := whole.remove
          obtain ⟨after, freed, empty, same⟩ := ih left (Nat.lt_of_succ_lt_succ enough)
          refine ⟨after, ?_, empty, same⟩
          rw [NotifyHeap.freeNodes, present, Option.bind_some, first, if_neg apart, removed,
            Option.bind_some]
          exact freed

theorem Represents.kbdFreeNotifyList (represents : heap.Represents notifyList)
    (nonzero : heap.listHead ≠ 0) :
    ∃ after, heap.kbdFreeNotifyList heap.listHead = some (.success, after) ∧
      after.Represents [] ∧ after.listHead = heap.listHead := by
  obtain ⟨after, freed, empty, same⟩ :=
    represents.freeNodes (Nat.lt_succ_of_le represents.length_le)
  refine ⟨after, ?_, empty, same⟩
  rw [NotifyHeap.kbdFreeNotifyList, if_neg nonzero, freed, Option.map_some]

/-! ## The functions on nodes and on the list -/

/-- One more node, at an address that held none. -/
structure Stored (heap after : NotifyHeap) (entry : Notify) : Prop where
  fresh : heap.nodes entry.address = none
  nodes : after.nodes = Function.update heap.nodes entry.address
    (some ⟨heap.allocations, entry.keyData, entry.keyNotificationFn⟩)
  listHead : after.listHead = heap.listHead
  allocations : after.allocations = heap.allocations + 1

/-- One node less. -/
structure Freed (heap after : NotifyHeap) (address : U32) : Prop where
  nodes : after.nodes = Function.update heap.nodes address none
  listHead : after.listHead = heap.listHead
  allocations : after.allocations = heap.allocations

/-- Registering on the nodes is registering on the list. -/
theorem Represents.register {consoleIn : ConsoleIn}
    (represents : heap.Represents consoleIn.notifyList) (keyData : Option EfiKeyData)
    (fn : U32) (notifyHandle : Bool) (candidate : U32) :
    ∃ status handle after consoleAfter,
      heap.keypadRegisterKeyNotify keyData fn notifyHandle candidate =
        some (status, handle, after) ∧
      Keypad.keypadRegisterKeyNotify consoleIn keyData fn notifyHandle
        (heap.allocateZeroPool candidate) = (status, handle, consoleAfter) ∧
      after.Represents consoleAfter.notifyList ∧
      (after = heap ∧ consoleAfter.notifyList = consoleIn.notifyList ∨
        ∃ entry, heap.Stored after entry ∧
          consoleAfter.notifyList = consoleIn.notifyList ++ [entry]) := by
  unfold NotifyHeap.keypadRegisterKeyNotify Keypad.keypadRegisterKeyNotify
  cases keyData with
  | none => exact ⟨_, _, _, _, rfl, rfl, represents, .inl ⟨rfl, rfl⟩⟩
  | some keyData =>
      by_cases invalid : notifyHandle = false ∨ fn = 0
      · simp only [if_pos invalid]
        exact ⟨_, _, _, _, rfl, rfl, represents, .inl ⟨rfl, rfl⟩⟩
      · simp only [if_neg invalid, represents.search_eq, Option.bind_some]
        cases found : consoleIn.notifyList.find? fun currentNotify =>
            isKeyRegistered currentNotify.keyData keyData &&
              currentNotify.keyNotificationFn == fn with
        | some currentNotify =>
            exact ⟨_, _, _, _, rfl, rfl, represents, .inl ⟨rfl, rfl⟩⟩
        | none =>
            simp only [Option.map_none]
            by_cases exhausted : heap.allocateZeroPool candidate = 0
            · simp only [if_pos exhausted]
              exact ⟨_, _, _, _, rfl, rfl, represents, .inl ⟨rfl, rfl⟩⟩
            · simp only [if_neg exhausted]
              have free : heap.links candidate = none := by
                by_contra used
                exact exhausted (if_neg used)
              have allocated : heap.allocateZeroPool candidate = candidate := if_pos free
              rw [allocated] at exhausted ⊢
              obtain ⟨links, inserted, after⟩ := represents.store free exhausted keyData fn
              rw [inserted, Option.map_some]
              refine ⟨_, _, _, _, rfl, rfl, after, .inr ⟨_, ?_, rfl⟩⟩
              exact ⟨represents.node_eq_none free, rfl, rfl, rfl⟩

/-- Unregistering on the nodes is unregistering on the list. -/
theorem Represents.unregister {consoleIn : ConsoleIn}
    (represents : heap.Represents consoleIn.notifyList) (notificationHandle : U32) :
    ∃ status after consoleAfter,
      heap.keypadUnregisterKeyNotify notificationHandle = some (status, after) ∧
      Keypad.keypadUnregisterKeyNotify consoleIn notificationHandle = (status, consoleAfter) ∧
      after.Represents consoleAfter.notifyList ∧
      (after = heap ∧ consoleAfter.notifyList = consoleIn.notifyList ∧
          (∀ entry ∈ consoleIn.notifyList, entry.address ≠ notificationHandle) ∨
        ∃ before entry rest, entry.address = notificationHandle ∧
          heap.Freed after notificationHandle ∧
          consoleIn.notifyList = before ++ entry :: rest ∧
          consoleAfter.notifyList = before ++ rest) := by
  unfold NotifyHeap.keypadUnregisterKeyNotify Keypad.keypadUnregisterKeyNotify
  by_cases null : notificationHandle = 0
  · simp only [if_pos null]
    refine ⟨_, _, _, rfl, rfl, represents, .inl ⟨rfl, rfl, ?_⟩⟩
    rw [null]
    exact represents.nonzero
  · simp only [if_neg null, represents.search_eq, Option.bind_some]
    cases found : consoleIn.notifyList.find? fun entry => entry.address == notificationHandle with
    | none =>
        have absent := List.find?_eq_none.mp found
        have none_ : consoleIn.notifyList.any (·.address == notificationHandle) = false := by
          rw [List.any_eq_false]
          exact absent
        simp only [Option.map_none, none_, Bool.false_eq_true, if_false]
        refine ⟨_, _, _, rfl, rfl, represents, .inl ⟨rfl, rfl, ?_⟩⟩
        intro entry member same
        exact absent entry member (beq_iff_eq.mpr same)
    | some entry =>
        obtain ⟨hit, before, rest, split, earlier⟩ := List.find?_eq_some_iff_append.mp found
        have same : entry.address = notificationHandle := beq_iff_eq.mp hit
        have some_ : consoleIn.notifyList.any (·.address == notificationHandle) = true :=
          List.any_eq_true.mpr ⟨entry, List.mem_of_find?_eq_some found, hit⟩
        have erased : consoleIn.notifyList.eraseP (·.address == notificationHandle) =
            before ++ rest := by
          rw [split, List.eraseP_append_right _ (by simpa using earlier),
            List.eraseP_cons, hit, cond_true]
        rw [split] at represents
        obtain ⟨links, removed, after⟩ := represents.remove
        simp only [Option.map_some, removed, some_, if_true]
        refine ⟨_, _, _, rfl, rfl, ?_, .inr ⟨before, entry, rest, same, ?_, split, erased⟩⟩
        · rw [erased]
          exact after
        · rw [← same]
          exact ⟨rfl, rfl, rfl⟩

end Represents

end NotifyHeap

end HtcLeo.Keypad
