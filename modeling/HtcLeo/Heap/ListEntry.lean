import Mathlib.Data.List.Chain
import Mathlib.Logic.Function.Basic

/-!
# Circular lists in memory

A list entry holds the places of the entries before and after it, and the head of a list
is an entry as well, so that an empty list is a head that leads to itself.  Memory that is
not in use holds no entry: an operation that reads it, or writes to it, has no result.
-/

namespace HtcLeo

universe u

/-- `LIST_ENTRY`. -/
structure ListEntry (A : Type u) where
  forwardLink : A
  backLink : A
  deriving DecidableEq, Repr

/-- The entries at their addresses; `none` where there is no entry. -/
abbrev ListMemory (A : Type u) := A → Option (ListEntry A)

namespace ListMemory

variable {A : Type u} [DecidableEq A]

/-! ## Operations -/

/-- A store to `ForwardLink`. -/
def setForwardLink (memory : ListMemory A) (place target : A) : Option (ListMemory A) :=
  (memory place).map fun entry =>
    Function.update memory place (some { entry with forwardLink := target })

/-- A store to `BackLink`. -/
def setBackLink (memory : ListMemory A) (place target : A) : Option (ListMemory A) :=
  (memory place).map fun entry =>
    Function.update memory place (some { entry with backLink := target })

/-- The head of a list leads to itself. -/
def initializeListHead (memory : ListMemory A) (listHead : A) : Option (ListMemory A) :=
  (memory listHead).map fun _ => Function.update memory listHead (some ⟨listHead, listHead⟩)

/-- The new entry takes its place between the last one and the head. -/
def insertTailList (memory : ListMemory A) (listHead entry : A) : Option (ListMemory A) :=
  (memory listHead).bind fun head =>
    (memory.setForwardLink entry listHead).bind fun memory =>
      (memory.setBackLink entry head.backLink).bind fun memory =>
        (memory.setForwardLink head.backLink entry).bind fun memory =>
          memory.setBackLink listHead entry

/-- The neighbours of the entry are joined; the entry itself stays as it is. -/
def removeEntryList (memory : ListMemory A) (entry : A) : Option (ListMemory A) :=
  (memory entry).bind fun removed =>
    (memory.setBackLink removed.forwardLink removed.backLink).bind fun memory =>
      memory.setForwardLink removed.backLink removed.forwardLink

/-- Go from entry to entry up to the head, for at most `fuel` steps, and stop at the first
one that is hit. -/
def search (memory : ListMemory A) (listHead : A) (hit : A → Option Bool) :
    Nat → A → Option (Option A)
  | 0, _ => none
  | fuel + 1, link =>
      if link = listHead then some none
      else
        (hit link).bind fun found =>
          if found then some (some link)
          else
            (memory link).bind fun entry => search memory listHead hit fuel entry.forwardLink

/-! ## Links -/

/-- The forward link at an address. -/
def forward? (memory : ListMemory A) (place : A) : Option A :=
  (memory place).map ListEntry.forwardLink

/-- The back link at an address. -/
def back? (memory : ListMemory A) (place : A) : Option A :=
  (memory place).map ListEntry.backLink

/-- Two entries that lead to each other. -/
def Joined (memory : ListMemory A) (one two : A) : Prop :=
  memory.forward? one = some two ∧ memory.back? two = some one

/-- The entries of a list, in order, none of them twice. -/
structure Circular (memory : ListMemory A) (listHead : A) (entries : List A) : Prop where
  chain : (listHead :: (entries ++ [listHead])).IsChain memory.Joined
  nodup : (listHead :: entries).Nodup

section Links

variable {memory : ListMemory A} {place target other : A}

omit [DecidableEq A] in
theorem isSome_of_forward? (link : memory.forward? place = some target) :
    ∃ entry, memory place = some entry ∧ entry.forwardLink = target :=
  Option.map_eq_some_iff.mp link

omit [DecidableEq A] in
theorem isSome_of_back? (link : memory.back? place = some target) :
    ∃ entry, memory place = some entry ∧ entry.backLink = target :=
  Option.map_eq_some_iff.mp link

/-- What a write of a forward link does. -/
structure ForwardSet (memory after : ListMemory A) (place target : A) : Prop where
  forward : ∀ other,
    after.forward? other = if other = place then some target else memory.forward? other
  back : ∀ other, after.back? other = memory.back? other
  inUse : ∀ other, (after other).isSome = (memory other).isSome

/-- What a write of a back link does. -/
structure BackSet (memory after : ListMemory A) (place target : A) : Prop where
  forward : ∀ other, after.forward? other = memory.forward? other
  back : ∀ other,
    after.back? other = if other = place then some target else memory.back? other
  inUse : ∀ other, (after other).isSome = (memory other).isSome

theorem setForwardLink_spec (memory : ListMemory A) (place : A) (inUse : (memory place).isSome)
    (target : A) :
    ∃ after, memory.setForwardLink place target = some after ∧
      memory.ForwardSet after place target := by
  obtain ⟨entry, present⟩ := Option.isSome_iff_exists.mp inUse
  refine ⟨_, by rw [setForwardLink, present]; rfl, ?_, ?_, ?_⟩ <;> intro other <;>
    by_cases same : other = place <;>
      simp [forward?, back?, same, present]

theorem setBackLink_spec (memory : ListMemory A) (place : A) (inUse : (memory place).isSome)
    (target : A) :
    ∃ after, memory.setBackLink place target = some after ∧
      memory.BackSet after place target := by
  obtain ⟨entry, present⟩ := Option.isSome_iff_exists.mp inUse
  refine ⟨_, by rw [setBackLink, present]; rfl, ?_, ?_, ?_⟩ <;> intro other <;>
    by_cases same : other = place <;>
      simp [forward?, back?, same, present]

end Links

/-! ## Going along a list -/

section Circular

variable {memory : ListMemory A} {listHead : A} {entries before after : List A} {entry : A}

omit [DecidableEq A] in
/-- A head that leads to itself is an empty list. -/
theorem circular_nil (empty : memory listHead = some ⟨listHead, listHead⟩) :
    memory.Circular listHead [] := by
  constructor
  · apply List.isChain_pair.mpr
    constructor
    · rw [forward?, empty]
      rfl
    · rw [back?, empty]
      rfl
  · exact List.pairwise_singleton _ _

omit [DecidableEq A] in
/-- From the head the list leads to its first entry, or back to the head. -/
theorem Circular.forward_head (circular : memory.Circular listHead entries) :
    memory.forward? listHead = some (entries.headD listHead) := by
  have chain := circular.chain
  cases entries with
  | nil => exact (List.isChain_cons_cons.mp chain).1.1
  | cons first rest => exact (List.isChain_cons_cons.mp chain).1.1

omit [DecidableEq A] in
/-- From an entry it leads to the next one, or back to the head. -/
theorem Circular.forward (circular : memory.Circular listHead (before ++ entry :: after)) :
    memory.forward? entry = some (after.headD listHead) := by
  have chain := circular.chain
  rw [List.append_assoc, List.cons_append, ← List.cons_append, List.isChain_split] at chain
  cases after with
  | nil => exact (List.isChain_cons_cons.mp chain.2).1.1
  | cons next rest => exact (List.isChain_cons_cons.mp chain.2).1.1

omit [DecidableEq A] in
theorem Circular.inUse (circular : memory.Circular listHead entries)
    (member : entry ∈ listHead :: entries) : (memory entry).isSome := by
  rcases List.mem_cons.mp member with rfl | member
  · obtain ⟨found, present, -⟩ := isSome_of_forward? circular.forward_head
    simp [present]
  · obtain ⟨before, after, rfl⟩ := List.append_of_mem member
    obtain ⟨found, present, -⟩ := isSome_of_forward? circular.forward
    simp [present]

omit [DecidableEq A] in
/-- From the same place the links lead along the same entries. -/
theorem eq_of_chains {place : A} {one two : List A}
    (oneChain : (place :: (one ++ [listHead])).IsChain memory.Joined)
    (twoChain : (place :: (two ++ [listHead])).IsChain memory.Joined)
    (oneEnds : listHead ∉ one) (twoEnds : listHead ∉ two) : one = two := by
  induction one generalizing place two with
  | nil =>
      cases two with
      | nil => rfl
      | cons other rest =>
          have here := (List.isChain_cons_cons.mp oneChain).1.1
          have there := (List.isChain_cons_cons.mp twoChain).1.1
          cases Option.some.inj (here.symm.trans there)
          exact absurd List.mem_cons_self twoEnds
  | cons first rest ih =>
      obtain ⟨here, oneRest⟩ := List.isChain_cons_cons.mp oneChain
      cases two with
      | nil =>
          have there := (List.isChain_cons_cons.mp twoChain).1.1
          cases Option.some.inj (here.1.symm.trans there)
          exact absurd List.mem_cons_self oneEnds
      | cons other others =>
          obtain ⟨there, twoRest⟩ := List.isChain_cons_cons.mp twoChain
          cases Option.some.inj (here.1.symm.trans there.1)
          rw [List.mem_cons, not_or] at oneEnds twoEnds
          rw [ih oneRest twoRest oneEnds.2 twoEnds.2]

omit [DecidableEq A] in
theorem Circular.unique {others : List A} (one : memory.Circular listHead entries)
    (two : memory.Circular listHead others) : entries = others :=
  eq_of_chains one.chain two.chain (List.nodup_cons.mp one.nodup).1
    (List.nodup_cons.mp two.nodup).1

/-- A search finds the first entry that is hit. -/
theorem Circular.search_eq (before : List A) {hit : A → Option Bool} {p : A → Bool}
    (circular : memory.Circular listHead (before ++ entries))
    (hits : ∀ entry ∈ entries, hit entry = some (p entry)) {fuel : Nat}
    (enough : entries.length < fuel) :
    memory.search listHead hit fuel (entries.headD listHead) = some (entries.find? p) := by
  induction entries generalizing before fuel with
  | nil =>
      cases fuel with
      | zero => exact absurd enough (Nat.not_lt_zero _)
      | succ fuel => rw [List.headD_nil, search, if_pos rfl, List.find?_nil]
  | cons first rest ih =>
      cases fuel with
      | zero => exact absurd enough (Nat.not_lt_zero _)
      | succ fuel =>
          rw [List.forall_mem_cons] at hits
          have apart : first ≠ listHead := by
            rintro rfl
            exact (List.nodup_cons.mp circular.nodup).1 (by simp)
          obtain ⟨found, present, next⟩ := isSome_of_forward? circular.forward
          rw [List.headD_cons, search, if_neg apart, hits.1, Option.bind_some, present,
            Option.bind_some, List.find?_cons]
          cases hit : p first with
          | true => rfl
          | false =>
              rw [if_neg Bool.false_ne_true, next]
              apply ih (before ++ [first])
              · rwa [List.append_assoc, List.singleton_append]
              · exact hits.2
              · rw [List.length_cons] at enough
                omega

/-! ## Changing a list -/

omit [DecidableEq A] in
/-- A list does not depend on memory that is not its own. -/
theorem Circular.congr {changed : ListMemory A} (circular : memory.Circular listHead entries)
    (same : ∀ entry ∈ listHead :: entries, changed entry = memory entry) :
    changed.Circular listHead entries := by
  refine ⟨circular.chain.imp_of_mem_imp ?_, circular.nodup⟩
  intro one two oneMember twoMember joined
  have own : ∀ entry ∈ listHead :: (entries ++ [listHead]), changed entry = memory entry := by
    intro entry member
    apply same
    simpa [or_comm, or_assoc] using member
  rw [Joined, forward?, back?, own one oneMember, own two twoMember]
  exact joined

/-- An entry that is in no list can be given up. -/
theorem Circular.free (circular : memory.Circular listHead entries)
    (absent : entry ∉ listHead :: entries) (gone : Option (ListEntry A)) :
    ListMemory.Circular (Function.update memory entry gone) listHead entries := by
  apply circular.congr
  intro other member
  apply Function.update_of_ne
  rintro rfl
  exact absent member

/-- What removing an entry does to the links. -/
structure Unlinks (memory removed : ListMemory A) (last next : A) : Prop where
  forward : ∀ other,
    removed.forward? other = if other = last then some next else memory.forward? other
  back : ∀ other,
    removed.back? other = if other = next then some last else memory.back? other
  inUse : ∀ other, (removed other).isSome = (memory other).isSome

section Unlinks

variable {removed : ListMemory A} {last next one two : A}

/-- An entry is removed by two writes to its neighbours. -/
theorem removeEntryList_spec (previous : memory.Joined last entry)
    (following : memory.Joined entry next) :
    ∃ removed, memory.removeEntryList entry = some removed ∧ memory.Unlinks removed last next := by
  obtain ⟨this, present, forward⟩ := isSome_of_forward? following.1
  obtain ⟨nextEntry, nextPresent, -⟩ := isSome_of_back? following.2
  obtain ⟨lastEntry, lastPresent, -⟩ := isSome_of_forward? previous.1
  have back : this.backLink = last := by
    have link := previous.2
    rw [back?, present] at link
    exact Option.some.inj link
  rcases setBackLink_spec memory next (by rw [nextPresent]; rfl) last with
    ⟨middle, middle_eq, middleSet⟩
  rcases setForwardLink_spec middle last (by rw [middleSet.inUse, lastPresent]; rfl) next with
    ⟨removed, removed_eq, removedSet⟩
  refine ⟨removed, ?_, ?_⟩
  · rw [ListMemory.removeEntryList, present, Option.bind_some, forward, back, middle_eq,
      Option.bind_some, removed_eq]
  · constructor
    · intro other
      rw [removedSet.forward, middleSet.forward]
    · intro other
      rw [removedSet.back, middleSet.back]
    · intro other
      rw [removedSet.inUse, middleSet.inUse]

theorem Unlinks.joined (unlinks : memory.Unlinks removed last next) :
    removed.Joined last next := by
  constructor
  · rw [unlinks.forward, if_pos rfl]
  · rw [unlinks.back, if_pos rfl]

/-- Of all joints only the two at the entry are changed. -/
theorem Unlinks.kept (unlinks : memory.Unlinks removed last next)
    (previous : memory.Joined last entry) (following : memory.Joined entry next)
    (oneApart : one ≠ entry) (twoApart : two ≠ entry) (joined : memory.Joined one two) :
    removed.Joined one two := by
  constructor
  · rw [unlinks.forward, if_neg, joined.1]
    rintro rfl
    exact twoApart (Option.some.inj (joined.1.symm.trans previous.1))
  · rw [unlinks.back, if_neg, joined.2]
    rintro rfl
    exact oneApart (Option.some.inj (joined.2.symm.trans following.2))

end Unlinks

/-- Removing an entry joins its neighbours. -/
theorem Circular.removeEntryList
    (circular : memory.Circular listHead (before ++ entry :: after)) :
    ∃ removed, memory.removeEntryList entry = some removed ∧
      removed.Circular listHead (before ++ after) ∧
      ∀ other, (removed other).isSome = (memory other).isSome := by
  have chain := circular.chain
  have nodup := circular.nodup
  rw [List.append_assoc, List.cons_append, ← List.cons_append] at chain
  rw [← List.cons_append] at nodup
  have left := chain.left_of_append
  have right := chain.right_of_append
  have previous := chain.rel_getLast_head_of_append (List.cons_ne_nil _ _) (List.cons_ne_nil _ _)
  rw [List.head_cons] at previous
  have following : memory.Joined entry (after.headD listHead) := by
    cases after with
    | nil => exact (List.isChain_cons_cons.mp right).1
    | cons first rest => exact (List.isChain_cons_cons.mp right).1
  have apart : ∀ other ∈ listHead :: before, other ≠ entry := by
    rintro other member rfl
    exact (List.nodup_append.mp nodup).2.2 other member other List.mem_cons_self rfl
  have apartAfter : ∀ other ∈ after ++ [listHead], other ≠ entry := by
    rintro other member rfl
    rcases List.mem_append.mp member with member | member
    · exact (List.nodup_cons.mp (List.nodup_append.mp nodup).2.1).1 member
    · exact apart listHead List.mem_cons_self (List.mem_singleton.mp member).symm
  obtain ⟨removed, removed_eq, unlinks⟩ := removeEntryList_spec previous following
  refine ⟨removed, removed_eq, ⟨?_, ?_⟩, unlinks.inUse⟩
  · rw [List.append_assoc, ← List.cons_append]
    apply List.IsChain.append
    · exact left.imp_of_mem_imp fun one two oneMember twoMember =>
        unlinks.kept previous following (apart one oneMember) (apart two twoMember)
    · exact right.tail.imp_of_mem_imp fun one two oneMember twoMember =>
        unlinks.kept previous following (apartAfter one oneMember) (apartAfter two twoMember)
    · intro one oneLast two twoFirst
      rw [List.getLast?_eq_some_getLast (List.cons_ne_nil _ _), Option.mem_some_iff] at oneLast
      have two_eq : two = after.headD listHead := by
        cases after <;> simpa using twoFirst.symm
      rw [← oneLast, two_eq]
      exact unlinks.joined
  · rw [← List.cons_append]
    exact nodup.sublist (List.Sublist.append_left (List.sublist_cons_self _ _) _)

/-- What inserting an entry does to the links. -/
structure Links (memory inserted : ListMemory A) (last entry next : A) : Prop where
  forward : ∀ other, inserted.forward? other =
    if other = last then some entry else
      if other = entry then some next else memory.forward? other
  back : ∀ other, inserted.back? other =
    if other = next then some entry else
      if other = entry then some last else memory.back? other
  inUse : ∀ other, (inserted other).isSome = (memory other).isSome

section Links

variable {inserted : ListMemory A} {last one two : A}

/-- An entry is inserted by four writes. -/
theorem insertTailList_spec (end_ : memory.Joined last listHead)
    (inUse : (memory entry).isSome) :
    ∃ inserted, memory.insertTailList listHead entry = some inserted ∧
      memory.Links inserted last entry listHead := by
  obtain ⟨head, present, back⟩ := isSome_of_back? end_.2
  obtain ⟨lastEntry, lastPresent, -⟩ := isSome_of_forward? end_.1
  obtain ⟨one, one_eq, oneSet⟩ := setForwardLink_spec memory entry inUse listHead
  obtain ⟨two, two_eq, twoSet⟩ := setBackLink_spec one entry (by rwa [oneSet.inUse]) last
  rcases setForwardLink_spec two last
    (by rw [twoSet.inUse, oneSet.inUse, lastPresent]; rfl) entry with
    ⟨three, three_eq, threeSet⟩
  rcases setBackLink_spec three listHead
    (by rw [threeSet.inUse, twoSet.inUse, oneSet.inUse, present]; rfl) entry with
    ⟨inserted, inserted_eq, insertedSet⟩
  refine ⟨inserted, ?_, ?_⟩
  · rw [ListMemory.insertTailList, present, Option.bind_some, one_eq, Option.bind_some, back,
      two_eq, Option.bind_some, three_eq, Option.bind_some, inserted_eq]
  · constructor
    · intro other
      rw [insertedSet.forward, threeSet.forward, twoSet.forward, oneSet.forward]
    · intro other
      rw [insertedSet.back, threeSet.back, twoSet.back, oneSet.back]
    · intro other
      rw [insertedSet.inUse, threeSet.inUse, twoSet.inUse, oneSet.inUse]

/-- The new entry is joined to both its neighbours. -/
theorem Links.joined (links : memory.Links inserted last entry listHead) (apart : entry ≠ last)
    (apartHead : entry ≠ listHead) :
    inserted.Joined last entry ∧ inserted.Joined entry listHead := by
  constructor
  · constructor
    · rw [links.forward, if_pos rfl]
    · rw [links.back, if_neg apartHead, if_pos rfl]
  · constructor
    · rw [links.forward, if_neg apart, if_pos rfl]
    · rw [links.back, if_pos rfl]

/-- Of all joints of other entries only the one that leads to the head is changed. -/
theorem Links.kept (links : memory.Links inserted last entry listHead)
    (end_ : memory.Joined last listHead) (oneApart : one ≠ entry) (twoApart : two ≠ entry)
    (inside : two ≠ listHead) (joined : memory.Joined one two) : inserted.Joined one two := by
  have early : one ≠ last := by
    rintro rfl
    exact inside (Option.some.inj (joined.1.symm.trans end_.1))
  constructor
  · rw [links.forward, if_neg early, if_neg oneApart, joined.1]
  · rw [links.back, if_neg inside, if_neg twoApart, joined.2]

end Links

/-- Inserting an entry puts it behind the others. -/
theorem Circular.insertTailList (circular : memory.Circular listHead entries)
    (fresh : entry ∉ listHead :: entries) (inUse : (memory entry).isSome) :
    ∃ inserted, memory.insertTailList listHead entry = some inserted ∧
      inserted.Circular listHead (entries ++ [entry]) ∧
      ∀ other, (inserted other).isSome = (memory other).isSome := by
  have chain := circular.chain
  have nodup := circular.nodup
  rw [← List.cons_append] at chain
  have left := chain.left_of_append
  have end_ := chain.rel_getLast_head_of_append (List.cons_ne_nil _ _) (List.cons_ne_nil _ _)
  rw [List.head_cons] at end_
  have apart : entry ≠ (listHead :: entries).getLast (List.cons_ne_nil _ _) :=
    fun same => fresh (same ▸ List.getLast_mem _)
  have apartHead : entry ≠ listHead := fun same => fresh (same ▸ List.mem_cons_self)
  obtain ⟨inserted, inserted_eq, links⟩ := insertTailList_spec end_ inUse
  have joined := links.joined apart apartHead
  refine ⟨inserted, inserted_eq, ⟨?_, ?_⟩, links.inUse⟩
  · rw [List.append_assoc, List.singleton_append, ← List.cons_append]
    apply List.IsChain.append
    · -- The joint between the last entry and the head is not one of these.
      apply left.imp_of_mem_tail_imp
      intro former latter formerMember latterMember
      apply links.kept end_
      · exact fun same => fresh (same ▸ formerMember)
      · exact fun same => fresh (same ▸ List.mem_cons_of_mem _ latterMember)
      · rintro rfl
        exact (List.nodup_cons.mp nodup).1 latterMember
    · exact List.isChain_pair.mpr joined.2
    · intro former formerLast latter latterFirst
      rw [List.getLast?_eq_some_getLast (List.cons_ne_nil _ _), Option.mem_some_iff] at formerLast
      rw [List.head?_cons, Option.mem_some_iff] at latterFirst
      rw [← formerLast, ← latterFirst]
      exact joined.1
  · rw [← List.cons_append]
    refine List.nodup_append.mpr ⟨nodup, List.pairwise_singleton _ _, ?_⟩
    rintro old oldMember new newMember rfl
    exact fresh (List.mem_singleton.mp newMember ▸ oldMember)

end Circular

end ListMemory

end HtcLeo
