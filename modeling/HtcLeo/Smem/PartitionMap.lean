import HtcLeo.Smem.ModemPartitions

/-!
# The partition table as a map

`ptable_find` and `ptable_get_index` look a name up among the entries in use, and
`ptable_get` takes an index.  A name is found again if its field has room for it; the
index is compared with the count and with nothing else.
-/

namespace HtcLeo.Smem

/-! ## The operations -/

/-- A string, without the NUL that ends it. -/
abbrev CString := {characters : List U8 // 0 ∉ characters}

/-- The arguments of `ptable_add` for one partition. -/
structure Partition where
  name : CString
  start : U32
  length : U32
  flags : U32
  type : U8
  perm : U8
  deriving DecidableEq, Repr

/-- `ptable_init`. -/
def ptableInit : List Ptentry := []

/-- A sequence of `ptable_add`. -/
def ptableAddAll (strlcpy : List U8 → Nat → List U8 → List U8) :
    List Ptentry → List Partition → Except Fault (List Ptentry)
  | ptable, [] => .ok ptable
  | ptable, new :: rest => do
      let ptable ← ptableAdd strlcpy ptable new.name.val new.start new.length new.flags
        new.type new.perm
      ptableAddAll strlcpy ptable rest

/-- Bytes of a field against a string.  There is no result if the field ends first. -/
def strcmp : List U8 → List U8 → Option Int
  | [], _ => none
  | first :: rest, string =>
      let second := string.headD 0
      if first ≠ 0 ∧ first = second then strcmp rest string.tail
      else some ((first.toNat : Int) - second.toNat)

/-- `&ptable->parts[n]` is the number `n` here. -/
abbrev PartPointer := Int

/-- What a pointer refers to, if that is an entry in use. -/
def partAt (ptable : List Ptentry) (ptn : PartPointer) : Option Ptentry :=
  if 0 ≤ ptn then ptable[ptn.toNat]? else none

/-- The loop of `ptable_find` and of `ptable_get_index` from entry `i`: what they return of the
first entry of a name, or without one. -/
def searchFrom {α : Type} (found : Int → α) (missing : α) (name : List U8) :
    Nat → List Ptentry → Except Fault α
  | _, [] => .ok missing
  | i, ptn :: rest => do
      let differs ← within (strcmp ptn.name name)
      if differs = 0 then return found i else searchFrom found missing name (i + 1) rest

/-- `ptable_find`. -/
def ptableFind (ptable : List Ptentry) (name : List U8) : Except Fault (Option PartPointer) :=
  searchFrom some none name 0 ptable

/-- `ptable_size`. -/
def ptableSize (ptable : List Ptentry) : Int := ptable.length

/-- `ptable_get`. -/
def ptableGet (ptable : List Ptentry) (n : Int) : Option PartPointer :=
  if n ≥ ptableSize ptable then none else some n

/-- `ptable_get_index`. -/
def ptableGetIndex (ptable : List Ptentry) (name : List U8) : Except Fault Int :=
  searchFrom id (-1) name 0 ptable

/-! ## What the entries hold -/

namespace Partition

/-- The name that is left in the entry. -/
def keptName (new : Partition) : List U8 :=
  if new.name.val.length < MAX_PTENTRY_NAME then new.name.val else []

/-- The entry that `ptable_add` fills. -/
def entry (new : Partition) : Ptentry where
  name := asciiStrCpyS (List.replicate MAX_PTENTRY_NAME 0) MAX_PTENTRY_NAME new.name.val
  start := new.start
  length := new.length
  flags := new.flags
  type := new.type
  perm := new.perm

theorem keptName_plain (new : Partition) : 0 ∉ new.keptName := by
  rw [keptName]
  split
  · exact new.name.property
  · exact List.not_mem_nil

theorem keptName_eq_iff (new : Partition) (named : new.name.val ≠ []) :
    new.keptName = new.name.val ↔ new.name.val.length < MAX_PTENTRY_NAME := by
  rw [keptName]
  split <;> simp_all [eq_comm]

/-- The name in an entry ends inside its field. -/
theorem entry_name (new : Partition) : ∃ rest, new.entry.name = new.keptName ++ 0 :: rest := by
  rw [entry, keptName, asciiStrCpyS]
  split
  · exact ⟨_, rfl⟩
  · exact ⟨_, rfl⟩

end Partition

/-- A string that ends in its field is compared without reading past the field. -/
theorem strcmp_terminated {first second : List U8} (plain : 0 ∉ first) (other : 0 ∉ second)
    (rest : List U8) :
    ∃ differs, strcmp (first ++ 0 :: rest) second = some differs ∧
      (differs = 0 ↔ first = second) := by
  induction first generalizing second with
  | nil =>
      have ended : ¬ ((0 : U8) ≠ 0 ∧ 0 = second.headD 0) := fun more => more.1 rfl
      refine ⟨((0 : U8).toNat : Int) - (second.headD 0).toNat, ?_, ?_⟩
      · rw [List.nil_append, strcmp]
        exact if_neg ended
      · cases second with
        | nil => simp
        | cons head tail =>
            have nonzero : head ≠ 0 := fun zero => other (zero ▸ List.mem_cons_self)
            simpa [BitVec.toNat_eq] using nonzero
  | cons head tail ih =>
      have nonzero : head ≠ 0 := fun zero => plain (zero ▸ List.mem_cons_self)
      by_cases same : head = second.headD 0
      · obtain ⟨_, behind, rfl⟩ : ∃ next behind, second = next :: behind := by
          cases second with
          | nil => exact absurd same nonzero
          | cons next behind => exact ⟨next, behind, rfl⟩
        obtain ⟨differs, compared, decided⟩ := ih
          (fun member => plain (List.mem_cons_of_mem _ member))
          (fun member => other (List.mem_cons_of_mem _ member))
        refine ⟨differs, (if_pos ⟨nonzero, same⟩).trans compared, decided.trans ?_⟩
        rw [List.cons.injEq]
        exact (and_iff_right same).symm
      · refine ⟨_, if_neg fun more => same more.2, ?_⟩
        rw [Int.sub_eq_zero, Int.ofNat_inj, BitVec.toNat_inj]
        refine iff_of_false same fun equal => same ?_
        rw [← equal, List.headD_cons]

/-- The name of an entry against a string. -/
theorem Partition.strcmp_entry (new : Partition) (name : CString) :
    ∃ differs, within (strcmp new.entry.name name.val) = .ok differs ∧
      (differs = 0 ↔ new.keptName = name.val) := by
  obtain ⟨rest, stored⟩ := new.entry_name
  obtain ⟨differs, compared, decided⟩ :=
    strcmp_terminated new.keptName_plain name.property rest
  rw [stored, compared]
  exact ⟨differs, rfl, decided⟩

variable {calls : List Partition} {name : CString} {ptable : List Ptentry}

theorem ptableAdd_entry (new : Partition) (room : ptable.length < MAX_PTABLE_PARTS) :
    ptableAdd asciiStrCpyS ptable new.name.val new.start new.length new.flags new.type
      new.perm = .ok (ptable ++ [new.entry]) :=
  if_pos room

/-- While there is room, the calls append their entries. -/
theorem ptableAddAll_eq (room : ptable.length + calls.length ≤ MAX_PTABLE_PARTS) :
    ptableAddAll asciiStrCpyS ptable calls = .ok (ptable ++ calls.map Partition.entry) := by
  induction calls generalizing ptable with
  | nil => rw [ptableAddAll, List.map_nil, List.append_nil]
  | cons new rest ih =>
      rw [List.length_cons] at room
      rw [ptableAddAll, ptableAdd_entry new (by omega)]
      refine (ih ?_).trans ?_
      · rw [List.length_append, List.length_singleton]
        omega
      · rw [List.append_assoc, List.map_cons, List.singleton_append]

/-! ## Searches -/

/-- The first partition of a name. -/
def firstNamed (calls : List Partition) (name : CString) : Option Nat :=
  calls.findIdx? fun new => new.keptName = name.val

theorem searchFrom_entries {α : Type} (found : Int → α) (missing : α) (i : Nat) :
    searchFrom found missing name.val i (calls.map Partition.entry) =
      .ok (((firstNamed calls name).map fun (k : Nat) => found (i + k : Nat)).getD missing) := by
  induction calls generalizing i with
  | nil => rfl
  | cons new rest ih =>
      obtain ⟨differs, compared, decided⟩ := new.strcmp_entry name
      rw [List.map_cons, searchFrom, compared, firstNamed, List.findIdx?_cons]
      by_cases same : new.keptName = name.val
      · simp [decided.mpr same, same, bind, Except.bind, pure, Except.pure]
      · simp only [mt decided.mp same, bind, Except.bind, if_false, same, decide_false]
        rw [ih, firstNamed]
        cases rest.findIdx? fun new => new.keptName = name.val with
        | none => rfl
        | some k => simp [Nat.add_comm, Nat.add_left_comm]

/-! ## The map -/

/-- `ptable_get` gives exactly the entries that were added. -/
def GetsAdded (calls : List Partition) (ptable : List Ptentry) (n : Int) : Prop :=
  ((ptableGet ptable n).isSome ↔ 0 ≤ n ∧ n < ptableSize ptable) ∧
    ∀ ptn ∈ ptableGet ptable n, ∃ new, calls[n.toNat]? = some new ∧
      partAt ptable ptn = some new.entry

/-- `ptable_find` and `ptable_get_index` find the same entry, or none. -/
def SearchesAgree (ptable : List Ptentry) (name : CString) : Prop :=
  (∃ i : Nat, i < ptable.length ∧ ptableFind ptable name.val = .ok (some (i : Int)) ∧
    ptableGetIndex ptable name.val = .ok (i : Int)) ∨
  (ptableFind ptable name.val = .ok none ∧ ptableGetIndex ptable name.val = .ok (-1))

/-- A partition of a new name is found after it was added. -/
def FindsNew (earlier : List Partition) (new : Partition) : Prop :=
  ∃ ptable after, ptableAddAll asciiStrCpyS ptableInit earlier = .ok ptable ∧
    ptableAddAll asciiStrCpyS ptable [new] = .ok after ∧
    (new.name.val ≠ [] → ptableFind ptable new.name.val = .ok none →
      ptableFind after new.name.val = .ok (some ptable.length) ∧
        ∃ ptn, partAt after ptable.length = some ptn ∧ ptn.start = new.start ∧
          ptn.length = new.length ∧ ptn.flags = new.flags)

/-- The table after the calls is a map, at an index and a name. -/
def IsMap (calls : List Partition) (n : Int) (name : CString) : Prop :=
  ∃ ptable, ptableAddAll asciiStrCpyS ptableInit calls = .ok ptable ∧
    GetsAdded calls ptable n ∧ SearchesAgree ptable name ∧
    ∀ earlier new later, calls = earlier ++ new :: later → FindsNew earlier new

/-- Every negative number is taken for the index of an entry. -/
theorem getsAdded_iff (n : Int) : GetsAdded calls (calls.map Partition.entry) n ↔ 0 ≤ n := by
  have size : ptableSize (calls.map Partition.entry) = calls.length := by
    rw [ptableSize, List.length_map]
  rw [GetsAdded, ptableGet, size]
  constructor
  · rintro ⟨exact, -⟩
    by_contra negative
    have below : ¬ n ≥ calls.length := by omega
    rw [if_neg below] at exact
    exact negative (exact.mp rfl).1
  · intro natural
    split
    · rename_i above
      refine ⟨iff_of_false Bool.false_ne_true fun inside => Int.not_le.mpr inside.2 above, ?_⟩
      intro ptn given
      cases given
    · rename_i inside
      refine ⟨iff_of_true rfl ⟨natural, Int.not_le.mp inside⟩, ?_⟩
      intro ptn given
      cases given
      have below : n.toNat < calls.length := by omega
      refine ⟨calls[n.toNat], List.getElem?_eq_getElem below, ?_⟩
      rw [partAt, if_pos natural, List.getElem?_map, List.getElem?_eq_getElem below,
        Option.map_some]

theorem ptableFind_entries :
    ptableFind (calls.map Partition.entry) name.val =
      .ok ((firstNamed calls name).map fun (k : Nat) => (k : Int)) := by
  rw [ptableFind, searchFrom_entries]
  simp only [Nat.zero_add]
  cases firstNamed calls name <;> rfl

theorem searchesAgree (calls : List Partition) (name : CString) :
    SearchesAgree (calls.map Partition.entry) name := by
  rw [SearchesAgree, ptableFind_entries, ptableGetIndex, searchFrom_entries]
  simp only [Nat.zero_add]
  cases found : firstNamed calls name with
  | none => exact .inr ⟨rfl, rfl⟩
  | some i =>
      refine .inl ⟨i, ?_, rfl, rfl⟩
      rw [List.length_map]
      exact (List.findIdx?_eq_some_iff_findIdx_eq.mp found).1

/-- The calls fill the table with their entries. -/
theorem ptableAddAll_init (room : calls.length ≤ MAX_PTABLE_PARTS) :
    ptableAddAll asciiStrCpyS ptableInit calls = .ok (calls.map Partition.entry) :=
  ptableAddAll_eq (Nat.le_trans (Nat.le_of_eq (Nat.zero_add _)) room)

theorem firstNamed_append_singleton {earlier : List Partition} {new : Partition}
    (fresh : firstNamed earlier name = none) :
    firstNamed (earlier ++ [new]) name =
      if new.keptName = name.val then some earlier.length else none := by
  rw [firstNamed] at fresh
  rw [firstNamed, List.findIdx?_append, fresh, List.findIdx?_singleton]
  by_cases same : new.keptName = name.val <;> simp [same]

/-- No entry keeps a name that its field has no room for. -/
theorem firstNamed_of_long (long : ¬ name.val.length < MAX_PTENTRY_NAME) :
    firstNamed calls name = none := by
  refine List.findIdx?_eq_none_iff.mpr fun new _ => decide_eq_false fun same => long ?_
  rw [← same, Partition.keptName]
  split
  · assumption
  · exact Nat.zero_lt_succ 15

/-- A name that is new is found again exactly if its field has room for it. -/
theorem findsNew_iff {earlier : List Partition} {new : Partition}
    (room : earlier.length < MAX_PTABLE_PARTS) :
    FindsNew earlier new ↔ new.name.val.length < MAX_PTENTRY_NAME := by
  have before := ptableAddAll_init (Nat.le_of_lt room)
  have added : ptableAddAll asciiStrCpyS (earlier.map Partition.entry) [new] =
      .ok ((earlier ++ [new]).map Partition.entry) := by
    rw [ptableAddAll_eq (by rwa [List.length_map]), List.map_append]
  constructor
  · rintro ⟨ptable, after, first, second, found⟩
    obtain rfl := Except.ok.inj (before.symm.trans first)
    obtain rfl := Except.ok.inj (added.symm.trans second)
    by_contra long
    have named : new.name.val ≠ [] := by
      intro empty
      rw [empty] at long
      exact long (Nat.zero_lt_succ 15)
    have absent (calls : List Partition) : ptableFind (calls.map Partition.entry) new.name.val =
        .ok none := by
      rw [ptableFind_entries, firstNamed_of_long long, Option.map_none]
    have missing := (found named (absent earlier)).1
    rw [absent] at missing
    cases missing
  · intro short
    refine ⟨_, _, before, added, fun named absent => ?_⟩
    rw [ptableFind_entries, Except.ok.injEq, Option.map_eq_none_iff] at absent
    have place : partAt ((earlier ++ [new]).map Partition.entry)
        ((earlier.map Partition.entry).length : Nat) = some new.entry := by
      rw [partAt, if_pos (Int.natCast_nonneg _), Int.toNat_natCast, List.map_append,
        List.getElem?_append_right (Nat.le_refl _), Nat.sub_self, List.map_singleton,
        List.getElem?_cons_zero]
    refine ⟨?_, new.entry, place, rfl, rfl, rfl⟩
    rw [ptableFind_entries, firstNamed_append_singleton absent,
      if_pos ((new.keptName_eq_iff named).mpr short), Option.map_some, List.length_map]

/-- The table is a map exactly for indices from 0 on, and while the names fit. -/
theorem isMap_iff (calls : List Partition) (room : calls.length ≤ MAX_PTABLE_PARTS) (n : Int)
    (name : CString) :
    IsMap calls n name ↔
      0 ≤ n ∧ ∀ new ∈ calls, new.name.val.length < MAX_PTENTRY_NAME := by
  have before (earlier later : List Partition) (new : Partition)
      (split : calls = earlier ++ new :: later) : earlier.length < MAX_PTABLE_PARTS := by
    rw [split, List.length_append, List.length_cons] at room
    omega
  constructor
  · rintro ⟨ptable, added, gets, -, finds⟩
    obtain rfl := Except.ok.inj ((ptableAddAll_init room).symm.trans added)
    refine ⟨(getsAdded_iff n).mp gets, fun new member => ?_⟩
    obtain ⟨earlier, later, split⟩ := List.append_of_mem member
    exact (findsNew_iff (before earlier later new split)).mp (finds earlier new later split)
  · rintro ⟨natural, short⟩
    refine ⟨_, ptableAddAll_init room, (getsAdded_iff n).mpr natural, searchesAgree calls name,
      fun earlier new later split => (findsNew_iff (before earlier later new split)).mpr ?_⟩
    refine short new ?_
    rw [split]
    exact List.mem_append_right earlier List.mem_cons_self

/-- A partition of the name `"boot"`. -/
def bootPartition : Partition where
  name := ⟨[0x62, 0x6F, 0x6F, 0x74], by decide⟩
  start := 0x212
  length := 0x28
  flags := 0
  type := 0
  perm := 1

/-- A partition whose name has 16 characters. -/
def longPartition : Partition :=
  { bootPartition with name := ⟨List.replicate MAX_PTENTRY_NAME 0x61, by decide⟩ }

/-- A partition of the name `"userdata"`. -/
def userdataPartition : Partition where
  name := ⟨[0x75, 0x73, 0x65, 0x72, 0x64, 0x61, 0x74, 0x61], by decide⟩
  start := 0x23A
  length := 0x5C8
  flags := 0
  type := 0
  perm := 1

theorem isMap_iff_boot :
    let calls := [bootPartition, userdataPartition]
    calls.length ≤ MAX_PTABLE_PARTS ∧
      (IsMap calls 1 userdataPartition.name ↔
        0 ≤ (1 : Int) ∧ ∀ new ∈ calls, new.name.val.length < MAX_PTENTRY_NAME) ∧
      IsMap calls 1 userdataPartition.name :=
  have iff := isMap_iff [bootPartition, userdataPartition] (by decide) 1 userdataPartition.name
  ⟨by decide, iff, iff.mpr (by decide)⟩

/-- With one entry in use, -1 is taken for the index of an entry; and a name of 16
characters is not found after it was added. -/
theorem not_isMap :
    ¬ IsMap [bootPartition] (-1) bootPartition.name ∧
      ¬ IsMap [longPartition] 0 longPartition.name := by
  constructor
  · rintro ⟨ptable, added, gets, -⟩
    obtain rfl := Except.ok.inj ((ptableAddAll_init (by decide)).symm.trans added)
    exact absurd ((getsAdded_iff (-1)).mp gets) (by decide)
  · rintro ⟨ptable, -, -, -, finds⟩
    exact absurd ((findsNew_iff (by decide)).mp (finds [] longPartition [] rfl)) (by decide)

end HtcLeo.Smem
