import HtcLeo.ConSplitter.Changes

/-!
# Two splitters

`ConOut` and `StdErr` are two splitters.  When the driver finds a console that is in both,
it takes the modes that the other one does not have out of both tables.  Whatever comes and
goes, both tables stay right.
-/

namespace HtcLeo.ConSplitter

open Grid TextOutSplitter

universe u

/-- `mConOut` and `mStdErr`. -/
structure Splitters (δ : Type u) where
  conOut : TextOutSplitter δ
  stdErr : TextOutSplitter δ

section Code

variable {δ : Type u}

/-- The inner loop of the search: so many places of `StdErr` from one on. -/
def searchStdErr [DecidableEq δ] (read : Nat → δ) (textOut : δ) : Nat → Nat → Bool × Nat
  | 0, place => (false, place)
  | left + 1, place =>
      if textOut = read place then (true, place) else searchStdErr read textOut left (place + 1)

/-- The search for a console of both.  The place in the list of `StdErr` is not set back for
the next console of `ConOut`. -/
def foundTheSameTextOut [DecidableEq δ] (read : Nat → δ) (count : Nat) : List δ → Nat → Bool
  | [], _ => false
  | textOut :: rest, place =>
      let searched := searchStdErr read textOut count place
      if searched.1 then true else foundTheSameTextOut read count rest searched.2

/-- The memory from the list of `StdErr` on. -/
def readList (list : List δ) (beyond : Nat → δ) (place : Nat) : δ :=
  list.getD place (beyond place)

/-- The loop over so many modes of `ConOut` that marks a mode, and the one of `StdErr` that is
found for it. -/
def markModes (find : Nat → Option Nat) (maxMode : Nat) : (Nat → Int) × (Nat → Int) :=
  (List.range maxMode).foldl
    (fun tables mode =>
      match find mode with
      | none => tables
      | some index => (Function.update tables.1 mode 1, Function.update tables.2 index 1))
    (fun _ => -1, fun _ => -1)

/-- The maps of the modes that both have, for the table of `ConOut` and the one of
`StdErr`. -/
def sharedModes (splitters : Splitters δ) (conOutMap stdErrMap : Nat → Int) :
    (Nat → Int) × (Nat → Int) :=
  markModes
    (fun mode => findMode splitters.stdErr.textOutListCount splitters.stdErr.textOutMode.maxMode
      (splitters.conOut.textOutQueryData
        (conOutMap (mode * splitters.conOut.textOutListCount)).toNat)
      splitters.stdErr.textOutQueryData stdErrMap)
    splitters.conOut.textOutMode.maxMode

/-- The mode 0 is set when the current mode has been taken out. -/
def TextOutSplitter.recover (splitter : TextOutSplitter δ) : TextOutSplitter δ :=
  if splitter.textOutMode.mode < 0 then
    { splitter with textOutMode := splitter.textOutMode.set 0 }
  else splitter

/-- `ConSplitterGetIntersectionBetweenConOutAndStrErr`, for the memory behind the list of
`StdErr`. -/
def getIntersectionBetweenConOutAndStdErr [DecidableEq δ] (beyond : Nat → δ)
    (splitters : Splitters δ) : Splitters δ :=
  if foundTheSameTextOut (readList splitters.stdErr.textOutList beyond)
      splitters.stdErr.currentNumberOfConsoles splitters.conOut.textOutList 0 then
    match splitters.conOut.textOutModeMap, splitters.stdErr.textOutModeMap with
    | some conOutMap, some stdErrMap =>
        let tables := sharedModes splitters conOutMap stdErrMap
        { conOut := (splitters.conOut.restrict fun _ index => tables.1 index).recover
          stdErr := (splitters.stdErr.restrict fun _ index => tables.2 index).recover }
    | _, _ => splitters
  else splitters

/-- What can happen to a splitter. -/
inductive Change (δ : Type u) where
  | connect (textOut : δ)
  | disconnect (index : Nat)

/-- A console comes, or one of the list goes. -/
def TextOutSplitter.change (modes : δ → List (Option TextSize)) (splitter : TextOutSplitter δ) :
    Change δ → TextOutSplitter δ
  | .connect textOut => splitter.attach modes textOut
  | .disconnect index => splitter.detach modes index

/-- The splitter after a list of changes. -/
def TextOutSplitter.changes (modes : δ → List (Option TextSize)) (splitter : TextOutSplitter δ)
    (changes : List (Change δ)) : TextOutSplitter δ :=
  changes.foldl (TextOutSplitter.change modes) splitter

/-- What can happen to both.  The driver looks for a console of both after a change, for the
memory that there is then.  Calls leave a mode data, with as many modes as before. -/
inductive Event (δ : Type u) where
  | conOut (change : Change δ)
  | stdErr (change : Change δ)
  | intersect (beyond : Nat → δ)
  | call (conOut stdErr : TextOutMode)

/-- Both splitters after one event. -/
def Splitters.step [DecidableEq δ] (modes : δ → List (Option TextSize))
    (splitters : Splitters δ) : Event δ → Splitters δ
  | .conOut change => { splitters with conOut := splitters.conOut.change modes change }
  | .stdErr change => { splitters with stdErr := splitters.stdErr.change modes change }
  | .intersect beyond => getIntersectionBetweenConOutAndStdErr beyond splitters
  | .call conOut stdErr =>
      { conOut := { splitters.conOut with
          textOutMode := { conOut with maxMode := splitters.conOut.textOutMode.maxMode } }
        stdErr := { splitters.stdErr with
          textOutMode := { stdErr with maxMode := splitters.stdErr.textOutMode.maxMode } } }

/-- Both splitters before the first console. -/
def Splitters.constructed (δ : Type u) : Splitters δ :=
  ⟨TextOutSplitter.constructed δ, TextOutSplitter.constructed δ⟩

end Code

/-! ## The search -/

section Search

variable {δ : Type u} [DecidableEq δ] {read : Nat → δ} {textOut : δ}

theorem searchStdErr_spec (left place : Nat) :
    (searchStdErr read textOut left place = (false, place + left) ∧
        ∀ other < left, textOut ≠ read (place + other)) ∨
      ((searchStdErr read textOut left place).1 = true ∧
        ∃ other < left, textOut = read (place + other)) := by
  induction left generalizing place with
  | zero => exact .inl ⟨rfl, fun other before => absurd before (Nat.not_lt_zero _)⟩
  | succ left ih =>
      rw [searchStdErr]
      split
      · next here => exact .inr ⟨rfl, 0, Nat.succ_pos _, here⟩
      · next apart =>
          rcases ih (place + 1) with ⟨missed, none⟩ | ⟨found, other, before, here⟩
          · refine .inl ⟨?_, fun other before => ?_⟩
            · rw [missed, Nat.add_right_comm, Nat.add_assoc]
            · cases other with
              | zero => exact apart
              | succ other =>
                  have later := none other (Nat.lt_of_succ_lt_succ before)
                  rwa [Nat.add_assoc, Nat.add_comm 1] at later
          · refine .inr ⟨found, other + 1, Nat.succ_lt_succ before, ?_⟩
            rwa [Nat.add_assoc, Nat.add_comm 1] at here

theorem foundTheSameTextOut_iff {count : Nat} {list : List δ} {place : Nat} :
    foundTheSameTextOut read count list place = true ↔
      ∃ first textOut, list[first]? = some textOut ∧
        ∃ other < count, textOut = read (place + first * count + other) := by
  induction list generalizing place with
  | nil =>
      constructor
      · intro found
        cases found
      · rintro ⟨first, textOut, listed, -⟩
        cases listed
  | cons head rest ih =>
      rw [foundTheSameTextOut]
      rcases @searchStdErr_spec _ _ read head count place with
        ⟨missed, none⟩ | ⟨found, other, before, here⟩
      · rw [missed, if_neg Bool.false_ne_true, ih]
        constructor
        · rintro ⟨first, textOut, listed, other, before, here⟩
          refine ⟨first + 1, textOut, listed, other, before, ?_⟩
          rwa [Nat.succ_mul, Nat.add_comm (first * count), ← Nat.add_assoc]
        · rintro ⟨first, textOut, listed, other, before, here⟩
          cases first with
          | zero =>
              obtain rfl := Option.some.inj listed
              rw [Nat.zero_mul, Nat.add_zero] at here
              exact absurd here (none other before)
          | succ first =>
              refine ⟨first, textOut, listed, other, before, ?_⟩
              rwa [Nat.succ_mul, Nat.add_comm (first * count), ← Nat.add_assoc] at here
      · rw [if_pos found]
        refine ⟨fun _ => ⟨0, head, rfl, other, before, ?_⟩, fun _ => rfl⟩
        rwa [Nat.zero_mul, Nat.add_zero]

end Search

/-! ## The modes of both -/

section Modes

theorem markModes_spec (find : Nat → Option Nat) (maxMode : Nat) :
    (∀ mode, (markModes find maxMode).1 mode ≠ -1 ↔ mode < maxMode ∧ (find mode).isSome) ∧
      ∀ index, (markModes find maxMode).2 index ≠ -1 ↔
        ∃ mode < maxMode, find mode = some index := by
  induction maxMode with
  | zero => simp [markModes]
  | succ maxMode ih =>
      obtain ⟨rows, columns⟩ := ih
      rw [markModes] at rows columns ⊢
      rw [List.range_succ, List.foldl_append, List.foldl_cons, List.foldl_nil]
      cases found : find maxMode with
      | none =>
          constructor
          · intro mode
            rw [rows mode, Nat.lt_succ_iff_lt_or_eq]
            by_cases same : mode = maxMode <;> simp [same, found]
          · intro index
            rw [columns index, Nat.exists_lt_succ_right, found]
            simp
      | some place =>
          constructor
          · intro mode
            by_cases same : mode = maxMode
            · simp [same, found]
            · dsimp only
              rw [Function.update_of_ne same, rows mode, Nat.lt_succ_iff_lt_or_eq]
              simp [same]
          · intro index
            by_cases same : index = place
            · simp only [same, Function.update_self]
              exact iff_of_true (by decide) ⟨maxMode, Nat.lt_succ_self _, found⟩
            · dsimp only
              rw [Function.update_of_ne same, columns index, Nat.exists_lt_succ_right, found]
              simp [Ne.symm same]

end Modes

/-! ## What both offer -/

section Both

variable {δ : Type u} {modes : δ → List (Option TextSize)} {splitter : TextOutSplitter δ}
  {map : Nat → Int} {size : TextSize}

/-- A row of the table has the size. -/
def TextOutSplitter.HasSize (splitter : TextOutSplitter δ) (size : TextSize) : Prop :=
  ∃ map, splitter.textOutModeMap = some map ∧ ∃ row < splitter.textOutMode.maxMode,
    rowSize splitter.textOutListCount splitter.textOutQueryData map row = size

/-- The rows that stay in the intersection with a marked map. -/
abbrev Marked (other : Nat → Int) (map : Nat → Int) : Nat → Prop :=
  Kept (fun _ index => other index) map

theorem restrict_right (right : Right modes splitter) (listed : splitter.textOutList ≠ [])
    (other : Nat → Int) : Right modes (splitter.restrict fun _ index => other index) := by
  obtain ⟨reserved, map, present, truthful⟩ := right.table listed
  obtain ⟨compacted, counted, -⟩ := @getIntersection_spec splitter.textOutListCount
    (fun _ index => other index) (fun _ _ _ _ => rfl) map _ reserved splitter.textOutMode.mode
  have first : ∀ row < 2, Marked other map row := fun row low => .inl low
  have fits : (splitter.textOutList.map modes).length ≤ splitter.textOutListCount := by
    rw [List.length_map]
    exact right.room
  have tabled : (splitter.restrict fun _ index => other index).Tabled
      (splitter.textOutList.map modes) := by
    rw [restrict_eq present]
    refine ⟨?_, _, rfl, ?_⟩
    · dsimp only
      rw [counted, ← Nat.count_of_forall first]
      exact Nat.count_monotone _ reserved
    · dsimp only
      rw [counted]
      have live : Truthful splitter.textOutListCount
          (fun row => row < splitter.textOutMode.maxMode ∧ Marked other map row)
          splitter.textOutQueryData map (splitter.textOutList.map modes) :=
        { truthful with
          ascending row later inside later_inside :=
            truthful.ascending row later inside.1 later_inside.1
          rows row inside := truthful.rows row inside.1 }
      exact live.compact compacted right.some_step fits reserved first
  apply right_of_tabled
  · simp only [restrict_textOutList, restrict_currentNumberOfConsoles, right.number]
  · simpa only [restrict_textOutList] using listed
  · simpa only [restrict_textOutList, restrict_textOutListCount] using right.room
  · simpa only [restrict_textOutList] using tabled

/-- The sizes that an intersection leaves. -/
theorem restrict_hasSize (reserved : 2 ≤ splitter.textOutMode.maxMode)
    (some_step : 0 < splitter.textOutListCount) (present : splitter.textOutModeMap = some map)
    (other : Nat → Int) : (splitter.restrict fun _ index => other index).HasSize size ↔
      ∃ row < splitter.textOutMode.maxMode, Marked other map row ∧
        rowSize splitter.textOutListCount splitter.textOutQueryData map row = size := by
  obtain ⟨compacted, counted, -⟩ := @getIntersection_spec splitter.textOutListCount
    (fun _ index => other index) (fun _ _ _ _ => rfl) map _ reserved splitter.textOutMode.mode
  rw [restrict_eq present, HasSize]
  constructor
  · rintro ⟨after, found, place, inside, sized⟩
    obtain rfl := Option.some.inj found
    dsimp only at inside sized
    rw [counted] at inside
    obtain ⟨row, bound, stays, rfl⟩ := exists_count_eq (Marked other map) inside
    rw [rowSize_of_compacted compacted some_step bound stays] at sized
    exact ⟨row, bound, stays, sized⟩
  · rintro ⟨row, bound, stays, sized⟩
    refine ⟨_, rfl, Nat.count (Marked other map) row, ?_, ?_⟩
    · dsimp only
      rw [counted]
      exact Nat.count_strict_mono stays bound
    · exact (rowSize_of_compacted compacted some_step bound stays).trans sized

theorem recover_hasSize : splitter.recover.HasSize size ↔ splitter.HasSize size := by
  rw [recover]
  split <;> rfl

theorem recover_right (right : Right modes splitter) : Right modes splitter.recover := by
  rw [recover]
  split
  · exact ⟨right.number, right.some_step, right.room, right.empty, right.table⟩
  · exact right

end Both

/-! ## The intersection -/

section Intersection

variable {δ : Type u} {modes : δ → List (Option TextSize)} {splitters : Splitters δ}
  {conOutMap stdErrMap : Nat → Int} {size : TextSize}

/-- Of the first two rows, only the first has a size that is neither none nor 80x50. -/
theorem Truthful.eq_zero {step maxMode row : Nat} {queryData : Nat → TextSize} {map : Nat → Int}
    {consoles : List (List (Option TextSize))}
    (truthful : Truthful step (· < maxMode) queryData map consoles) (low : row < 2)
    (proper : size ≠ (0, 0)) (other : size ≠ (80, 50))
    (sized : rowSize step queryData map row = size) : row = 0 ∧ size = (40, 12) := by
  have apart : row ≠ 1 := truthful.ne_one proper other sized
  obtain rfl : row = 0 := by omega
  exact ⟨rfl, sized.symm.trans truthful.rowSize_zero⟩

/-- Both splitters offer what both had. -/
theorem sharedModes_hasSize (conOut : Right modes splitters.conOut)
    (stdErr : Right modes splitters.stdErr) (listed : splitters.conOut.textOutList ≠ [])
    (other_listed : splitters.stdErr.textOutList ≠ [])
    (present : splitters.conOut.textOutModeMap = some conOutMap)
    (other_present : splitters.stdErr.textOutModeMap = some stdErrMap)
    (proper : size ≠ (0, 0)) (other : size ≠ (80, 50)) :
    ((splitters.conOut.restrict fun _ index =>
        (sharedModes splitters conOutMap stdErrMap).1 index).HasSize size ↔
      splitters.conOut.HasSize size ∧ splitters.stdErr.HasSize size) ∧
    ((splitters.stdErr.restrict fun _ index =>
        (sharedModes splitters conOutMap stdErrMap).2 index).HasSize size ↔
      splitters.conOut.HasSize size ∧ splitters.stdErr.HasSize size) := by
  obtain ⟨reserved, map, found, truthful⟩ := conOut.table listed
  obtain rfl := Option.some.inj (present.symm.trans found)
  obtain ⟨other_reserved, map, found, other_truthful⟩ := stdErr.table other_listed
  obtain rfl := Option.some.inj (other_present.symm.trans found)
  obtain ⟨rows, columns⟩ := markModes_spec
    (fun mode => findMode splitters.stdErr.textOutListCount splitters.stdErr.textOutMode.maxMode
      (rowSize splitters.conOut.textOutListCount splitters.conOut.textOutQueryData conOutMap mode)
      splitters.stdErr.textOutQueryData stdErrMap)
    splitters.conOut.textOutMode.maxMode
  rw [restrict_hasSize reserved conOut.some_step present,
    restrict_hasSize other_reserved stdErr.some_step other_present]
  constructor
  · constructor
    · rintro ⟨row, inside, low | marked, sized⟩
      · obtain ⟨rfl, rfl⟩ := truthful.eq_zero low proper other sized
        exact ⟨⟨conOutMap, present, 0, inside, sized⟩, stdErrMap, other_present, 0, by omega,
          other_truthful.rowSize_zero⟩
      · obtain ⟨index, known⟩ := Option.isSome_iff_exists.mp ((rows row).mp marked).2
        obtain ⟨bound, here, -⟩ := findMode_some known
        exact ⟨⟨conOutMap, present, row, inside, sized⟩, stdErrMap, other_present, index, bound,
          here.trans sized⟩
    · rintro ⟨⟨map, found, row, inside, sized⟩, other_map, other_found, index, bound, here⟩
      obtain rfl := Option.some.inj (present.symm.trans found)
      obtain rfl := Option.some.inj (other_present.symm.trans other_found)
      refine ⟨row, inside, .inr ((rows row).mpr ⟨inside, ?_⟩), sized⟩
      rw [Option.isSome_iff_ne_none]
      intro missing
      exact findMode_none missing bound (here.trans sized.symm)
  · constructor
    · rintro ⟨index, bound, low | marked, here⟩
      · obtain ⟨rfl, rfl⟩ := other_truthful.eq_zero low proper other here
        exact ⟨⟨conOutMap, present, 0, by omega, truthful.rowSize_zero⟩, stdErrMap, other_present,
          0, bound, here⟩
      · obtain ⟨row, inside, known⟩ := (columns index).mp marked
        exact ⟨⟨conOutMap, present, row, inside, (findMode_some known).2.1.symm.trans here⟩,
          stdErrMap, other_present, index, bound, here⟩
    · rintro ⟨⟨map, found, row, inside, sized⟩, other_map, other_found, index, bound, here⟩
      obtain rfl := Option.some.inj (present.symm.trans found)
      obtain rfl := Option.some.inj (other_present.symm.trans other_found)
      cases known : findMode splitters.stdErr.textOutListCount
          splitters.stdErr.textOutMode.maxMode
          (rowSize splitters.conOut.textOutListCount splitters.conOut.textOutQueryData conOutMap
            row)
          splitters.stdErr.textOutQueryData stdErrMap with
      | none => exact absurd (here.trans sized.symm) (findMode_none known bound)
      | some first =>
          obtain ⟨within, same, -⟩ := findMode_some known
          exact ⟨first, within, .inr ((columns first).mpr ⟨row, inside, known⟩),
            same.trans sized⟩

variable [DecidableEq δ] {beyond : Nat → δ}

/-- Both splitters have consoles when the search finds one. -/
theorem listed_of_found (number : splitters.stdErr.currentNumberOfConsoles =
      splitters.stdErr.textOutList.length)
    (found : foundTheSameTextOut (readList splitters.stdErr.textOutList beyond)
      splitters.stdErr.currentNumberOfConsoles splitters.conOut.textOutList 0 = true) :
    splitters.conOut.textOutList ≠ [] ∧ splitters.stdErr.textOutList ≠ [] := by
  obtain ⟨first, textOut, listed, other, before, -⟩ := foundTheSameTextOut_iff.mp found
  constructor
  · intro none
    rw [none] at listed
    cases listed
  · intro none
    rw [number, none] at before
    exact absurd before (Nat.not_lt_zero _)

/-- Then both splitters have a table of their modes. -/
theorem exists_map_of_found (conOut : Right modes splitters.conOut)
    (stdErr : Right modes splitters.stdErr)
    (found : foundTheSameTextOut (readList splitters.stdErr.textOutList beyond)
      splitters.stdErr.currentNumberOfConsoles splitters.conOut.textOutList 0 = true) :
    ∃ conOutMap stdErrMap, splitters.conOut.textOutModeMap = some conOutMap ∧
      splitters.stdErr.textOutModeMap = some stdErrMap := by
  obtain ⟨listed, other_listed⟩ := listed_of_found stdErr.number found
  obtain ⟨-, conOutMap, present, -⟩ := conOut.table listed
  obtain ⟨-, stdErrMap, other_present, -⟩ := stdErr.table other_listed
  exact ⟨conOutMap, stdErrMap, present, other_present⟩

theorem getIntersectionBetween_right (conOut : Right modes splitters.conOut)
    (stdErr : Right modes splitters.stdErr) :
    Right modes (getIntersectionBetweenConOutAndStdErr beyond splitters).conOut ∧
      Right modes (getIntersectionBetweenConOutAndStdErr beyond splitters).stdErr := by
  rw [getIntersectionBetweenConOutAndStdErr]
  split
  · next found =>
      obtain ⟨listed, other_listed⟩ := listed_of_found stdErr.number found
      split
      · exact ⟨recover_right (restrict_right conOut listed _),
          recover_right (restrict_right stdErr other_listed _)⟩
      · exact ⟨conOut, stdErr⟩
  · exact ⟨conOut, stdErr⟩

/-- After the search has found a console of both, both offer the same sizes, and these are the
ones that both offered before. -/
theorem getIntersectionBetween_hasSize (conOut : Right modes splitters.conOut)
    (stdErr : Right modes splitters.stdErr)
    (found : foundTheSameTextOut (readList splitters.stdErr.textOutList beyond)
      splitters.stdErr.currentNumberOfConsoles splitters.conOut.textOutList 0 = true)
    (proper : size ≠ (0, 0)) (other : size ≠ (80, 50)) :
    ((getIntersectionBetweenConOutAndStdErr beyond splitters).conOut.HasSize size ↔
        splitters.conOut.HasSize size ∧ splitters.stdErr.HasSize size) ∧
      ((getIntersectionBetweenConOutAndStdErr beyond splitters).stdErr.HasSize size ↔
        splitters.conOut.HasSize size ∧ splitters.stdErr.HasSize size) := by
  obtain ⟨listed, other_listed⟩ := listed_of_found stdErr.number found
  obtain ⟨conOutMap, stdErrMap, present, other_present⟩ := exists_map_of_found conOut stdErr found
  rw [getIntersectionBetweenConOutAndStdErr, if_pos found]
  simp only [present, other_present, recover_hasSize]
  exact sharedModes_hasSize conOut stdErr listed other_listed present other_present proper other

end Intersection

end HtcLeo.ConSplitter
