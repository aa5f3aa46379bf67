import HtcLeo.ConSplitter.Table

/-!
# What the mode table says is so

Every platform console has the mode 40x12 in the first place and 80x50 or nothing in the
second one.  Of such consoles the table tells the truth: a mode of the splitter has the
same size on all of them, and every size that they share is offered.
-/

namespace HtcLeo.ConSplitter

open Grid

universe u

/-- The modes of a console of the platform. -/
structure Conventional (reported : List (Option TextSize)) : Prop where
  first : reported[0]? = some (some (40, 12))
  second : reported[1]? = some none ∨ reported[1]? = some (some (80, 50))
  others : ∀ mode, 2 ≤ mode → reported[mode]? ≠ some none
  proper : ∀ size, some size ∈ reported → size ≠ (0, 0)

/-- The modes of a console have different sizes. -/
def DistinctSizes (reported : List (Option TextSize)) : Prop :=
  ∀ (mode other : Nat) (size : TextSize), reported[mode]? = some (some size) →
    reported[other]? = some (some size) → mode = other

/-- The size of a row. -/
def rowSize (step : Nat) (queryData : Nat → TextSize) (map : Nat → Int) (row : Nat) : TextSize :=
  queryData (entry step map row 0).toNat

/-- An entry of a console for a row is a mode of the size of the row. -/
def Matches (reported : List (Option TextSize)) (size : TextSize) (number : Int) : Prop :=
  ∃ mode : Nat, number = mode ∧ reported[mode]? = some (some size)

/-- A row is right for some consoles, by what they report. -/
structure RightRow (step : Nat) (queryData : Nat → TextSize) (map : Nat → Int)
    (consoles : List (List (Option TextSize))) (row : Nat) : Prop where
  others : 2 ≤ row → 2 ≤ entry step map row 0
  sizes : 2 ≤ row → rowSize step queryData map row ≠ (0, 0)
  entries : rowSize step queryData map row ≠ (0, 0) →
    ∀ column reported, consoles[column]? = some reported →
      Matches reported (rowSize step queryData map row) (entry step map row column)
  fresh : ∀ column < step, consoles.length ≤ column → entry step map row column = -1

/-- The rows that count are right and in the order of the first console, and the first two begin
as they are reserved.  The second mode can be used if it is the second one of every console. -/
structure Truthful (step : Nat) (live : Nat → Prop) (queryData : Nat → TextSize) (map : Nat → Int)
    (consoles : List (List (Option TextSize))) : Prop where
  first : entry step map 0 0 = 0
  second : entry step map 1 0 = 1
  firstSize : queryData 0 = (40, 12)
  secondSize : queryData 1 =
    if ∀ reported ∈ consoles, reported[1]? = some (some (80, 50)) then (80, 50) else (0, 0)
  ascending : ∀ row later, live row → live later → row < later →
    entry step map row 0 < entry step map later 0
  rows : ∀ row, live row → RightRow step queryData map consoles row

/-- Every size that all consoles have is offered, but for the one of the second mode. -/
def Complete (step maxMode : Nat) (queryData : Nat → TextSize) (map : Nat → Int)
    (consoles : List (List (Option TextSize))) : Prop :=
  ∀ size, size ≠ (80, 50) → (∀ reported ∈ consoles, some size ∈ reported) →
    ∃ row < maxMode, rowSize step queryData map row = size

/-- Rows of one mode are the same. -/
theorem Truthful.differ {step row other : Nat} {live : Nat → Prop} {queryData : Nat → TextSize}
    {map : Nat → Int} {consoles : List (List (Option TextSize))}
    (truthful : Truthful step live queryData map consoles) (inside : live row)
    (other_inside : live other) (same : entry step map row 0 = entry step map other 0) :
    row = other := by
  rcases Nat.lt_trichotomy row other with before | equal | after
  · have apart := truthful.ascending row other inside other_inside before
    omega
  · exact equal
  · have apart := truthful.ascending other row other_inside inside after
    omega

/-- A row begins with its own number or a later one. -/
theorem Truthful.le_entry {step maxMode row : Nat} {queryData : Nat → TextSize} {map : Nat → Int}
    {consoles : List (List (Option TextSize))}
    (truthful : Truthful step (· < maxMode) queryData map consoles) (inside : row < maxMode) :
    (row : Int) ≤ entry step map row 0 := by
  induction row with
  | zero =>
      rw [truthful.first]
      exact Int.le_refl 0
  | succ row ih =>
      have before := ih (Nat.lt_of_succ_lt inside)
      have further := truthful.ascending row (row + 1) (Nat.lt_of_succ_lt inside) inside
        (Nat.lt_succ_self row)
      omega

/-! ## Rows that are taken out -/

section Rows

variable {step maxMode rows : Nat} {queryData : Nat → TextSize} {map after : Nat → Int}
  {consoles : List (List (Option TextSize))} {kept : Nat → Prop} [DecidablePred kept]

theorem rowSize_of_compacted (compacted : Compacted step maxMode kept map after)
    (some_step : 0 < step) {row : Nat} (inside : row < maxMode) (stays : kept row) :
    rowSize step queryData after (Nat.count kept row) = rowSize step queryData map row := by
  rw [rowSize, rowSize, compacted row inside stays 0 some_step]

theorem RightRow.compact {row : Nat} (right : RightRow step queryData map consoles row)
    (compacted : Compacted step maxMode kept map after) (some_step : 0 < step)
    (all : consoles.length ≤ step) (inside : row < maxMode) (stays : kept row) :
    RightRow step queryData after consoles (Nat.count kept row) := by
  have few : Nat.count kept row ≤ row := Nat.count_le _
  have same : rowSize step queryData after (Nat.count kept row) = rowSize step queryData map row :=
    rowSize_of_compacted compacted some_step inside stays
  constructor
  · intro high
    rw [compacted row inside stays 0 some_step]
    exact right.others (Nat.le_trans high few)
  · intro high
    rw [same]
    exact right.sizes (Nat.le_trans high few)
  · intro proper column reported listed
    have within : column < step :=
      Nat.lt_of_lt_of_le (List.getElem?_eq_some_iff.mp listed).1 all
    rw [same] at proper ⊢
    rw [compacted row inside stays column within]
    exact right.entries proper column reported listed
  · intro column within beyond
    rw [compacted row inside stays column within]
    exact right.fresh column within beyond

/-- A table is right when the rows that are not have been taken out. -/
theorem Truthful.compact
    (truthful : Truthful step (fun row => row < maxMode ∧ kept row) queryData map consoles)
    (compacted : Compacted step maxMode kept map after) (some_step : 0 < step)
    (all : consoles.length ≤ step) (reserved : 2 ≤ maxMode) (first : ∀ row < 2, kept row) :
    Truthful step (· < Nat.count kept maxMode) queryData after consoles where
  first := by
    have here := compacted 0 (Nat.lt_of_lt_of_le Nat.zero_lt_two reserved) (first 0 Nat.zero_lt_two)
      0 some_step
    rw [Nat.count_zero] at here
    exact here.trans truthful.first
  second := by
    have one : Nat.count kept 1 = 1 :=
      Nat.count_of_forall fun row low => first row (Nat.lt_succ_of_lt low)
    have here := compacted 1 reserved (first 1 Nat.one_lt_two) 0 some_step
    rw [one] at here
    exact here.trans truthful.second
  firstSize := truthful.firstSize
  secondSize := truthful.secondSize
  ascending place later inside later_inside before := by
    obtain ⟨row, bound, stays, rfl⟩ := exists_count_eq kept inside
    obtain ⟨later, later_bound, later_stays, rfl⟩ := exists_count_eq kept later_inside
    rw [compacted row bound stays 0 some_step, compacted later later_bound later_stays 0 some_step]
    apply truthful.ascending row later ⟨bound, stays⟩ ⟨later_bound, later_stays⟩
    rw [← Nat.not_le]
    exact fun after => Nat.not_le.mpr before (Nat.count_monotone kept after)
  rows place inside := by
    obtain ⟨row, bound, stays, rfl⟩ := exists_count_eq kept inside
    exact (truthful.rows row ⟨bound, stays⟩).compact compacted some_step all bound stays

end Rows

/-! ## Longer rows -/

section Widen

variable {step wide maxMode : Nat} {queryData : Nat → TextSize} {map grown : Nat → Int}
  {consoles others : List (List (Option TextSize))}

/-- A table with longer rows has the entries of the consoles that are there. -/
def Widened (step wide maxMode count : Nat) (map grown : Nat → Int) : Prop :=
  ∀ row < maxMode, ∀ column < wide, entry wide grown row column =
    if column < count then entry step map row column else -1

theorem Widened.first (widened : Widened step wide maxMode consoles.length map grown)
    (positive : 0 < consoles.length) (fits : consoles.length ≤ wide) {row : Nat}
    (inside : row < maxMode) : entry wide grown row 0 = entry step map row 0 := by
  rw [widened row inside 0 (Nat.lt_of_lt_of_le positive fits), if_pos positive]

theorem Widened.rowSize_eq (widened : Widened step wide maxMode consoles.length map grown)
    (positive : 0 < consoles.length) (fits : consoles.length ≤ wide) {row : Nat}
    (inside : row < maxMode) :
    rowSize wide queryData grown row = rowSize step queryData map row := by
  rw [rowSize, rowSize, widened.first positive fits inside]

theorem Truthful.widen (truthful : Truthful step (· < maxMode) queryData map consoles)
    (widened : Widened step wide maxMode consoles.length map grown)
    (positive : 0 < consoles.length) (fits : consoles.length ≤ wide) (reserved : 2 ≤ maxMode) :
    Truthful wide (· < maxMode) queryData grown consoles where
  first := by
    rw [widened.first positive fits (Nat.lt_of_lt_of_le Nat.zero_lt_two reserved)]
    exact truthful.first
  second := by
    rw [widened.first positive fits reserved]
    exact truthful.second
  firstSize := truthful.firstSize
  secondSize := truthful.secondSize
  ascending row later inside later_inside before := by
    rw [widened.first positive fits inside, widened.first positive fits later_inside]
    exact truthful.ascending row later inside later_inside before
  rows row inside := by
    have right := truthful.rows row inside
    have same := @Widened.rowSize_eq _ _ _ queryData _ _ _ widened positive fits _ inside
    constructor
    · intro high
      rw [widened.first positive fits inside]
      exact right.others high
    · intro high
      rw [same]
      exact right.sizes high
    · intro proper column reported listed
      have bound := (List.getElem?_eq_some_iff.mp listed).1
      rw [same] at proper ⊢
      rw [widened row inside column (Nat.lt_of_lt_of_le bound fits), if_pos bound]
      exact right.entries proper column reported listed
    · intro column within beyond
      rw [widened row inside column within, if_neg (Nat.not_lt.mpr beyond)]

theorem Complete.widen (complete : Complete step maxMode queryData map others)
    (widened : Widened step wide maxMode consoles.length map grown)
    (positive : 0 < consoles.length) (fits : consoles.length ≤ wide) :
    Complete wide maxMode queryData grown others := by
  intro size apart shared
  obtain ⟨row, inside, sized⟩ := complete size apart shared
  exact ⟨row, inside, (widened.rowSize_eq positive fits inside).trans sized⟩

end Widen

/-! ## The first console -/

section First

variable {step mode : Nat} {reported rest : List (Option TextSize)}
  {queryData : Nat → TextSize} {map : Nat → Int}

/-- What the first console's modes leave in the data and in the table. -/
structure Added (step : Nat) (reported : List (Option TextSize)) (mode : Nat)
    (data : (Nat → TextSize) × (Nat → Int)) : Prop where
  size : ∀ earlier < mode, ∀ size, reported[earlier]? = some (some size) → data.1 earlier = size
  second : 1 < mode → reported[1]? = some none → data.1 1 = (0, 0)
  number : ∀ earlier < mode, entry step data.2 earlier 0 = earlier
  fresh : ∀ row column, column < step → 0 < column → entry step data.2 row column = -1

theorem storeSize_of_ne {other : Nat} (apart : other ≠ mode) (head : Option TextSize) :
    TextOutSplitter.storeSize mode head queryData other = queryData other := by
  cases head with
  | some size => exact Function.update_of_ne apart _ _
  | none =>
      simp only [TextOutSplitter.storeSize]
      split
      · exact Function.update_of_ne apart _ _
      · rfl

theorem Added.next (some_step : 0 < step) (added : Added step reported mode (queryData, map))
    {head : Option TextSize} (found : reported[mode]? = some head) :
    Added step reported (mode + 1)
      (TextOutSplitter.storeSize mode head queryData,
        Function.update map (mode * step) (mode : Int)) := by
  have updated (row column : Nat) (inside : column < step) :
      entry step (Function.update map (mode * step) (mode : Int)) row column =
        if row = mode ∧ column = 0 then (mode : Int) else entry step map row column :=
    entry_update inside some_step
  constructor
  · intro earlier before size known
    rcases Nat.lt_succ_iff_lt_or_eq.mp before with before | rfl
    · exact (storeSize_of_ne (Nat.ne_of_lt before) head).trans
        (added.size earlier before size known)
    · rw [known] at found
      obtain rfl := Option.some.inj found
      simp [TextOutSplitter.storeSize]
  · intro beyond missing
    rcases Nat.lt_succ_iff_lt_or_eq.mp beyond with before | rfl
    · exact (storeSize_of_ne (Nat.ne_of_lt before) head).trans (added.second before missing)
    · rw [missing] at found
      obtain rfl := Option.some.inj found
      simp [TextOutSplitter.storeSize]
  · intro earlier before
    rw [updated earlier 0 some_step]
    split
    · next here => rw [here.1]
    · next apart => exact added.number earlier (by omega)
  · intro row column inside positive
    rw [updated row column inside, if_neg fun both => Nat.ne_of_gt positive both.2]
    exact added.fresh row column inside positive

theorem Added.addModes (some_step : 0 < step) (added : Added step reported mode (queryData, map))
    (others : rest = reported.drop mode) (inside : mode ≤ reported.length) :
    Added step reported reported.length
      (TextOutSplitter.addModes step rest mode (queryData, map)) := by
  induction rest generalizing mode queryData map with
  | nil =>
      have last : mode = reported.length :=
        Nat.le_antisymm inside (List.drop_eq_nil_iff.mp others.symm)
      rw [last] at added
      exact added
  | cons head rest ih =>
      have found : reported[mode]? = some head := by
        rw [← List.head?_drop, ← others, List.head?_cons]
      have before : mode < reported.length := (List.getElem?_eq_some_iff.mp found).1
      refine ih (added.next some_step found) ?_ before
      rw [← List.tail_drop, ← others, List.tail_cons]

/-- The first console alone makes a table that is right and offers all it has. -/
theorem Added.truthful {data : (Nat → TextSize) × (Nat → Int)}
    (conventional : Conventional reported) (added : Added step reported reported.length data) :
    Truthful step (· < reported.length) data.1 data.2 [reported] ∧
      Complete step reported.length data.1 data.2 [reported] ∧ 2 ≤ reported.length := by
  have two : 2 ≤ reported.length := by
    rcases conventional.second with second | second
    · exact (List.getElem?_eq_some_iff.mp second).1
    · exact (List.getElem?_eq_some_iff.mp second).1
  have sized (row : Nat) (inside : row < reported.length) :
      rowSize step data.1 data.2 row = data.1 row := by
    rw [rowSize, added.number row inside, Int.toNat_natCast]
  have secondSize : reported[1]? = some none ∧ data.1 1 = (0, 0) ∨
      reported[1]? = some (some (80, 50)) ∧ data.1 1 = (80, 50) := by
    rcases conventional.second with missing | second
    · exact .inl ⟨missing, added.second two missing⟩
    · exact .inr ⟨second, added.size 1 two _ second⟩
  -- A mode that is not reported is the second one.
  have known (row : Nat) (inside : row < reported.length) :
      reported[row]? = some (some (data.1 row)) ∨ row = 1 ∧ data.1 row = (0, 0) := by
    obtain ⟨entry, found⟩ : ∃ entry, reported[row]? = some entry :=
      ⟨_, List.getElem?_eq_getElem inside⟩
    cases entry with
    | some size => exact .inl (by rw [found, added.size row inside size found])
    | none =>
        rcases Nat.lt_or_ge row 2 with low | high
        · rcases Nat.lt_succ_iff_lt_or_eq.mp low with zero | rfl
          · obtain rfl : row = 0 := by omega
            rw [conventional.first] at found
            cases found
          · exact .inr ⟨rfl, added.second two found⟩
        · exact absurd found (conventional.others row high)
  refine ⟨?_, ?_, two⟩
  · constructor
    · exact added.number 0 (by omega)
    · exact added.number 1 two
    · exact added.size 0 (by omega) _ conventional.first
    · rcases secondSize with ⟨missing, zero⟩ | ⟨second, large⟩
      · simp [missing, zero]
      · simp [second, large]
    · intro row later inside later_inside before
      rw [added.number row inside, added.number later later_inside]
      omega
    · intro row inside
      constructor
      · intro high
        rw [added.number row inside]
        omega
      · intro high
        rw [sized row inside]
        rcases known row inside with found | ⟨rfl, -⟩
        · exact conventional.proper _ (List.mem_of_getElem? found)
        · omega
      · intro proper column other listed
        rw [sized row inside] at proper ⊢
        rcases known row inside with found | ⟨rfl, zero⟩
        · cases column with
          | zero =>
              obtain rfl := Option.some.inj listed
              exact ⟨row, added.number row inside, found⟩
          | succ column => cases listed
        · exact absurd zero proper
      · intro column within beyond
        exact added.fresh row column within beyond
  · intro size _ shared
    obtain ⟨row, inside, found⟩ :=
      List.getElem_of_mem (shared reported (List.mem_singleton_self _))
    refine ⟨row, inside, ?_⟩
    rw [sized row inside]
    exact added.size row inside size (List.getElem?_eq_some_iff.mpr ⟨inside, found⟩)

end First

end HtcLeo.ConSplitter
