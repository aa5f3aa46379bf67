import HtcLeo.ConSplitter.Coherent

/-!
# Another console

The modes of another console are entered one after the other, and then the rows without an
entry are taken out.  What is right before for the other consoles is right afterwards for
all of them.
-/

namespace HtcLeo.ConSplitter

open Grid TextOutSplitter

/-- The data in the middle of the modes of another console. -/
structure Syncing (step maxMode column : Nat) (reported : List (Option TextSize))
    (queryData : Nat → TextSize) (map : Nat → Int) (mode : Nat)
    (data : (Nat → TextSize) × (Nat → Int)) : Prop where
  others : ∀ row other, other < step → other ≠ column →
    entry step data.2 row other = entry step map row other
  sizes : ∀ number, number ≠ 1 → data.1 number = queryData number
  second : data.1 1 = if 1 < mode ∧ reported[1]? = some none then (0, 0) else queryData 1
  entries : ∀ row < maxMode, rowSize step data.1 data.2 row ≠ (0, 0) →
    entry step data.2 row column = -1 ∨
      Matches reported (rowSize step data.1 data.2 row) (entry step data.2 row column)
  found : ∀ earlier < mode, ∀ size, reported[earlier]? = some (some size) → size ≠ (80, 50) →
    (∃ row < maxMode, rowSize step queryData map row = size) →
      ∃ row < maxMode, rowSize step queryData map row = size ∧ entry step data.2 row column ≠ -1
  zero : 0 < mode → entry step data.2 0 column ≠ -1
  one : 1 < mode → reported[1]? = some (some (80, 50)) → queryData 1 = (80, 50) →
    entry step data.2 1 column ≠ -1

section Sync

variable {step maxMode column mode : Nat} {reported rest : List (Option TextSize)}
  {queryData sizes : Nat → TextSize} {map now : Nat → Int}
  {consoles : List (List (Option TextSize))} {size : TextSize} {row : Nat}

/-- The sizes of the first two rows. -/
theorem Truthful.rowSize_zero (truthful : Truthful step (· < maxMode) queryData map consoles) :
    rowSize step queryData map 0 = (40, 12) := by
  rw [rowSize, truthful.first]
  exact truthful.firstSize

theorem Truthful.rowSize_one (truthful : Truthful step (· < maxMode) queryData map consoles) :
    rowSize step queryData map 1 = queryData 1 := by
  rw [rowSize, truthful.second]
  rfl

theorem Truthful.secondSize_or (truthful : Truthful step (· < maxMode) queryData map consoles) :
    queryData 1 = (0, 0) ∨ queryData 1 = (80, 50) := by
  rw [truthful.secondSize]
  split
  · exact .inr rfl
  · exact .inl rfl

/-- Only the second row has the size 80x50 for itself or no size. -/
theorem Truthful.ne_one (truthful : Truthful step (· < maxMode) queryData map consoles)
    (proper : size ≠ (0, 0)) (other : size ≠ (80, 50))
    (sized : rowSize step queryData map row = size) : row ≠ 1 := by
  rintro rfl
  rw [truthful.rowSize_one] at sized
  rcases truthful.secondSize_or with none | large
  · exact proper (sized.symm.trans none)
  · exact other (sized.symm.trans large)

/-- Only the second row begins with the second mode. -/
theorem Truthful.first_ne_one (truthful : Truthful step (· < maxMode) queryData map consoles)
    (inside : row < maxMode) (other : row ≠ 1) : (entry step map row 0).toNat ≠ 1 := by
  rcases Nat.lt_or_ge row 2 with low | high
  · obtain rfl : row = 0 := by omega
    rw [truthful.first]
    decide
  · have beyond := (truthful.rows row inside).others high
    omega

theorem Syncing.start (fresh : ∀ row < maxMode, entry step map row column = -1) :
    Syncing step maxMode column reported queryData map 0 (queryData, map) where
  others _ _ _ _ := rfl
  sizes _ _ := rfl
  second := (if_neg fun both => Nat.not_lt_zero _ both.1).symm
  entries row inside _ := .inl (fresh row inside)
  found _ before := absurd before (Nat.not_lt_zero _)
  zero before := absurd before (Nat.lt_irrefl 0)
  one before := absurd before (Nat.not_lt_zero 1)

theorem Syncing.rowSize_one (truthful : Truthful step (· < maxMode) queryData map consoles)
    (positive : 0 < column) (within : column < step)
    (syncing : Syncing step maxMode column reported queryData map mode (sizes, now)) :
    rowSize step sizes now 1 = sizes 1 := by
  rw [rowSize, syncing.others 1 0 (Nat.lt_trans positive within) (Nat.ne_of_lt positive),
    truthful.second]
  rfl

/-- The size of a row changes for the second one at most. -/
theorem Syncing.rowSize_eq (truthful : Truthful step (· < maxMode) queryData map consoles)
    (positive : 0 < column) (within : column < step)
    (syncing : Syncing step maxMode column reported queryData map mode (sizes, now))
    (inside : row < maxMode) (other : row ≠ 1) :
    rowSize step sizes now row = rowSize step queryData map row := by
  rw [rowSize, rowSize,
    syncing.others row 0 (Nat.lt_trans positive within) (Nat.ne_of_lt positive)]
  exact syncing.sizes _ (truthful.first_ne_one inside other)

theorem Conventional.two_le (conventional : Conventional reported) : 2 ≤ reported.length := by
  rcases conventional.second with missing | large
  · exact (List.getElem?_eq_some_iff.mp missing).1
  · exact (List.getElem?_eq_some_iff.mp large).1

/-- A mode that is not reported is the second one. -/
theorem Conventional.eq_one (conventional : Conventional reported)
    (missing : reported[mode]? = some none) : mode = 1 := by
  rcases Nat.lt_or_ge mode 2 with low | high
  · rcases Nat.lt_succ_iff_lt_or_eq.mp low with zero | one
    · obtain rfl : mode = 0 := by omega
      rw [conventional.first] at missing
      cases missing
    · exact one
  · exact absurd missing (conventional.others mode high)

theorem findMode_some {index : Nat}
    (found : findMode step maxMode size sizes now = some index) :
    index < maxMode ∧ rowSize step sizes now index = size ∧
      ∀ earlier < index, rowSize step sizes now earlier ≠ size := by
  obtain ⟨same, inside, first⟩ := List.find?_range_eq_some.mp found
  refine ⟨List.mem_range.mp inside, of_decide_eq_true same, fun earlier before equal => ?_⟩
  have apart := first earlier before
  rw [Bool.not_eq_true'] at apart
  exact of_decide_eq_false apart equal

theorem findMode_none (missing : findMode step maxMode size sizes now = none)
    (inside : row < maxMode) : rowSize step sizes now row ≠ size := by
  have apart := List.find?_range_eq_none.mp missing row inside
  rw [Bool.not_eq_true'] at apart
  exact of_decide_eq_false apart

/-- The second mode is not reported: it is not usable from now on. -/
theorem Syncing.missing (truthful : Truthful step (· < maxMode) queryData map consoles)
    (positive : 0 < column) (within : column < step)
    (syncing : Syncing step maxMode column reported queryData map 1 (sizes, now))
    (missing : reported[1]? = some none) :
    Syncing step maxMode column reported queryData map 2
      (Function.update sizes 1 (0, 0), Function.update now (column + step) 1) := by
  have place : column + step = 1 * step + column := by rw [Nat.one_mul, Nat.add_comm]
  have written (row other : Nat) (inside : other < step) :
      entry step (Function.update now (column + step) 1) row other =
        if row = 1 ∧ other = column then 1 else entry step now row other := by
    rw [place]
    exact entry_update inside within
  have rows (row : Nat) :
      rowSize step (Function.update sizes 1 (0, 0)) (Function.update now (column + step) 1) row =
        Function.update sizes 1 (0, 0) (entry step now row 0).toNat := by
    rw [rowSize, written row 0 (Nat.lt_trans positive within),
      if_neg fun both => Nat.ne_of_lt positive both.2]
  have second : entry step now 1 0 = 1 :=
    (syncing.others 1 0 (Nat.lt_trans positive within) (Nat.ne_of_lt positive)).trans
      truthful.second
  have unusable :
      rowSize step (Function.update sizes 1 (0, 0)) (Function.update now (column + step) 1) 1 =
        (0, 0) := by
    rw [rows, second]
    exact Function.update_self _ _ _
  constructor
  · intro row other inside apart
    rw [written row other inside, if_neg fun both => apart both.2]
    exact syncing.others row other inside apart
  · intro number apart
    exact (Function.update_of_ne apart _ _).trans (syncing.sizes number apart)
  · rw [if_pos ⟨Nat.one_lt_two, missing⟩]
    exact Function.update_self 1 _ sizes
  · intro row inside proper
    have apart : row ≠ 1 := by
      rintro rfl
      exact proper unusable
    have same : rowSize step (Function.update sizes 1 (0, 0))
        (Function.update now (column + step) 1) row = rowSize step sizes now row := by
      have first : (entry step now row 0).toNat ≠ 1 := by
        rw [syncing.others row 0 (Nat.lt_trans positive within) (Nat.ne_of_lt positive)]
        exact truthful.first_ne_one inside apart
      rw [rows, Function.update_of_ne first, rowSize]
    rw [same] at proper ⊢
    rw [written row column within, if_neg fun both => apart both.1]
    exact syncing.entries row inside proper
  · intro earlier before size known other sized
    have zero : earlier = 0 := by
      rcases Nat.lt_succ_iff_lt_or_eq.mp before with low | rfl
      · omega
      · rw [missing] at known
        cases known
    subst zero
    obtain ⟨row, inside, same, written_before⟩ :=
      syncing.found 0 Nat.zero_lt_one size known other sized
    refine ⟨row, inside, same, ?_⟩
    rw [written row column within]
    split
    · decide
    · exact written_before
  · intro _
    rw [written 0 column within, if_neg fun both => Nat.zero_ne_one both.1]
    exact syncing.zero Nat.zero_lt_one
  · intro _ known
    rw [missing] at known
    cases known

section Enter

variable (step maxMode column mode size sizes now)

theorem entry_enterMode {row other : Nat} (inside : other < step) (within : column < step) :
    entry step (enterMode step maxMode column mode size sizes now) row other =
      if other = column ∧ findMode step maxMode size sizes now = some row then (mode : Int)
      else entry step now row other := by
  rw [enterMode]
  cases findMode step maxMode size sizes now with
  | none =>
      refine (if_neg fun both => ?_).symm
      cases both.2
  | some index =>
      have same : row = index ∧ other = column ↔ other = column ∧ some index = some row :=
        ⟨fun both => ⟨both.2, congrArg some both.1.symm⟩,
          fun both => ⟨(Option.some.inj both.2).symm, both.1⟩⟩
      simp only [entry_update inside within, same]

end Enter

/-- The first row of a size. -/
theorem findMode_eq_some {index : Nat} (inside : index < maxMode)
    (sized : rowSize step sizes now index = size)
    (first : ∀ earlier < index, rowSize step sizes now earlier ≠ size) :
    findMode step maxMode size sizes now = some index := by
  refine List.find?_range_eq_some.mpr
    ⟨decide_eq_true sized, List.mem_range.mpr inside, fun earlier before => ?_⟩
  rw [Bool.not_eq_true']
  exact decide_eq_false (first earlier before)

/-- The first row of the size has an entry afterwards. -/
theorem entry_enterMode_first (within : column < step) {index : Nat} (inside : index < maxMode)
    (sized : rowSize step sizes now index = size)
    (first : ∀ earlier < index, rowSize step sizes now earlier ≠ size) :
    entry step (enterMode step maxMode column mode size sizes now) index column ≠ -1 := by
  rw [entry_enterMode _ _ _ _ _ _ _ within within,
    if_pos ⟨rfl, findMode_eq_some inside sized first⟩]
  omega

/-- An entry that there is stays one. -/
theorem entry_enterMode_remains (within : column < step)
    (entered : entry step now row column ≠ -1) :
    entry step (enterMode step maxMode column mode size sizes now) row column ≠ -1 := by
  rw [entry_enterMode _ _ _ _ _ _ _ within within]
  split
  · omega
  · exact entered

theorem rowSize_enterMode (positive : 0 < column) (within : column < step) (row : Nat) :
    rowSize step sizes (enterMode step maxMode column mode size sizes now) row =
      rowSize step sizes now row := by
  rw [rowSize, rowSize, entry_enterMode _ _ _ _ _ _ _ (Nat.lt_trans positive within) within,
    if_neg fun both => Nat.ne_of_lt positive both.1]

/-- The second size is not changed by a mode that is reported. -/
theorem Syncing.second_of_known
    (syncing : Syncing step maxMode column reported queryData map mode (sizes, now))
    (known : reported[mode]? = some (some size)) :
    sizes 1 = if 1 < mode + 1 ∧ reported[1]? = some none then (0, 0) else queryData 1 := by
  refine syncing.second.trans ?_
  rcases Nat.lt_trichotomy mode 1 with before | rfl | after
  · rw [if_neg fun both => Nat.lt_asymm before both.1, if_neg fun both => by omega]
  · rw [known]
    simp
  · simp only [after, Nat.lt_succ_of_lt after]

/-- The size of the second mode is the one from before or none. -/
theorem Syncing.second_or
    (syncing : Syncing step maxMode column reported queryData map mode (sizes, now)) :
    sizes 1 = (0, 0) ∨ sizes 1 = queryData 1 := by
  rw [show sizes 1 = _ from syncing.second]
  split
  · exact .inl rfl
  · exact .inr rfl

/-- A size that is offered from before is found in the middle of the modes. -/
theorem Syncing.exists_findMode (truthful : Truthful step (· < maxMode) queryData map consoles)
    (positive : 0 < column) (within : column < step)
    (syncing : Syncing step maxMode column reported queryData map mode (sizes, now))
    (proper : size ≠ (0, 0)) (other : size ≠ (80, 50)) (inside : row < maxMode)
    (sized : rowSize step queryData map row = size) :
    ∃ index < maxMode, findMode step maxMode size sizes now = some index ∧
      rowSize step queryData map index = size := by
  have apart : row ≠ 1 := truthful.ne_one proper other sized
  have same := syncing.rowSize_eq truthful positive within inside apart
  cases found : findMode step maxMode size sizes now with
  | none => exact absurd (same.trans sized) (findMode_none found inside)
  | some index =>
      obtain ⟨bound, here, -⟩ := findMode_some found
      have apart : index ≠ 1 := by
        rintro rfl
        rw [syncing.rowSize_one truthful positive within] at here
        rcases syncing.second_or with none | kept
        · exact proper (here.symm.trans none)
        · rcases truthful.secondSize_or with none | large
          · exact proper (here.symm.trans (kept.trans none))
          · exact other (here.symm.trans (kept.trans large))
      refine ⟨index, bound, rfl, ?_⟩
      rw [← syncing.rowSize_eq truthful positive within bound apart]
      exact here

/-- A mode that is reported is entered. -/
theorem Syncing.reports (truthful : Truthful step (· < maxMode) queryData map consoles)
    (reserved : 2 ≤ maxMode) (positive : 0 < column) (within : column < step)
    (conventional : Conventional reported)
    (syncing : Syncing step maxMode column reported queryData map mode (sizes, now))
    (known : reported[mode]? = some (some size)) :
    Syncing step maxMode column reported queryData map (mode + 1)
      (sizes, enterMode step maxMode column mode size sizes now) := by
  have zeroInside : 0 < maxMode := Nat.lt_of_lt_of_le Nat.zero_lt_two reserved
  have atZero : rowSize step sizes now 0 = (40, 12) := by
    rw [syncing.rowSize_eq truthful positive within zeroInside Nat.zero_ne_one]
    exact truthful.rowSize_zero
  constructor
  · intro row other inside apart
    rw [entry_enterMode _ _ _ _ _ _ _ inside within, if_neg fun both => apart both.1]
    exact syncing.others row other inside apart
  · exact syncing.sizes
  · exact syncing.second_of_known known
  · intro row inside proper
    rw [rowSize_enterMode positive within] at proper ⊢
    rw [entry_enterMode _ _ _ _ _ _ _ within within]
    split
    · next here =>
        refine .inr ⟨mode, rfl, ?_⟩
        rw [(findMode_some here.2).2.1]
        exact known
    · exact syncing.entries row inside proper
  · intro earlier before wanted reports other offered
    rcases Nat.lt_succ_iff_lt_or_eq.mp before with before | rfl
    · obtain ⟨row, inside, sized, entered⟩ := syncing.found earlier before wanted reports other
        offered
      exact ⟨row, inside, sized, entry_enterMode_remains within entered⟩
    · rw [known] at reports
      obtain rfl := Option.some.inj (Option.some.inj reports)
      obtain ⟨row, inside, sized⟩ := offered
      have proper := conventional.proper size (List.mem_of_getElem? known)
      obtain ⟨index, bound, found, here⟩ := syncing.exists_findMode truthful positive within
        proper other inside sized
      refine ⟨index, bound, here, ?_⟩
      rw [entry_enterMode _ _ _ _ _ _ _ within within, if_pos ⟨rfl, found⟩]
      omega
  · intro _
    rcases Nat.eq_zero_or_pos mode with rfl | later
    · have same : size = (40, 12) :=
        Option.some.inj (Option.some.inj (known.symm.trans conventional.first))
      exact entry_enterMode_first within zeroInside (atZero.trans same.symm)
        fun earlier before => absurd before (Nat.not_lt_zero _)
    · exact entry_enterMode_remains within (syncing.zero later)
  · intro before large usable
    rcases Nat.lt_succ_iff_lt_or_eq.mp before with later | rfl
    · exact entry_enterMode_remains within (syncing.one later large usable)
    · have same : size = (80, 50) := Option.some.inj (Option.some.inj (known.symm.trans large))
      have kept : sizes 1 = (80, 50) := by
        have second := syncing.second
        rw [if_neg fun both => Nat.lt_irrefl 1 both.1] at second
        exact second.trans usable
      refine entry_enterMode_first within reserved ?_ ?_
      · rw [syncing.rowSize_one truthful positive within, kept, same]
      · intro earlier low equal
        obtain rfl : earlier = 0 := by omega
        rw [atZero, same] at equal
        cases equal

/-- All modes of the other console. -/
theorem Syncing.syncModes (truthful : Truthful step (· < maxMode) queryData map consoles)
    (reserved : 2 ≤ maxMode) (positive : 0 < column) (within : column < step)
    (conventional : Conventional reported)
    (syncing : Syncing step maxMode column reported queryData map mode (sizes, now))
    (others : rest = reported.drop mode) (inside : mode ≤ reported.length) :
    Syncing step maxMode column reported queryData map reported.length
      (TextOutSplitter.syncModes step maxMode column rest mode (sizes, now)) := by
  induction rest generalizing mode sizes now with
  | nil =>
      have last : mode = reported.length :=
        Nat.le_antisymm inside (List.drop_eq_nil_iff.mp others.symm)
      rw [last] at syncing
      exact syncing
  | cons head rest ih =>
      have found : reported[mode]? = some head := by
        rw [← List.head?_drop, ← others, List.head?_cons]
      have before : mode < reported.length := (List.getElem?_eq_some_iff.mp found).1
      have further : rest = reported.drop (mode + 1) := by
        rw [← List.tail_drop, ← others, List.tail_cons]
      cases head with
      | none =>
          obtain rfl := conventional.eq_one found
          exact ih (syncing.missing truthful positive within found) further before
      | some size =>
          exact ih (syncing.reports truthful reserved positive within conventional found)
            further before

/-- The size of a row is the one from before or none. -/
theorem Syncing.rowSize_or (truthful : Truthful step (· < maxMode) queryData map consoles)
    (positive : 0 < column) (within : column < step)
    (syncing : Syncing step maxMode column reported queryData map mode (sizes, now))
    (inside : row < maxMode) :
    rowSize step sizes now row = (0, 0) ∨
      rowSize step sizes now row = rowSize step queryData map row := by
  by_cases one : row = 1
  · rw [one, syncing.rowSize_one truthful positive within, truthful.rowSize_one]
    exact syncing.second_or
  · exact .inr (syncing.rowSize_eq truthful positive within inside one)

/-- The rows that are in the map of another console. -/
abbrev InColumn (step column : Nat) (map : Nat → Int) : Nat → Prop :=
  Kept (fun map index => map (index * step + column)) map

/-- A row that stays has an entry of the other console that is right. -/
theorem Syncing.matches (truthful : Truthful step (· < maxMode) queryData map consoles)
    (positive : 0 < column) (within : column < step) (conventional : Conventional reported)
    (syncing : Syncing step maxMode column reported queryData map reported.length (sizes, now))
    (inside : row < maxMode) (stays : InColumn step column now row)
    (proper : rowSize step sizes now row ≠ (0, 0)) :
    Matches reported (rowSize step sizes now row) (entry step now row column) := by
  have two : 2 ≤ reported.length := conventional.two_le
  rcases syncing.entries row inside proper with missing | found
  · rcases stays with low | entered
    · rcases Nat.lt_succ_iff_lt_or_eq.mp low with zero | rfl
      · obtain rfl : row = 0 := by omega
        exact absurd missing (syncing.zero (by omega))
      · rw [syncing.rowSize_one truthful positive within] at proper
        have second := syncing.second
        split at second
        · exact absurd second proper
        · next reports =>
            have usable : queryData 1 = (80, 50) := by
              rcases truthful.secondSize_or with none | large
              · exact absurd (second.trans none) proper
              · exact large
            have large : reported[1]? = some (some (80, 50)) :=
              conventional.second.resolve_left fun none => reports ⟨two, none⟩
            exact absurd missing (syncing.one two large usable)
    · exact absurd missing entered
  · exact found

theorem Syncing.rightRow (truthful : Truthful step (· < maxMode) queryData map consoles)
    (positive : 0 < consoles.length) (within : consoles.length < step)
    (conventional : Conventional reported)
    (syncing : Syncing step maxMode consoles.length reported queryData map reported.length
      (sizes, now))
    (inside : row < maxMode) (stays : InColumn step consoles.length now row) :
    RightRow step sizes now (consoles ++ [reported]) row := by
  have some_step : 0 < step := Nat.lt_trans positive within
  constructor
  · intro high
    rw [syncing.others row 0 some_step (Nat.ne_of_lt positive)]
    exact (truthful.rows row inside).others high
  · intro high
    rw [syncing.rowSize_eq truthful positive within inside (by omega)]
    exact (truthful.rows row inside).sizes high
  · intro proper column other listed
    rcases Nat.lt_trichotomy column consoles.length with before | rfl | after
    · have same := (syncing.rowSize_or truthful positive within inside).resolve_left proper
      rw [same] at proper ⊢
      rw [syncing.others row column (Nat.lt_trans before within) (Nat.ne_of_lt before)]
      rw [List.getElem?_append_left before] at listed
      exact (truthful.rows row inside).entries proper column other listed
    · rw [List.getElem?_concat_length] at listed
      obtain rfl := Option.some.inj listed
      exact syncing.matches truthful positive within conventional inside stays proper
    · have bound := (List.getElem?_eq_some_iff.mp listed).1
      rw [List.length_append, List.length_singleton] at bound
      omega
  · intro column bound beyond
    rw [List.length_append, List.length_singleton] at beyond
    rw [syncing.others row column bound (by omega)]
    exact (truthful.rows row inside).fresh column bound (by omega)

/-- With the other console, the rows that stay are right. -/
theorem Syncing.truthful (truthful : Truthful step (· < maxMode) queryData map consoles)
    (positive : 0 < consoles.length) (within : consoles.length < step)
    (conventional : Conventional reported)
    (syncing : Syncing step maxMode consoles.length reported queryData map reported.length
      (sizes, now)) :
    Truthful step (fun row => row < maxMode ∧ InColumn step consoles.length now row) sizes now
      (consoles ++ [reported]) where
  first := by
    rw [syncing.others 0 0 (Nat.lt_trans positive within) (Nat.ne_of_lt positive)]
    exact truthful.first
  second := by
    rw [syncing.others 1 0 (Nat.lt_trans positive within) (Nat.ne_of_lt positive)]
    exact truthful.second
  firstSize := (syncing.sizes 0 Nat.zero_ne_one).trans truthful.firstSize
  secondSize := by
    have second : sizes 1 = _ := syncing.second
    rw [second, truthful.secondSize]
    simp only [List.forall_mem_append, List.forall_mem_singleton]
    rcases conventional.second with missing | large
    · have unusable : reported[1]? ≠ some (some (80, 50)) := by simp [missing]
      rw [if_pos ⟨conventional.two_le, missing⟩, if_neg fun all => unusable all.2]
    · have usable : reported[1]? ≠ some none := by simp [large]
      rw [if_neg fun both => usable both.2]
      simp only [large, and_true]
  ascending row later live later_live before := by
    have some_step : 0 < step := Nat.lt_trans positive within
    rw [syncing.others row 0 some_step (Nat.ne_of_lt positive),
      syncing.others later 0 some_step (Nat.ne_of_lt positive)]
    exact truthful.ascending row later live.1 later_live.1 before
  rows row live := syncing.rightRow truthful positive within conventional live.1 live.2

/-- With the other console, every size that all consoles have is in a row that stays. -/
theorem Syncing.complete (truthful : Truthful step (· < maxMode) queryData map consoles)
    (positive : 0 < column) (within : column < step) (conventional : Conventional reported)
    (syncing : Syncing step maxMode column reported queryData map reported.length (sizes, now))
    (complete : Complete step maxMode queryData map consoles) (other : size ≠ (80, 50))
    (shared : ∀ other ∈ consoles ++ [reported], some size ∈ other) :
    ∃ row < maxMode, InColumn step column now row ∧ rowSize step sizes now row = size := by
  have mine : some size ∈ reported := shared reported (List.mem_append_right _ (by simp))
  have proper := conventional.proper size mine
  have offered := complete size other fun reported listed =>
    shared reported (List.mem_append_left _ listed)
  obtain ⟨earlier, before, found⟩ := List.getElem_of_mem mine
  obtain ⟨row, inside, sized, entered⟩ := syncing.found earlier before size
    (List.getElem?_eq_some_iff.mpr ⟨before, found⟩) other offered
  have apart : row ≠ 1 := truthful.ne_one proper other sized
  refine ⟨row, inside, .inr entered, ?_⟩
  exact (syncing.rowSize_eq truthful positive within inside apart).trans sized

end Sync

end HtcLeo.ConSplitter
