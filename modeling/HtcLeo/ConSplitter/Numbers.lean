import HtcLeo.ConSplitter.Start

/-!
# The numbers of the modes

Graphics consoles have the sizes that they share under the same numbers, and at the beginning.
Then a mode of a splitter has its own number on every console, and so it is kept whatever comes
and goes and whatever is taken out for a console of both.
-/

namespace HtcLeo.ConSplitter

open Grid HtcLeo.GraphicsConsole TextOutSplitter

universe u

/-- Two consoles have the sizes that they share under the same numbers, and share those before
them.  80x50 is the second mode or none. -/
structure Alike (one other : List (Option TextSize)) : Prop where
  number : ∀ (mode place : Nat) (size : TextSize), one[mode]? = some (some size) →
    other[place]? = some (some size) → mode = place
  before : ∀ (mode : Nat) (size : TextSize), one[mode]? = some (some size) →
    other[mode]? = some (some size) →
      ∀ earlier < mode, 2 ≤ earlier → one[earlier]? = other[earlier]?
  large : ∀ mode, 2 ≤ mode → one[mode]? ≠ some (some (80, 50))

theorem Alike.distinct {reported : List (Option TextSize)} (alike : Alike reported reported) :
    DistinctSizes reported :=
  alike.number

/-- Every row has the number that its mode has on the first console: none of the modes before
it has been taken out. -/
def Numbered (step maxMode : Nat) (map : Nat → Int) : Prop :=
  ∀ row < maxMode, entry step map row 0 = row

section Rows

variable {step maxMode row otherStep otherMode place : Nat} {queryData otherData : Nat → TextSize}
  {map otherMap : Nat → Int} {first other : List (Option TextSize)}
  {rest otherRest : List (List (Option TextSize))}

theorem Numbered.known (numbered : Numbered step maxMode map)
    (truthful : Truthful step (· < maxMode) queryData map (first :: rest)) (inside : row < maxMode)
    (proper : rowSize step queryData map row ≠ (0, 0)) :
    first[row]? = some (some (rowSize step queryData map row)) := by
  obtain ⟨mode, here, known⟩ := (truthful.rows row inside).entries proper 0 first rfl
  rw [numbered row inside] at here
  obtain rfl := Int.natCast_inj.mp here
  exact known

/-- A row of the first console is in the table if another console has the size of a later one. -/
theorem Numbered.shared (numbered : Numbered step maxMode map)
    (truthful : Truthful step (· < maxMode) queryData map (first :: rest))
    (alike : Alike first other) (inside : row < maxMode)
    (proper : rowSize step queryData map row ≠ (0, 0))
    (also : other[place]? = some (some (rowSize step queryData map row))) :
    row = place ∧ ∀ earlier < row, 2 ≤ earlier →
      other[earlier]? = some (some (rowSize step queryData map earlier)) := by
  have known := numbered.known truthful inside proper
  obtain rfl := alike.number row place _ known also
  refine ⟨rfl, fun earlier before high => ?_⟩
  have within : earlier < maxMode := Nat.lt_trans before inside
  rw [← alike.before row _ known also earlier before high]
  exact numbered.known truthful within ((truthful.rows earlier within).sizes high)

/-- When two tables share a size, they share those before it. -/
theorem Numbered.agree (numbered : Numbered step maxMode map)
    (truthful : Truthful step (· < maxMode) queryData map (first :: rest))
    (other_numbered : Numbered otherStep otherMode otherMap)
    (other_truthful : Truthful otherStep (· < otherMode) otherData otherMap (other :: otherRest))
    (alike : Alike first other) (inside : row < maxMode) (other_inside : place < otherMode)
    (proper : rowSize step queryData map row ≠ (0, 0))
    (same : rowSize otherStep otherData otherMap place = rowSize step queryData map row) :
    row = place ∧ ∀ earlier < row, 2 ≤ earlier →
      rowSize otherStep otherData otherMap earlier = rowSize step queryData map earlier := by
  have also := other_numbered.known other_truthful other_inside (by rw [same]; exact proper)
  rw [same] at also
  obtain ⟨rfl, shared⟩ := numbered.shared truthful alike inside proper also
  refine ⟨rfl, fun earlier before high => ?_⟩
  have within : earlier < otherMode := Nat.lt_trans before other_inside
  have here := other_numbered.known other_truthful within
    ((other_truthful.rows earlier within).sizes high)
  exact Option.some.inj (Option.some.inj (here.symm.trans (shared earlier before high)))

/-- The numbers stay when the rows that stay are the first ones. -/
theorem Numbered.compact {kept : Nat → Prop} [DecidablePred kept] {after : Nat → Int}
    (numbered : Numbered step maxMode map) (compacted : Compacted step maxMode kept map after)
    (some_step : 0 < step)
    (initial : ∀ row < maxMode, kept row → ∀ earlier < row, 2 ≤ earlier → kept earlier)
    (low : ∀ row < 2, kept row) : Numbered step (Nat.count kept maxMode) after := by
  intro index bound
  obtain ⟨row, inside, stays, rfl⟩ := exists_count_eq kept bound
  have all : Nat.count kept row = row := by
    refine Nat.count_of_forall fun earlier before => ?_
    rcases Nat.lt_or_ge earlier 2 with first | high
    · exact low earlier first
    · exact initial row inside stays earlier before high
  rw [compacted row inside stays 0 some_step, numbered row inside, all]

/-- The rows that another console has are the first ones. -/
theorem Syncing.initial {sizes : Nat → TextSize} {now : Nat → Int}
    (truthful : Truthful step (· < maxMode) queryData map (first :: rest))
    (within : (first :: rest).length < step) (conventional : Conventional other)
    (syncing : Syncing step maxMode (first :: rest).length other queryData map other.length
      (sizes, now))
    (numbered : Numbered step maxMode map) (alike : Alike first other) (own : Alike first first)
    (inside : row < maxMode) (stays : InColumn step (first :: rest).length now row) :
    ∀ earlier < row, 2 ≤ earlier → InColumn step (first :: rest).length now earlier := by
  intro earlier before high
  have positive : 0 < (first :: rest).length := Nat.succ_pos _
  have proper := (truthful.rows row inside).sizes (by omega)
  have same := syncing.rowSize_eq truthful positive within inside (by omega)
  obtain ⟨number, -, also⟩ := syncing.matches truthful positive within conventional inside stays
    (by rw [same]; exact proper)
  rw [same] at also
  have mine := (numbered.shared truthful alike inside proper also).2 earlier before high
  have earlier_inside := Nat.lt_trans before inside
  have earlier_proper := (truthful.rows earlier earlier_inside).sizes high
  have known := numbered.known truthful earlier_inside earlier_proper
  obtain ⟨place, place_inside, sized, entered⟩ := syncing.found earlier
    (List.getElem?_eq_some_iff.mp mine).1 _ mine
    (fun large => own.large earlier high (by rw [← large]; exact known))
    ⟨earlier, earlier_inside, rfl⟩
  obtain rfl :=
    truthful.row_unique own.distinct earlier_proper place_inside earlier_inside sized rfl
  exact .inr entered

end Rows

namespace TextOutSplitter

variable {δ : Type u} {modes : δ → List (Option TextSize)} {splitter : TextOutSplitter δ}

/-- The modes of the splitter have their numbers. -/
def OwnNumbers (splitter : TextOutSplitter δ) : Prop :=
  ∀ map, splitter.textOutModeMap = some map →
    Numbered splitter.textOutListCount splitter.textOutMode.maxMode map

theorem ownNumbers_of_empty (right : Right modes splitter) (none : splitter.textOutList = []) :
    splitter.OwnNumbers := by
  obtain ⟨one, -, stale⟩ := right.empty none
  intro map present row inside
  obtain rfl : row = 0 := by omega
  exact stale map present

theorem grow_ownNumbers (right : Right modes splitter) (listed : splitter.textOutList ≠ [])
    (own : splitter.OwnNumbers) : splitter.grow.OwnNumbers := by
  obtain ⟨-, map, present, -⟩ := right.table listed
  have room : splitter.textOutList.length ≤ splitter.grow.textOutListCount :=
    Nat.le_trans right.room (Nat.le_add_right _ _)
  have positive : 0 < splitter.textOutList.length := List.length_pos_iff.mpr listed
  obtain ⟨grown, table, widened⟩ := grow_widened present (by rw [right.number]; exact room)
  intro other found row inside
  obtain rfl := Option.some.inj (table.symm.trans found)
  rw [widened row inside 0 (Nat.lt_of_lt_of_le positive room), right.number, if_pos positive]
  exact own map present row inside

theorem growTextOutList_ownNumbers (right : Right modes splitter) (own : splitter.OwnNumbers) :
    splitter.growTextOutList.OwnNumbers := by
  induction splitter using growTextOutList.induct with
  | case1 splitter full ih =>
      have listed : splitter.textOutList ≠ [] := by
        intro none
        have some_step := right.some_step
        rw [right.number, none] at full
        exact absurd full (Nat.not_le.mpr some_step)
      rw [growTextOutList, if_pos full]
      exact ih (@grow_right _ modes _ [] right listed).1 (grow_ownNumbers right listed own)
  | case2 splitter room =>
      rw [growTextOutList, if_neg room]
      exact own

theorem addOutputMode_ownNumbers (modes : δ → List (Option TextSize)) (textOut : δ)
    (some_step : 0 < splitter.textOutListCount)
    (nothing : splitter.textOutModeMap = none ∨ splitter.currentNumberOfConsoles = 0) :
    (splitter.addOutputMode modes textOut).OwnNumbers := by
  obtain ⟨data, added, filled⟩ := exists_added modes textOut some_step nothing
  rw [filled]
  intro map present
  obtain rfl := Option.some.inj present
  exact added.number

theorem syncOutputMode_ownNumbers {first : List (Option TextSize)}
    {rest : List (List (Option TextSize))} {textOut : δ}
    (conventional : Conventional (modes textOut)) (alike : Alike first (modes textOut))
    (own : Alike first first) (number : splitter.currentNumberOfConsoles = (first :: rest).length)
    (room : (first :: rest).length < splitter.textOutListCount)
    (tabled : splitter.Tabled (first :: rest)) (numbers : splitter.OwnNumbers) :
    (splitter.syncOutputMode modes textOut).OwnNumbers := by
  obtain ⟨reserved, map, present, truthful⟩ := tabled
  have positive : 0 < (first :: rest).length := Nat.succ_pos _
  obtain ⟨sizes, now, syncing, synced⟩ :=
    exists_syncing conventional positive number room reserved present truthful
  obtain ⟨compacted, counted, -⟩ := getIntersection_spec (rowWise_column room) now reserved
    splitter.textOutMode.mode
  have some_step : 0 < splitter.textOutListCount := Nat.lt_trans positive room
  have numbered := numbers map present
  have entered : Numbered splitter.textOutListCount splitter.textOutMode.maxMode now := by
    intro row inside
    rw [syncing.others row 0 some_step (Nat.ne_of_lt positive)]
    exact numbered row inside
  rw [synced, restrict_eq rfl]
  intro after found
  obtain rfl := Option.some.inj found
  dsimp only
  rw [counted]
  exact entered.compact compacted some_step
    (fun row inside stays => syncing.initial truthful room conventional numbered alike own inside
      stays) fun row low => .inl low

section Changes

variable (conventional : ∀ textOut, Conventional (modes textOut))
  (alike : ∀ one other, Alike (modes one) (modes other))
include conventional alike

theorem attach_ownNumbers (right : Right modes splitter) (own : splitter.OwnNumbers) (textOut : δ) :
    (splitter.attach modes textOut).OwnNumbers := by
  obtain ⟨wide, same, room, -⟩ := @growTextOutList_spec _ _ _ [] right
  have grown := growTextOutList_ownNumbers right own
  have number : splitter.growTextOutList.currentNumberOfConsoles = splitter.textOutList.length := by
    rw [wide.number, same]
  rw [attach, right.number]
  cases list : splitter.textOutList with
  | nil =>
      rw [if_pos List.length_nil]
      refine @addOutputMode_ownNumbers _ _ modes textOut wide.some_step (.inr ?_)
      rw [number, list]
      rfl
  | cons first rest =>
      have tabled := wide.table (by rw [same, list]; exact List.cons_ne_nil _ _)
      rw [same, list, List.map_cons] at tabled
      have some_console : (first :: rest).length ≠ 0 := Nat.succ_ne_zero _
      rw [if_neg some_console]
      refine @syncOutputMode_ownNumbers _ _ _ _ _ _ (conventional textOut) (alike first textOut)
        (alike first first) ?_ ?_ tabled grown
      · rw [number, list, ← List.map_cons, List.length_map]
      · rw [← List.map_cons, List.length_map, ← list]
        exact room

theorem Rebuilt.ownNumbers {list more rest : List δ} {first : δ} {room : Nat}
    (fits : (first :: more ++ rest).length ≤ room)
    (rebuilt : Rebuilt modes list (first :: more) room splitter) (own : splitter.OwnNumbers) :
    (rest.foldl (attachNext modes) splitter).OwnNumbers := by
  induction rest generalizing more splitter with
  | nil => exact own
  | cons next rest ih =>
      have further : first :: more ++ next :: rest = first :: (more ++ [next]) ++ rest := by
        simp
      rw [further] at fits
      have before : (first :: more).length < room := by
        rw [List.length_append, List.length_cons, List.length_append, List.length_singleton] at fits
        rw [List.length_cons]
        omega
      refine ih fits (rebuilt.next (conventional next) (List.cons_ne_nil _ _) before) ?_
      refine syncOutputMode_ownNumbers (conventional next) (alike first next) (alike first first)
        ?_ ?_ rebuilt.tabled own
      · rw [rebuilt.number]
        simp
      · rw [rebuilt.room, ← List.map_cons, List.length_map]
        exact before

theorem detach_ownNumbers (right : Right modes splitter) (own : splitter.OwnNumbers)
    (index : Nat) : (splitter.detach modes index).OwnNumbers := by
  have after := (detach_right conventional right index).1
  rw [detach, right.number] at after ⊢
  split at after
  · next beyond =>
      rw [if_pos beyond]
      exact own
  · next inside =>
      rw [if_neg inside]
      split at after
      · exact ownNumbers_of_empty after rfl
      · next first rest left =>
          have fits : (first :: rest).length ≤ splitter.textOutListCount := by
            rw [← left]
            exact Nat.le_trans (List.length_eraseIdx_le _ _) right.room
          have some_step := Nat.lt_of_lt_of_le (Nat.succ_pos _) fits
          exact (rebuildFirst_spec (conventional first) splitter rest some_step).ownNumbers
            conventional alike fits (addOutputMode_ownNumbers modes first some_step (.inl rfl))

end Changes

/-- A mode of the splitter has its number on every console. -/
theorem mode_of_queryMode (right : Right modes splitter) (own : splitter.OwnNumbers)
    (alike : ∀ one other, Alike (modes one) (modes other)) {modeNumber : Nat} {size : TextSize}
    (offered : splitter.queryMode modeNumber = some size) :
    ∀ textOut ∈ splitter.textOutList, (modes textOut)[modeNumber]? = some (some size) := by
  intro textOut member
  have listed : splitter.textOutList ≠ [] := List.ne_nil_of_mem member
  obtain ⟨-, map, present, truthful⟩ := right.table listed
  obtain ⟨first, rest, list⟩ := List.exists_cons_of_ne_nil listed
  obtain ⟨inside, rfl, proper⟩ := (queryMode_eq_some_iff present).mp offered
  rw [list, List.map_cons] at truthful
  have known := (own map present).known truthful inside proper
  obtain ⟨index, found⟩ := List.mem_iff_getElem?.mp member
  obtain ⟨number, -, also⟩ := right.shown.others modeNumber _ offered index textOut found
  obtain rfl := (alike first textOut).number modeNumber number _ known also
  exact also

end TextOutSplitter

/-! ## Both splitters -/

section Both

variable {δ : Type u} {modes : δ → List (Option TextSize)} {splitters : Splitters δ}

/-- The modes of both splitters have their numbers. -/
def Splitters.OwnNumbers (splitters : Splitters δ) : Prop :=
  splitters.conOut.OwnNumbers ∧ splitters.stdErr.OwnNumbers

theorem restrict_ownNumbers {splitter : TextOutSplitter δ} {map other : Nat → Int}
    (reserved : 2 ≤ splitter.textOutMode.maxMode) (some_step : 0 < splitter.textOutListCount)
    (present : splitter.textOutModeMap = some map) (own : splitter.OwnNumbers)
    (initial : ∀ row < splitter.textOutMode.maxMode, Marked other map row →
      ∀ earlier < row, 2 ≤ earlier → Marked other map earlier) :
    (splitter.restrict fun _ index => other index).OwnNumbers := by
  obtain ⟨compacted, counted, -⟩ := @getIntersection_spec splitter.textOutListCount
    (fun _ index => other index) (fun _ _ _ _ => rfl) map _ reserved splitter.textOutMode.mode
  rw [restrict_eq present]
  intro after found
  obtain rfl := Option.some.inj found
  dsimp only
  rw [counted]
  exact (own map present).compact compacted some_step initial fun row low => .inl low

theorem recover_ownNumbers {splitter : TextOutSplitter δ} (own : splitter.OwnNumbers) :
    splitter.recover.OwnNumbers := by
  rw [recover]
  split
  · exact own
  · exact own

/-- Both tables keep their first modes when the modes that the other one does not have go. -/
theorem sharedModes_ownNumbers {conOutMap stdErrMap : Nat → Int}
    (alike : ∀ one other, Alike (modes one) (modes other))
    (right : splitters.Right modes) (own : splitters.OwnNumbers)
    (listed : splitters.conOut.textOutList ≠ [] ∧ splitters.stdErr.textOutList ≠ [])
    (present : splitters.conOut.textOutModeMap = some conOutMap)
    (other_present : splitters.stdErr.textOutModeMap = some stdErrMap) :
    (splitters.conOut.restrict fun _ index =>
        (sharedModes splitters conOutMap stdErrMap).1 index).OwnNumbers ∧
      (splitters.stdErr.restrict fun _ index =>
        (sharedModes splitters conOutMap stdErrMap).2 index).OwnNumbers := by
  obtain ⟨reserved, map, found, truthful⟩ := right.1.table listed.1
  obtain rfl := Option.some.inj (present.symm.trans found)
  obtain ⟨other_reserved, map, found, other_truthful⟩ := right.2.table listed.2
  obtain rfl := Option.some.inj (other_present.symm.trans found)
  obtain ⟨first, rest, list⟩ := List.exists_cons_of_ne_nil listed.1
  obtain ⟨other, other_rest, other_list⟩ := List.exists_cons_of_ne_nil listed.2
  rw [list, List.map_cons] at truthful
  rw [other_list, List.map_cons] at other_truthful
  have numbered := own.1 conOutMap present
  have other_numbered := own.2 stdErrMap other_present
  obtain ⟨rows, columns⟩ := markModes_spec
    (fun mode => findMode splitters.stdErr.textOutListCount splitters.stdErr.textOutMode.maxMode
      (rowSize splitters.conOut.textOutListCount splitters.conOut.textOutQueryData conOutMap mode)
      splitters.stdErr.textOutQueryData stdErrMap)
    splitters.conOut.textOutMode.maxMode
  constructor
  · refine restrict_ownNumbers reserved right.1.some_step present own.1 ?_
    rintro row inside (low | marked) earlier before high
    · omega
    · obtain ⟨index, known⟩ := Option.isSome_iff_exists.mp ((rows row).mp marked).2
      obtain ⟨bound, same, -⟩ := findMode_some known
      obtain ⟨rfl, agrees⟩ := numbered.agree truthful other_numbered other_truthful
        (alike first other) inside bound ((truthful.rows row inside).sizes (by omega)) same
      refine .inr ((rows earlier).mpr ⟨Nat.lt_trans before inside, ?_⟩)
      rw [Option.isSome_iff_ne_none]
      exact fun missing => findMode_none missing (Nat.lt_trans before bound)
        (agrees earlier before high)
  · refine restrict_ownNumbers other_reserved right.2.some_step other_present own.2 ?_
    rintro row inside (low | marked) earlier before high
    · omega
    · obtain ⟨place, bound, known⟩ := (columns row).mp marked
      obtain ⟨-, same, -⟩ := findMode_some known
      obtain ⟨rfl, agrees⟩ := other_numbered.agree other_truthful numbered truthful
        (alike other first) inside bound ((other_truthful.rows row inside).sizes (by omega))
        same.symm
      have earlier_inside := Nat.lt_trans before inside
      have earlier_proper := (other_truthful.rows earlier earlier_inside).sizes high
      cases earliest : findMode splitters.stdErr.textOutListCount
          splitters.stdErr.textOutMode.maxMode
          (rowSize splitters.conOut.textOutListCount splitters.conOut.textOutQueryData conOutMap
            earlier)
          splitters.stdErr.textOutQueryData stdErrMap with
      | none =>
          exact absurd (agrees earlier before high).symm (findMode_none earliest earlier_inside)
      | some index =>
          obtain ⟨index_inside, sized, -⟩ := findMode_some earliest
          obtain rfl := other_truthful.row_unique (alike other other).distinct earlier_proper
            index_inside earlier_inside (sized.trans (agrees earlier before high)) rfl
          exact .inr ((columns index).mpr ⟨index, Nat.lt_trans before bound, earliest⟩)

variable (conventional : ∀ textOut, Conventional (modes textOut))
  (alike : ∀ one other, Alike (modes one) (modes other))
include conventional alike

theorem change_ownNumbers {splitter : TextOutSplitter δ}
    (right : TextOutSplitter.Right modes splitter) (own : splitter.OwnNumbers)
    (change : Change δ) :
    (splitter.change modes change).OwnNumbers := by
  cases change with
  | connect textOut => exact attach_ownNumbers conventional alike right own textOut
  | disconnect index => exact detach_ownNumbers conventional alike right own index

variable [DecidableEq δ]

/-- Whatever happens, the modes of both splitters keep their numbers. -/
theorem Splitters.OwnNumbers.step (right : splitters.Right modes) (own : splitters.OwnNumbers)
    (event : Event δ) : (splitters.step modes event).OwnNumbers := by
  cases event with
  | conOut change => exact ⟨change_ownNumbers conventional alike right.1 own.1 change, own.2⟩
  | stdErr change => exact ⟨own.1, change_ownNumbers conventional alike right.2 own.2 change⟩
  | intersect beyond =>
      rw [Splitters.step, getIntersectionBetweenConOutAndStdErr]
      split
      · next found =>
          have listed := listed_of_found right.2.number found
          split
          · next conOutMap stdErrMap present other_present =>
              obtain ⟨conOut, stdErr⟩ :=
                sharedModes_ownNumbers alike right own listed present other_present
              exact ⟨recover_ownNumbers conOut, recover_ownNumbers stdErr⟩
          · exact own
      · exact own
  | call conOut stdErr => exact own

theorem Splitters.OwnNumbers.steps (right : splitters.Right modes) (own : splitters.OwnNumbers)
    (events : List (Event δ)) : (splitters.steps modes events).OwnNumbers := by
  induction events generalizing splitters with
  | nil => exact own
  | cons event rest ih =>
      exact ih (right.step conventional event) (own.step conventional alike right event)

end Both

/-! ## Graphics consoles -/

/-- The sizes of the modes of a graphics console, for the columns and rows of the full screen. -/
def graphicsSizes (columns rows : Nat) : List (Option TextSize) :=
  some (40, 12) :: (if 80 ≤ columns ∧ 50 ≤ rows then some (80, 50) else none) ::
    ((if 100 ≤ columns ∧ 31 ≤ rows then [some (100, 31)] else []) ++
      if (columns = 0 ∨ rows = 0) ∨ (columns, rows) = (40, 12) ∨ (columns, rows) = (80, 50) ∨
        (columns, rows) = (100, 31) then []
      else [some (columns, rows)])

theorem length_graphicsSizes (columns rows : Nat) : (graphicsSizes columns rows).length ≤ 4 := by
  simp only [graphicsSizes, List.length_cons, List.length_append]
  split
  · split <;> simp
  · split <;> simp

section Graphics

variable {horizontalResolution verticalResolution gopModeNumber columns rows : U32}
  {valid : List GraphicsConsoleModeData}

theorem reportedMode_eq_some_iff {mode : GraphicsConsoleModeData} (some_columns : columns ≠ 0)
    (some_rows : rows ≠ 0) : reportedMode mode = some (columns.toNat, rows.toNat) ↔
      columns = mode.columns ∧ rows = mode.rows := by
  constructor
  · intro known
    obtain ⟨across, down⟩ := size_of_reportedMode known
    exact ⟨BitVec.eq_of_toNat_eq across.symm, BitVec.eq_of_toNat_eq down.symm⟩
  · rintro ⟨rfl, rfl⟩
    exact if_neg (not_or.mpr ⟨some_columns, some_rows⟩)

/-- What a round of the loop does to the sizes. -/
theorem map_addMode (fits : columns ≠ 0 ∧ rows ≠ 0 ∧
      columns ≤ horizontalResolution / EFI_GLYPH_WIDTH ∧
      rows ≤ verticalResolution / EFI_GLYPH_HEIGHT) :
    (addMode horizontalResolution verticalResolution gopModeNumber valid (columns, rows)).map
        reportedMode =
      if some (columns.toNat, rows.toNat) ∈ valid.map reportedMode then valid.map reportedMode
      else valid.map reportedMode ++ [some (columns.toNat, rows.toNat)] := by
  obtain ⟨some_columns, some_rows, across, down⟩ := fits
  rcases @addMode_cases horizontalResolution verticalResolution gopModeNumber valid
      (columns, rows) with ⟨unchanged, known⟩ | ⟨added, -, -, -, -, new⟩
  · obtain ⟨mode, member, same⟩ := known some_columns some_rows across down
    rw [unchanged, if_pos]
    exact List.mem_map.mpr ⟨mode, member,
      (reportedMode_eq_some_iff some_columns some_rows).mpr ⟨same.1.symm, same.2.symm⟩⟩
  · rw [added, if_neg]
    · rw [List.map_append, List.map_singleton,
        (reportedMode_eq_some_iff some_columns some_rows).mpr ⟨rfl, rfl⟩]
    · intro member
      obtain ⟨mode, listed, known⟩ := List.mem_map.mp member
      obtain ⟨same, also⟩ := (reportedMode_eq_some_iff some_columns some_rows).mp known
      exact new mode listed ⟨same.symm, also.symm⟩

theorem map_addMode_of_not (unfit : ¬ (columns ≠ 0 ∧ rows ≠ 0 ∧
      columns ≤ horizontalResolution / EFI_GLYPH_WIDTH ∧
      rows ≤ verticalResolution / EFI_GLYPH_HEIGHT)) :
    addMode horizontalResolution verticalResolution gopModeNumber valid (columns, rows) =
      valid := by
  rcases @addMode_cases horizontalResolution verticalResolution gopModeNumber valid
      (columns, rows) with ⟨unchanged, -⟩ | ⟨-, some_columns, some_rows, across, down, -⟩
  · exact unchanged
  · exact absurd ⟨some_columns, some_rows, across, down⟩ unfit

/-- A size that is there is not added again. -/
theorem map_addMode_of_mem (some_columns : columns ≠ 0) (some_rows : rows ≠ 0)
    (known : some (columns.toNat, rows.toNat) ∈ valid.map reportedMode) :
    (addMode horizontalResolution verticalResolution gopModeNumber valid (columns, rows)).map
      reportedMode = valid.map reportedMode := by
  by_cases fits : columns ≤ horizontalResolution / EFI_GLYPH_WIDTH ∧
      rows ≤ verticalResolution / EFI_GLYPH_HEIGHT
  · rw [map_addMode ⟨some_columns, some_rows, fits⟩]
    exact if_pos known
  · rw [map_addMode_of_not fun all => fits all.2.2]

variable (horizontalResolution verticalResolution gopModeNumber)

theorem map_reservedModes :
    (reservedModes horizontalResolution verticalResolution gopModeNumber).map reportedMode =
      [some (40, 12), if 80 ≤ horizontalResolution.toNat / 8 ∧ 50 ≤ verticalResolution.toNat / 19
        then some (80, 50) else none] := by
  have fits : 80 ≤ horizontalResolution / EFI_GLYPH_WIDTH ∧
      50 ≤ verticalResolution / EFI_GLYPH_HEIGHT ↔
      80 ≤ horizontalResolution.toNat / 8 ∧ 50 ≤ verticalResolution.toNat / 19 := by
    rw [BitVec.le_def, BitVec.le_def, toNat_div_glyphWidth, toNat_div_glyphHeight]
    rfl
  rw [reservedModes]
  simp only [fits]
  split <;> rfl

/-- The sizes of the first three modes. -/
theorem map_addMode_large :
    (addMode horizontalResolution verticalResolution gopModeNumber
        (reservedModes horizontalResolution verticalResolution gopModeNumber) (100, 31)).map
          reportedMode =
      some (40, 12) :: (if 80 ≤ horizontalResolution.toNat / 8 ∧ 50 ≤ verticalResolution.toNat / 19
          then some (80, 50) else none) ::
        if 100 ≤ horizontalResolution.toNat / 8 ∧ 31 ≤ verticalResolution.toNat / 19 then
          [some (100, 31)]
        else [] := by
  have large : (100 : U32) ≠ 0 ∧ (31 : U32) ≠ 0 ∧
      100 ≤ horizontalResolution / EFI_GLYPH_WIDTH ∧ 31 ≤ verticalResolution / EFI_GLYPH_HEIGHT ↔
      100 ≤ horizontalResolution.toNat / 8 ∧ 31 ≤ verticalResolution.toNat / 19 := by
    rw [BitVec.le_def, BitVec.le_def, toNat_div_glyphWidth, toNat_div_glyphHeight]
    exact ⟨fun all => all.2.2, fun both => ⟨by decide, by decide, both⟩⟩
  have reserved := map_reservedModes horizontalResolution verticalResolution gopModeNumber
  by_cases fits : 100 ≤ horizontalResolution.toNat / 8 ∧ 31 ≤ verticalResolution.toNat / 19
  · rw [map_addMode (large.mpr fits), reserved, if_pos fits, if_neg]
    · rfl
    · split <;> decide
  · rw [map_addMode_of_not fun both => fits (large.mp both), reserved, if_neg fits]

/-- The sizes before the full screen. -/
theorem map_addMode_first :
    (addMode horizontalResolution verticalResolution gopModeNumber
        (addMode horizontalResolution verticalResolution gopModeNumber
          (reservedModes horizontalResolution verticalResolution gopModeNumber) (100, 31))
        (40, 12)).map reportedMode =
      some (40, 12) :: (if 80 ≤ horizontalResolution.toNat / 8 ∧ 50 ≤ verticalResolution.toNat / 19
          then some (80, 50) else none) ::
        if 100 ≤ horizontalResolution.toNat / 8 ∧ 31 ≤ verticalResolution.toNat / 19 then
          [some (100, 31)]
        else [] := by
  have large := map_addMode_large horizontalResolution verticalResolution gopModeNumber
  rw [map_addMode_of_mem (by decide) (by decide), large]
  rw [large]
  exact List.mem_cons_self

/-- The full screen is among the sizes before it if it is one of the three. -/
theorem mem_sizes_iff {columns rows : Nat} :
    some (columns, rows) ∈ some (40, 12) ::
        (if 80 ≤ columns ∧ 50 ≤ rows then some (80, 50) else none) ::
          (if 100 ≤ columns ∧ 31 ≤ rows then [some (100, 31)] else []) ↔
      (columns, rows) = (40, 12) ∨ (columns, rows) = (80, 50) ∨ (columns, rows) = (100, 31) := by
  rw [List.mem_cons, List.mem_cons, Option.some_inj]
  refine or_congr Iff.rfl (or_congr ?_ ?_)
  · split
    · rw [Option.some_inj]
    · next small =>
        refine iff_of_false (fun same => by cases same) fun same => small ?_
        obtain ⟨rfl, rfl⟩ := Prod.mk.inj same
        decide
  · split
    · rw [List.mem_singleton, Option.some_inj]
    · next small =>
        refine iff_of_false List.not_mem_nil fun same => small ?_
        obtain ⟨rfl, rfl⟩ := Prod.mk.inj same
        decide

theorem reportedModes_eq_graphicsSizes :
    reportedModes horizontalResolution verticalResolution gopModeNumber =
      graphicsSizes (horizontalResolution.toNat / 8) (verticalResolution.toNat / 19) := by
  have first := map_addMode_first horizontalResolution verticalResolution gopModeNumber
  have across := toNat_div_glyphWidth horizontalResolution
  have down := toNat_div_glyphHeight verticalResolution
  rw [reportedModes, initializeGraphicsConsoleTextMode, mGraphicsConsoleModeData]
  simp only [List.foldl_cons, List.foldl_nil]
  generalize addMode horizontalResolution verticalResolution gopModeNumber
    (addMode horizontalResolution verticalResolution gopModeNumber
      (reservedModes horizontalResolution verticalResolution gopModeNumber) (100, 31))
    (40, 12) = valid at first ⊢
  rw [← across, ← down] at first ⊢
  by_cases none : horizontalResolution / EFI_GLYPH_WIDTH = 0 ∨
      verticalResolution / EFI_GLYPH_HEIGHT = 0
  · have zero : (horizontalResolution / EFI_GLYPH_WIDTH).toNat = 0 ∨
        (verticalResolution / EFI_GLYPH_HEIGHT).toNat = 0 :=
      none.imp (congrArg BitVec.toNat) (congrArg BitVec.toNat)
    rw [map_addMode_of_not fun fits => none.elim fits.1 fits.2.1, first, graphicsSizes]
    simp only [zero, true_or, if_true, List.append_nil]
  · rw [not_or] at none
    have some_size : ¬ ((horizontalResolution / EFI_GLYPH_WIDTH).toNat = 0 ∨
        (verticalResolution / EFI_GLYPH_HEIGHT).toNat = 0) := by
      rintro (zero | zero)
      · exact none.1 (BitVec.eq_of_toNat_eq zero)
      · exact none.2 (BitVec.eq_of_toNat_eq zero)
    rw [map_addMode ⟨none.1, none.2, BitVec.le_refl _, BitVec.le_refl _⟩, first, graphicsSizes]
    simp only [mem_sizes_iff, some_size, false_or]
    split
    · rw [List.append_nil]
    · rfl

end Graphics

/-! ## Numbers of graphics consoles -/

/-- The number of a size of a graphics console. -/
def graphicsNumber (size : TextSize) : Nat :=
  if size = (40, 12) then 0
  else if size = (80, 50) then 1
  else if size = (100, 31) then 2
  else if 100 ≤ size.1 ∧ 31 ≤ size.2 then 3
  else 2

/-- The full screen comes last. -/
theorem full_of_getElem? {columns rows place : Nat} {size : TextSize}
    (found : (if (columns = 0 ∨ rows = 0) ∨ (columns, rows) = (40, 12) ∨
        (columns, rows) = (80, 50) ∨ (columns, rows) = (100, 31) then []
      else [some (columns, rows)])[place]? = some (some size)) :
    place = 0 ∧ size = (columns, rows) ∧
      graphicsNumber size = if 100 ≤ columns ∧ 31 ≤ rows then 3 else 2 := by
  split at found
  · cases found
  · next other =>
      simp only [not_or] at other
      rcases place with - | place
      · obtain rfl := Option.some.inj (Option.some.inj found)
        refine ⟨rfl, rfl, ?_⟩
        rw [graphicsNumber, if_neg other.2.1, if_neg other.2.2.1, if_neg other.2.2.2]
      · cases found

/-- The number depends on the size alone, and the last one is the full screen. -/
theorem mode_of_graphicsSizes {columns rows mode : Nat} {size : TextSize}
    (known : (graphicsSizes columns rows)[mode]? = some (some size)) :
    mode = graphicsNumber size ∧ (2 < mode → size = (columns, rows)) := by
  rcases mode with - | - | mode
  · obtain rfl := Option.some.inj (Option.some.inj known)
    exact ⟨rfl, fun high => absurd high (by decide)⟩
  · rw [graphicsSizes, List.getElem?_cons_succ, List.getElem?_cons_zero] at known
    split at known
    · obtain rfl := Option.some.inj (Option.some.inj known)
      exact ⟨rfl, fun high => absurd high (by decide)⟩
    · cases known
  · rw [graphicsSizes, List.getElem?_cons_succ, List.getElem?_cons_succ] at known
    split at known
    · next large =>
        rcases mode with - | mode
        · obtain rfl := Option.some.inj (Option.some.inj known)
          exact ⟨rfl, fun high => absurd high (by decide)⟩
        · obtain ⟨rfl, full, number⟩ := full_of_getElem? known
          exact ⟨by rw [number, if_pos large], fun _ => full⟩
    · next small =>
        obtain ⟨rfl, full, number⟩ := full_of_getElem? known
        exact ⟨by rw [number, if_neg small], fun _ => full⟩

theorem alike_graphicsSizes (columns rows otherColumns otherRows : Nat) :
    Alike (graphicsSizes columns rows) (graphicsSizes otherColumns otherRows) := by
  constructor
  · intro mode place size known also
    rw [(mode_of_graphicsSizes known).1, (mode_of_graphicsSizes also).1]
  · intro mode size known also earlier before high
    have beyond : 2 < mode := Nat.lt_of_le_of_lt high before
    have full := (mode_of_graphicsSizes known).2 beyond
    have other_full := (mode_of_graphicsSizes also).2 beyond
    obtain ⟨rfl, rfl⟩ := Prod.mk.inj (full.symm.trans other_full)
    rfl
  · intro mode high known
    have second : mode = 1 := (mode_of_graphicsSizes known).1
    omega

theorem alike_graphics (one other : U32 × U32) (gopModeNumber otherGopModeNumber : U32) :
    Alike (reportedModes one.1 one.2 gopModeNumber)
      (reportedModes other.1 other.2 otherGopModeNumber) := by
  rw [reportedModes_eq_graphicsSizes, reportedModes_eq_graphicsSizes]
  exact alike_graphicsSizes _ _ _ _

end HtcLeo.ConSplitter
