import HtcLeo.ConSplitter.Graphics
import HtcLeo.ConSplitter.Shared

/-!
# The modes that are offered

What a program sees of the tables, in every state that the two splitters can get into.
-/

namespace HtcLeo.ConSplitter

open Grid TextOutSplitter

universe u

section Query

variable {δ : Type u} {modes : δ → List (Option TextSize)} {splitter : TextOutSplitter δ}
  {map : Nat → Int} {size : TextSize} {modeNumber : Nat}

theorem modeSize_eq (present : splitter.textOutModeMap = some map) (modeNumber : Nat) :
    splitter.modeSize modeNumber =
      rowSize splitter.textOutListCount splitter.textOutQueryData map modeNumber := by
  rw [modeSize, present, rowSize, Nat.mul_comm]
  rfl

theorem queryMode_eq_some_iff (present : splitter.textOutModeMap = some map) :
    splitter.queryMode modeNumber = some size ↔
      modeNumber < splitter.textOutMode.maxMode ∧
        rowSize splitter.textOutListCount splitter.textOutQueryData map modeNumber = size ∧
          size ≠ (0, 0) := by
  rw [queryMode, modeSize_eq present]
  constructor
  · intro offered
    split at offered
    · cases offered
    · next inside =>
        split at offered
        · cases offered
        · next proper =>
            obtain rfl := Option.some.inj offered
            exact ⟨Nat.lt_of_not_le inside, rfl, proper⟩
  · rintro ⟨inside, rfl, proper⟩
    rw [if_neg (Nat.not_le.mpr inside), if_neg proper]

/-- A size is offered by the number of a mode or not at all. -/
theorem exists_queryMode_iff (listed : splitter.textOutList ≠ []) (right : Right modes splitter)
    (proper : size ≠ (0, 0)) :
    (∃ modeNumber, splitter.queryMode modeNumber = some size) ↔ splitter.HasSize size := by
  obtain ⟨-, map, present, -⟩ := right.table listed
  constructor
  · rintro ⟨modeNumber, offered⟩
    obtain ⟨inside, sized, -⟩ := (queryMode_eq_some_iff present).mp offered
    exact ⟨map, present, modeNumber, inside, sized⟩
  · rintro ⟨other, found, row, inside, sized⟩
    obtain rfl := Option.some.inj (present.symm.trans found)
    exact ⟨row, (queryMode_eq_some_iff present).mpr ⟨inside, sized, proper⟩⟩

/-- What the modes of a splitter are. -/
structure Shown (modes : δ → List (Option TextSize)) (splitter : TextOutSplitter δ) : Prop where
  first : splitter.queryMode 0 = some (40, 12)
  second : splitter.queryMode 1 =
    if splitter.textOutList ≠ [] ∧
        ∀ textOut ∈ splitter.textOutList, (modes textOut)[1]? = some (some (80, 50)) then
      some (80, 50)
    else none
  others : ∀ modeNumber size, splitter.queryMode modeNumber = some size →
    ∀ index textOut, splitter.textOutList[index]? = some textOut →
      ∃ number : Nat, splitter.numberOn modeNumber index = some (number : Int) ∧
        (modes textOut)[number]? = some (some size)

theorem TextOutSplitter.Right.shown (right : Right modes splitter) : Shown modes splitter := by
  by_cases listed : splitter.textOutList = []
  · obtain ⟨one, first, stale⟩ := right.empty listed
    constructor
    · have sized : splitter.modeSize 0 = (40, 12) := by
        cases present : splitter.textOutModeMap with
        | none => rw [modeSize, present, first]
        | some map =>
            rw [modeSize_eq present, rowSize, stale map present]
            exact first
      rw [queryMode, one, if_neg (by decide), sized, if_neg (by decide)]
    · rw [queryMode, one, if_pos (Nat.le_refl 1), if_neg fun both => both.1 listed]
    · intro modeNumber size _ index textOut found
      rw [listed] at found
      cases found
  · obtain ⟨reserved, map, present, truthful⟩ := right.table listed
    constructor
    · exact (queryMode_eq_some_iff present).mpr ⟨by omega, truthful.rowSize_zero, by decide⟩
    · have second := truthful.secondSize
      simp only [List.forall_mem_map] at second
      have sized := truthful.rowSize_one
      split
      · next usable =>
          rw [if_pos usable.2] at second
          exact (queryMode_eq_some_iff present).mpr ⟨reserved, sized.trans second, by decide⟩
      · next unusable =>
          rw [if_neg fun all => unusable ⟨listed, all⟩] at second
          rw [Option.eq_none_iff_forall_ne_some]
          intro size offered
          obtain ⟨-, same, proper⟩ := (queryMode_eq_some_iff present).mp offered
          exact proper (same.symm.trans (sized.trans second))
    · intro modeNumber size offered index textOut found
      obtain ⟨inside, rfl, proper⟩ := (queryMode_eq_some_iff present).mp offered
      have reported : (splitter.textOutList.map modes)[index]? = some (modes textOut) := by
        rw [List.getElem?_map, found]
        rfl
      obtain ⟨number, here, known⟩ :=
        (truthful.rows modeNumber inside).entries proper index _ reported
      refine ⟨number, ?_, known⟩
      rw [numberOn, present, Nat.mul_comm]
      exact congrArg some here

end Query

/-! ## Runs -/

section Runs

variable {δ : Type u} {modes : δ → List (Option TextSize)}

theorem change_right {splitter : TextOutSplitter δ}
    (conventional : ∀ textOut, Conventional (modes textOut)) (right : Right modes splitter)
    (change : Change δ) : Right modes (splitter.change modes change) := by
  cases change with
  | connect textOut => exact (attach_right (conventional textOut) right).1
  | disconnect index => exact (detach_right conventional right index).1

theorem change_offering {splitter : TextOutSplitter δ}
    (conventional : ∀ textOut, Conventional (modes textOut)) (right : Right modes splitter)
    (offering : splitter.Offering modes) (change : Change δ) :
    (splitter.change modes change).Offering modes := by
  cases change with
  | connect textOut => exact (attach_right (conventional textOut) right).2 offering
  | disconnect index =>
      rcases Nat.lt_or_ge index splitter.textOutList.length with inside | beyond
      · exact (detach_right conventional right index).2.1 inside
      · rw [TextOutSplitter.change, detach, right.number, if_pos beyond]
        exact offering

variable [DecidableEq δ]

/-- Both splitters are right. -/
def Splitters.Right (modes : δ → List (Option TextSize)) (splitters : Splitters δ) : Prop :=
  TextOutSplitter.Right modes splitters.conOut ∧ TextOutSplitter.Right modes splitters.stdErr

theorem Splitters.Right.step {splitters : Splitters δ}
    (conventional : ∀ textOut, Conventional (modes textOut)) (right : splitters.Right modes)
    (event : Event δ) : (splitters.step modes event).Right modes := by
  obtain ⟨conOut, stdErr⟩ := right
  cases event with
  | conOut change => exact ⟨change_right conventional conOut change, stdErr⟩
  | stdErr change => exact ⟨conOut, change_right conventional stdErr change⟩
  | intersect beyond => exact getIntersectionBetween_right conOut stdErr
  | call first second =>
      exact ⟨⟨conOut.number, conOut.some_step, conOut.room, conOut.empty, conOut.table⟩,
        ⟨stdErr.number, stdErr.some_step, stdErr.room, stdErr.empty, stdErr.table⟩⟩

/-- The splitters after some events. -/
def Splitters.steps (modes : δ → List (Option TextSize)) (splitters : Splitters δ)
    (events : List (Event δ)) : Splitters δ :=
  events.foldl (Splitters.step modes) splitters

theorem Splitters.Right.steps {splitters : Splitters δ}
    (conventional : ∀ textOut, Conventional (modes textOut)) (right : splitters.Right modes)
    (events : List (Event δ)) : (splitters.steps modes events).Right modes := by
  induction events generalizing splitters with
  | nil => exact right
  | cons event rest ih => exact ih (right.step conventional event)

theorem right_steps (conventional : ∀ textOut, Conventional (modes textOut))
    (events : List (Event δ)) : ((Splitters.constructed δ).steps modes events).Right modes :=
  Splitters.Right.steps conventional ⟨right_constructed modes, right_constructed modes⟩ events

/-- In every state of the two splitters, mode 0 is 40x12, mode 1 is 80x50 if it is so on every
console, and a mode that is offered is a mode of the same size on every console. -/
theorem shown_of_events (conventional : ∀ textOut, Conventional (modes textOut))
    (events : List (Event δ)) :
    Shown modes ((Splitters.constructed δ).steps modes events).conOut ∧
      Shown modes ((Splitters.constructed δ).steps modes events).stdErr := by
  obtain ⟨conOut, stdErr⟩ := right_steps conventional events
  exact ⟨conOut.shown, stdErr.shown⟩

/-- The graphics consoles of all screens. -/
abbrev graphicsModes (screen : U32 × U32) : List (Option TextSize) :=
  reportedModes screen.1 screen.2 0

theorem shown_of_events_graphics :
    Shown graphicsModes ((Splitters.constructed (U32 × U32)).steps graphicsModes
        [.conOut (.connect (480, 800)), .stdErr (.connect (480, 800)),
          .intersect fun _ => (480, 800), .conOut (.connect (1024, 768)),
          .conOut (.disconnect 0)]).conOut ∧
      Shown graphicsModes ((Splitters.constructed (U32 × U32)).steps graphicsModes
        [.conOut (.connect (480, 800)), .stdErr (.connect (480, 800)),
          .intersect fun _ => (480, 800), .conOut (.connect (1024, 768)),
          .conOut (.disconnect 0)]).stdErr :=
  shown_of_events (fun screen : U32 × U32 => conventional_graphics screen.1 screen.2 0) _

end Runs

/-! ## One splitter -/

section Changes

variable {δ : Type u} {modes : δ → List (Option TextSize)} {splitter : TextOutSplitter δ}

theorem exists_queryMode_of_offering (conventional : ∀ textOut, Conventional (modes textOut))
    (right : Right modes splitter) (offering : splitter.Offering modes) {size : TextSize}
    (apart : size ≠ (80, 50)) :
    (∃ modeNumber, splitter.queryMode modeNumber = some size) ↔
      (splitter.textOutList = [] → size = (40, 12)) ∧
        ∀ textOut ∈ splitter.textOutList, some size ∈ modes textOut := by
  have shown := right.shown
  constructor
  · rintro ⟨modeNumber, offered⟩
    constructor
    · intro none
      obtain ⟨one, -⟩ := right.empty none
      have low : modeNumber < 1 := by
        rw [queryMode, one] at offered
        split at offered
        · cases offered
        · next inside => exact Nat.lt_of_not_le inside
      obtain rfl : modeNumber = 0 := by omega
      exact (Option.some.inj (shown.first.symm.trans offered)).symm
    · intro textOut member
      obtain ⟨index, listed⟩ := List.mem_iff_getElem?.mp member
      obtain ⟨number, -, known⟩ := shown.others modeNumber size offered index textOut listed
      exact List.mem_of_getElem? known
  · rintro ⟨empty, shared⟩
    by_cases none : splitter.textOutList = []
    · rw [empty none]
      exact ⟨0, shown.first⟩
    · obtain ⟨first, member⟩ := List.exists_mem_of_ne_nil _ none
      have proper : size ≠ (0, 0) := (conventional first).proper size (shared first member)
      obtain ⟨-, map, present, -⟩ := right.table none
      rw [exists_queryMode_iff none right proper]
      refine ⟨map, present, offering none map present size apart ?_⟩
      rw [List.forall_mem_map]
      exact shared

theorem offering_changes (conventional : ∀ textOut, Conventional (modes textOut))
    (right : Right modes splitter) (offering : splitter.Offering modes)
    (changes : List (Change δ)) :
    Right modes (splitter.changes modes changes) ∧
      (splitter.changes modes changes).Offering modes := by
  induction changes generalizing splitter with
  | nil => exact ⟨right, offering⟩
  | cons change rest ih =>
      exact ih (change_right conventional right change)
        (change_offering conventional right offering change)

/-- A splitter whose consoles are not shared offers a size if all of its consoles have it, in
whatever order they came and went. -/
theorem offered_iff_of_changes (conventional : ∀ textOut, Conventional (modes textOut))
    (changes : List (Change δ)) {size : TextSize} (apart : size ≠ (80, 50)) :
    let splitter := (TextOutSplitter.constructed δ).changes modes changes
    (∃ modeNumber, splitter.queryMode modeNumber = some size) ↔
      (splitter.textOutList = [] → size = (40, 12)) ∧
        ∀ textOut ∈ splitter.textOutList, some size ∈ modes textOut := by
  obtain ⟨right, offering⟩ := offering_changes conventional (right_constructed modes)
    (fun listed => absurd rfl listed) changes
  exact exists_queryMode_of_offering conventional right offering apart

theorem offered_iff_of_changes_graphics :
    let splitter := (TextOutSplitter.constructed (U32 × U32)).changes graphicsModes
      [.connect (480, 800), .connect (1024, 768), .disconnect 0]
    (∃ modeNumber, splitter.queryMode modeNumber = some (60, 42)) ↔
      (splitter.textOutList = [] → ((60, 42) : TextSize) = (40, 12)) ∧
        ∀ textOut ∈ splitter.textOutList, some (60, 42) ∈ graphicsModes textOut :=
  offered_iff_of_changes (fun screen : U32 × U32 => conventional_graphics screen.1 screen.2 0)
    [.connect (480, 800), .connect (1024, 768), .disconnect 0] (by decide)

end Changes

/-! ## Both splitters -/

section Found

variable {δ : Type u} [DecidableEq δ] {modes : δ → List (Option TextSize)}

/-- The intersection leaves the lists of consoles alone. -/
theorem getIntersectionBetween_textOutList (beyond : Nat → δ) (splitters : Splitters δ) :
    (getIntersectionBetweenConOutAndStdErr beyond splitters).conOut.textOutList =
        splitters.conOut.textOutList ∧
      (getIntersectionBetweenConOutAndStdErr beyond splitters).stdErr.textOutList =
        splitters.stdErr.textOutList := by
  have recovered (splitter : TextOutSplitter δ) :
      splitter.recover.textOutList = splitter.textOutList := by
    rw [recover]
    split <;> rfl
  rw [getIntersectionBetweenConOutAndStdErr]
  split
  · split
    · simp only [recovered, restrict_textOutList, and_self]
    · exact ⟨rfl, rfl⟩
  · exact ⟨rfl, rfl⟩

/-- When the driver finds a console of both, both offer the same sizes from then on: those
that both offered. -/
theorem offered_iff_of_found (conventional : ∀ textOut, Conventional (modes textOut))
    (events : List (Event δ)) (beyond : Nat → δ) {size : TextSize}
    (found : foundTheSameTextOut
      (readList ((Splitters.constructed δ).steps modes events).stdErr.textOutList beyond)
      ((Splitters.constructed δ).steps modes events).stdErr.currentNumberOfConsoles
      ((Splitters.constructed δ).steps modes events).conOut.textOutList 0 = true)
    (apart : size ≠ (80, 50)) :
    let before := (Splitters.constructed δ).steps modes events
    let after := (Splitters.constructed δ).steps modes (events ++ [.intersect beyond])
    ((∃ modeNumber, after.conOut.queryMode modeNumber = some size) ↔
        (∃ modeNumber, before.conOut.queryMode modeNumber = some size) ∧
          ∃ modeNumber, before.stdErr.queryMode modeNumber = some size) ∧
      ((∃ modeNumber, after.stdErr.queryMode modeNumber = some size) ↔
        (∃ modeNumber, before.conOut.queryMode modeNumber = some size) ∧
          ∃ modeNumber, before.stdErr.queryMode modeNumber = some size) := by
  intro before after
  have last : after = getIntersectionBetweenConOutAndStdErr beyond before :=
    List.foldl_append
  obtain ⟨conOut, stdErr⟩ := right_steps conventional events
  obtain ⟨listed, other_listed⟩ := listed_of_found stdErr.number found
  obtain ⟨left, right⟩ := @getIntersectionBetween_right _ _ _ _ beyond conOut stdErr
  obtain ⟨same, other_same⟩ := getIntersectionBetween_textOutList beyond before
  rw [last]
  by_cases proper : size = (0, 0)
  · have never {splitter : TextOutSplitter δ} (right : TextOutSplitter.Right modes splitter)
        (some_console : splitter.textOutList ≠ []) :
        ¬ ∃ modeNumber, splitter.queryMode modeNumber = some size := by
      rintro ⟨modeNumber, offered⟩
      obtain ⟨-, map, present, -⟩ := right.table some_console
      exact ((queryMode_eq_some_iff present).mp offered).2.2 proper
    have none := never conOut listed
    have left_none := never left (by rw [same]; exact listed)
    have right_none := never right (by rw [other_same]; exact other_listed)
    exact ⟨iff_of_false left_none fun both => none both.1,
      iff_of_false right_none fun both => none both.1⟩
  · rw [exists_queryMode_iff (by rw [same]; exact listed) left proper,
      exists_queryMode_iff (by rw [other_same]; exact other_listed) right proper,
      exists_queryMode_iff listed conOut proper, exists_queryMode_iff other_listed stdErr proper]
    exact getIntersectionBetween_hasSize conOut stdErr found proper apart

/-- One console in both. -/
theorem found_of_both (textOut : δ) (beyond : Nat → δ) :
    foundTheSameTextOut
      (readList ((Splitters.constructed δ).steps modes
        [.conOut (.connect textOut), .stdErr (.connect textOut)]).stdErr.textOutList beyond)
      ((Splitters.constructed δ).steps modes
        [.conOut (.connect textOut), .stdErr (.connect textOut)]).stdErr.currentNumberOfConsoles
      ((Splitters.constructed δ).steps modes
        [.conOut (.connect textOut), .stdErr (.connect textOut)]).conOut.textOutList 0 = true := by
  have list : ((TextOutSplitter.constructed δ).attach modes textOut).textOutList = [textOut] :=
    attach_textOutList (right_constructed modes)
  have number : ((TextOutSplitter.constructed δ).attach modes textOut).currentNumberOfConsoles =
      1 := rfl
  rw [foundTheSameTextOut_iff]
  refine ⟨0, textOut, ?_, 0, ?_, ?_⟩
  · exact congrArg (·[0]?) list
  · exact Nat.lt_of_lt_of_eq Nat.zero_lt_one number.symm
  · exact (congrArg (fun list => readList list beyond 0) list).symm

theorem offered_iff_of_found_graphics :
    let events : List (Event (U32 × U32)) :=
      [.conOut (.connect (480, 800)), .stdErr (.connect (480, 800))]
    let before := (Splitters.constructed (U32 × U32)).steps graphicsModes events
    let after := (Splitters.constructed (U32 × U32)).steps graphicsModes
      (events ++ [.intersect fun _ => (0, 0)])
    ((∃ modeNumber, after.conOut.queryMode modeNumber = some (60, 42)) ↔
        (∃ modeNumber, before.conOut.queryMode modeNumber = some (60, 42)) ∧
          ∃ modeNumber, before.stdErr.queryMode modeNumber = some (60, 42)) ∧
      ((∃ modeNumber, after.stdErr.queryMode modeNumber = some (60, 42)) ↔
        (∃ modeNumber, before.conOut.queryMode modeNumber = some (60, 42)) ∧
          ∃ modeNumber, before.stdErr.queryMode modeNumber = some (60, 42)) :=
  offered_iff_of_found (fun screen : U32 × U32 => conventional_graphics screen.1 screen.2 0)
    [.conOut (.connect (480, 800)), .stdErr (.connect (480, 800))] (fun _ => (0, 0))
    (found_of_both _ _) (by decide)

end Found

/-! ## The search -/

section Search

variable {δ : Type u} {list : List δ} {beyond : Nat → δ} {place : Nat}

theorem readList_of_lt (inside : place < list.length) :
    some (readList list beyond place) = list[place]? := by
  rw [readList, List.getD_eq_getElem?_getD, List.getElem?_eq_getElem inside, Option.getD_some]

theorem readList_of_le (outside : list.length ≤ place) :
    readList list beyond place = beyond place := by
  rw [readList, List.getD_eq_getElem?_getD, List.getElem?_eq_none outside, Option.getD_none]

/-- The search sees only the first console of `ConOut` beside the list of `StdErr`: the others
are compared with the memory behind the list. -/
theorem found_iff_first [DecidableEq δ] (conOut stdErr : List δ) (beyond : Nat → δ) :
    foundTheSameTextOut (readList stdErr beyond) stdErr.length conOut 0 = true ↔
      (∃ textOut ∈ stdErr, conOut[0]? = some textOut) ∨
        ∃ first textOut, conOut[first + 1]? = some textOut ∧
          ∃ place, (first + 1) * stdErr.length ≤ place ∧ place < (first + 2) * stdErr.length ∧
            textOut = beyond place := by
  rw [foundTheSameTextOut_iff]
  constructor
  · rintro ⟨first, textOut, listed, other, before, here⟩
    rw [Nat.zero_add] at here
    cases first with
    | zero =>
        rw [Nat.zero_mul, Nat.zero_add] at here
        have known : stdErr[other]? = some textOut := by rw [here, readList_of_lt before]
        exact .inl ⟨textOut, List.mem_of_getElem? known, listed⟩
    | succ first =>
        have row : (first + 2) * stdErr.length = (first + 1) * stdErr.length + stdErr.length :=
          Nat.succ_mul (first + 1) _
        have outside : stdErr.length ≤ (first + 1) * stdErr.length + other := by
          rw [Nat.succ_mul]
          omega
        rw [readList_of_le outside] at here
        exact .inr ⟨first, textOut, listed, _, Nat.le_add_right _ _, by omega, here⟩
  · rintro (⟨textOut, member, listed⟩ | ⟨first, textOut, listed, place, low, high, here⟩)
    · obtain ⟨other, known⟩ := List.mem_iff_getElem?.mp member
      have before : other < stdErr.length := (List.getElem?_eq_some_iff.mp known).1
      refine ⟨0, textOut, listed, other, before, ?_⟩
      rw [Nat.zero_mul, Nat.zero_add]
      exact Option.some.inj (known.symm.trans (readList_of_lt before).symm)
    · have row : (first + 2) * stdErr.length = (first + 1) * stdErr.length + stdErr.length :=
        Nat.succ_mul (first + 1) _
      have outside : stdErr.length ≤ place := by
        rw [Nat.succ_mul] at low
        omega
      refine ⟨first + 1, textOut, listed, place - (first + 1) * stdErr.length, by omega, ?_⟩
      rw [Nat.zero_add, Nat.add_sub_cancel' low, readList_of_le outside]
      exact here

end Search

end HtcLeo.ConSplitter
