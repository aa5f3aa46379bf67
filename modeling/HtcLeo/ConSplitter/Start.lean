import HtcLeo.ConSplitter.Calls

/-!
# Setting the mode of a new table

When a console comes, the driver looks for the size to set, and sets it on all consoles.  What
they showed before does not matter: all of them are in lockstep then.
-/

namespace HtcLeo.ConSplitter

open HtcLeo.GraphicsConsole Terminal TextOutSplitter

universe u

/-! ## The search -/

/-- Both columns and rows are given. -/
def IsGiven (modeInfo : TextSize) : Prop :=
  modeInfo.1 ≠ 0 ∧ modeInfo.2 ≠ 0

/-- What the search has found among the first modes. -/
structure Searched (modeInfo : TextSize) (query : Nat → Option TextSize) (count : Nat)
    (found : FoundModes) : Prop where
  base : ∀ mode < count, query mode = some (40, 12) → query found.baseMode = some (40, 12)
  given : IsGiven modeInfo → query found.preferMode = some modeInfo ∨
    found.preferMode = 0xFF ∧ ∀ mode < count, query mode ≠ some modeInfo
  highest : ¬ IsGiven modeInfo → query found.preferMode = some found.maxModeInfo ∨
    found.maxModeInfo = (0, 0) ∧ ∀ mode < count, query mode = none
  maximal : ¬ IsGiven modeInfo → ∀ mode < count, ∀ size, query mode = some size →
    found.maxModeInfo.1 ≤ size.1 → found.maxModeInfo.2 ≤ size.2 → size = found.maxModeInfo

section Search

variable {modeInfo size : TextSize} {query : Nat → Option TextSize} {count mode : Nat}
  {found : FoundModes}

theorem searched_start (modeInfo : TextSize) (query : Nat → Option TextSize) :
    Searched modeInfo query 0 ⟨0xFF, 0xFF, (0, 0)⟩ where
  base _ before := absurd before (Nat.not_lt_zero _)
  given _ := .inr ⟨rfl, fun _ before => absurd before (Nat.not_lt_zero _)⟩
  highest _ := .inr ⟨rfl, fun _ before => absurd before (Nat.not_lt_zero _)⟩
  maximal _ _ before := absurd before (Nat.not_lt_zero _)

theorem consider_baseMode (modeInfo : TextSize) (found : FoundModes) (mode : Nat)
    (size : TextSize) :
    (found.consider modeInfo mode (some size)).baseMode =
      if size = (40, 12) then mode else found.baseMode := by
  rw [FoundModes.consider]
  split
  · rfl
  · split
    · split <;> rfl
    · split <;> rfl

theorem consider_given (given : IsGiven modeInfo) (found : FoundModes) (mode : Nat)
    (size : TextSize) :
    (found.consider modeInfo mode (some size)).preferMode =
      if size = modeInfo then mode else found.preferMode := by
  have given : modeInfo.1 ≠ 0 ∧ modeInfo.2 ≠ 0 := given
  rw [FoundModes.consider]
  rw [if_pos given]
  split
  · split <;> rfl
  · split <;> rfl

theorem consider_highest (none : ¬ IsGiven modeInfo) (found : FoundModes) (mode : Nat)
    (size : TextSize) :
    ((found.consider modeInfo mode (some size)).preferMode,
        (found.consider modeInfo mode (some size)).maxModeInfo) =
      if found.maxModeInfo.1 ≤ size.1 ∧ found.maxModeInfo.2 ≤ size.2 then (mode, size)
      else (found.preferMode, found.maxModeInfo) := by
  have none : ¬ (modeInfo.1 ≠ 0 ∧ modeInfo.2 ≠ 0) := none
  rw [FoundModes.consider]
  rw [if_neg none]
  split
  · split <;> rfl
  · split <;> rfl

/-- A mode that is not offered changes nothing. -/
theorem Searched.skip (searched : Searched modeInfo query count found)
    (missing : query count = none) : Searched modeInfo query (count + 1) found := by
  have other {mode : Nat} (before : mode < count + 1) (size : TextSize)
      (known : query mode = some size) : mode < count := by
    rcases Nat.lt_succ_iff_lt_or_eq.mp before with earlier | rfl
    · exact earlier
    · rw [missing] at known
      cases known
  constructor
  · exact fun mode before known => searched.base mode (other before _ known) known
  · intro given
    rcases searched.given given with set | ⟨unset, without⟩
    · exact .inl set
    · exact .inr ⟨unset, fun mode before known => without mode (other before _ known) known⟩
  · intro none
    rcases searched.highest none with set | ⟨unset, without⟩
    · exact .inl set
    · refine .inr ⟨unset, fun mode before => ?_⟩
      rcases Nat.lt_succ_iff_lt_or_eq.mp before with earlier | rfl
      · exact without mode earlier
      · exact missing
  · exact fun none mode before size known =>
      searched.maximal none mode (other before _ known) size known

/-- A mode that is offered. -/
theorem Searched.take (searched : Searched modeInfo query count found)
    (here : query count = some size) :
    Searched modeInfo query (count + 1) (found.consider modeInfo count (some size)) := by
  constructor
  · intro mode before known
    rw [consider_baseMode]
    split
    · next base =>
        rw [here, base]
    · next other =>
        rcases Nat.lt_succ_iff_lt_or_eq.mp before with earlier | rfl
        · exact searched.base mode earlier known
        · exact absurd (Option.some.inj (here.symm.trans known)) other
  · intro given
    rw [consider_given given]
    split
    · next same =>
        rw [here, same]
        exact .inl rfl
    · next other =>
        rcases searched.given given with set | ⟨unset, without⟩
        · exact .inl set
        · refine .inr ⟨unset, fun mode before known => ?_⟩
          rcases Nat.lt_succ_iff_lt_or_eq.mp before with earlier | rfl
          · exact without mode earlier known
          · exact other (Option.some.inj (here.symm.trans known))
  · intro none
    have both := consider_highest none found count size
    split at both
    · obtain ⟨prefer, highest⟩ := Prod.mk.inj both
      rw [prefer, highest]
      exact .inl here
    · next lower =>
        obtain ⟨prefer, highest⟩ := Prod.mk.inj both
        rw [prefer, highest]
        rcases searched.highest none with set | ⟨unset, without⟩
        · exact .inl set
        · rw [unset] at lower
          exact absurd ⟨Nat.zero_le _, Nat.zero_le _⟩ lower
  · intro none mode before other known across down
    have both := consider_highest none found count size
    split at both
    · next higher =>
        rw [(Prod.mk.inj both).2] at across down ⊢
        rcases Nat.lt_succ_iff_lt_or_eq.mp before with earlier | rfl
        · have same := searched.maximal none mode earlier other known
            (Nat.le_trans higher.1 across) (Nat.le_trans higher.2 down)
          rw [same] at across down ⊢
          exact Prod.ext (Nat.le_antisymm higher.1 across) (Nat.le_antisymm higher.2 down)
        · exact Option.some.inj (known.symm.trans here)
    · next lower =>
        rw [(Prod.mk.inj both).2] at across down ⊢
        rcases Nat.lt_succ_iff_lt_or_eq.mp before with earlier | rfl
        · exact searched.maximal none mode earlier other known across down
        · obtain rfl := Option.some.inj (here.symm.trans known)
          exact absurd ⟨across, down⟩ lower

theorem searched_range (modeInfo : TextSize) (query : Nat → Option TextSize) (count : Nat) :
    Searched modeInfo query count ((List.range count).foldl
      (fun found mode => found.consider modeInfo mode (query mode)) ⟨0xFF, 0xFF, (0, 0)⟩) := by
  induction count with
  | zero => exact searched_start modeInfo query
  | succ count ih =>
      rw [List.range_succ, List.foldl_append]
      cases here : query count with
      | none =>
          rw [List.foldl_cons, here]
          exact ih.skip here
      | some size =>
          rw [List.foldl_cons, here]
          exact ih.take here

end Search

/-! ## The size that is set -/

/-- The size that is set for one that is given, and what is given then.  Without one it is a
size that no other is beyond. -/
structure Chosen (modeInfo after : TextSize) (offered : TextSize → Prop) (size : TextSize) :
    Prop where
  given : IsGiven modeInfo → offered modeInfo → size = modeInfo ∧ after = modeInfo
  fallback : IsGiven modeInfo → ¬ offered modeInfo → size = (40, 12) ∧ after = (40, 12)
  highest : ¬ IsGiven modeInfo → after = modeInfo ∧ offered size ∧
    ∀ other, offered other → size.1 ≤ other.1 → size.2 ≤ other.2 → other = size

section Chosen

variable {modeInfo size zero : TextSize} {query : Nat → Option TextSize} {count : Nat}
  {found : FoundModes}

/-- The search finds no mode only if a size is given that none has. -/
theorem Searched.not_found (searched : Searched modeInfo query count found)
    (inside : ∀ mode size, query mode = some size → mode < count) (first : query 0 = some zero)
    (missing : ∀ size, query found.preferMode ≠ some size) :
    IsGiven modeInfo ∧ found.preferMode = 0xFF ∧ ∀ mode, query mode ≠ some modeInfo := by
  have given : IsGiven modeInfo := by
    by_contra none
    rcases searched.highest none with same | ⟨-, without⟩
    · exact missing _ same
    · rw [without 0 (inside 0 zero first)] at first
      cases first
  obtain ⟨unset, without⟩ := (searched.given given).resolve_left (missing _)
  exact ⟨given, unset, fun mode known => without mode (inside mode _ known) known⟩

/-- The size of a mode that the search finds. -/
theorem Searched.chosen (searched : Searched modeInfo query count found)
    (inside : ∀ mode size, query mode = some size → mode < count) (first : query 0 = some zero)
    (few : count ≤ 0xFF) (known : query found.preferMode = some size) :
    Chosen modeInfo modeInfo (fun other => ∃ mode, query mode = some other) size := by
  constructor
  · rintro given ⟨mode, offered⟩
    rcases searched.given given with same | ⟨-, without⟩
    · exact ⟨Option.some.inj (known.symm.trans same), rfl⟩
    · exact absurd offered (without mode (inside mode _ offered))
  · intro given missing
    rcases searched.given given with same | ⟨unset, -⟩
    · exact absurd ⟨_, same⟩ missing
    · have before := inside _ _ known
      rw [unset] at before
      exact absurd few (Nat.not_le.mpr before)
  · intro none
    rcases searched.highest none with same | ⟨-, without⟩
    · obtain rfl := Option.some.inj (known.symm.trans same)
      exact ⟨rfl, ⟨_, known⟩, fun other ⟨mode, offered⟩ across down =>
        searched.maximal none mode (inside mode _ offered) other offered across down⟩
    · rw [without 0 (inside 0 zero first)] at first
      cases first

end Chosen

section Start

variable {γ : Type u} {paper : Paper γ} {splitter after : TextOutSplitter (TextOut γ)}
  {size conOutSize : TextSize}

/-- The sizes that a splitter offers. -/
def TextOutSplitter.Offered {δ : Type u} (splitter : TextOutSplitter δ) (size : TextSize) : Prop :=
  ∃ modeNumber, splitter.queryMode modeNumber = some size

theorem TextOut.length_modes_le (textOut : TextOut γ) : textOut.modes.length ≤ 255 := by
  rw [modes, List.length_map]
  exact textOut.few

/-! ## The current mode of a new table -/

section Table

variable {δ : Type u} {modes : δ → List (Option TextSize)} {splitter : TextOutSplitter δ}

/-- The first console has a mode for every row. -/
theorem maxMode_le (few : ∀ textOut, (modes textOut).length ≤ 255) (right : Right modes splitter) :
    splitter.textOutMode.maxMode ≤ 255 := by
  cases list : splitter.textOutList with
  | nil =>
      rw [(right.empty list).1]
      decide
  | cons first rest =>
      have listed : splitter.textOutList ≠ [] := by
        rw [list]
        exact List.cons_ne_nil _ _
      obtain ⟨reserved, map, -, truthful⟩ := right.table listed
      rcases Nat.lt_or_ge 2 splitter.textOutMode.maxMode with more | two
      · have inside : splitter.textOutMode.maxMode - 1 < splitter.textOutMode.maxMode := by omega
        have high := truthful.le_entry inside
        have row := truthful.rows _ inside
        obtain ⟨mode, here, known⟩ := row.entries (row.sizes (by omega)) 0 (modes first)
          (by rw [list]; rfl)
        have bound := (List.getElem?_eq_some_iff.mp known).1
        have few := few first
        omega
      · omega

theorem growTextOutList_textOutMode (splitter : TextOutSplitter δ) :
    splitter.growTextOutList.textOutMode = splitter.textOutMode := by
  induction splitter using growTextOutList.induct with
  | case1 splitter full ih =>
      rw [growTextOutList, if_pos full]
      exact ih
  | case2 splitter room => rw [growTextOutList, if_neg room]

/-- The current mode goes with its row. -/
theorem syncOutputMode_tracked (textOut : δ) (reserved : 2 ≤ splitter.textOutMode.maxMode)
    (room : splitter.currentNumberOfConsoles < splitter.textOutListCount) {map : Nat → Int}
    (present : splitter.textOutModeMap = some map) : ∃ now,
    (splitter.syncOutputMode modes textOut).textOutMode.maxMode =
        Nat.count (InColumn splitter.textOutListCount splitter.currentNumberOfConsoles now)
          splitter.textOutMode.maxMode ∧
      (splitter.syncOutputMode modes textOut).textOutMode.mode =
        tracked (InColumn splitter.textOutListCount splitter.currentNumberOfConsoles now)
          splitter.textOutMode.maxMode splitter.textOutMode.mode := by
  refine ⟨(syncModes splitter.textOutListCount splitter.textOutMode.maxMode
    splitter.currentNumberOfConsoles (modes textOut) 0 (splitter.textOutQueryData, map)).2, ?_⟩
  rw [syncOutputMode, present]
  dsimp only
  rw [restrict_eq rfl]
  exact (getIntersection_spec (rowWise_column room) _ reserved splitter.textOutMode.mode).2

/-- A mode beyond the table stays beyond it when rows are taken out. -/
theorem count_le_tracked {kept : Nat → Prop} [DecidablePred kept] {maxMode : Nat} {mode : Int}
    (beyond : (maxMode : Int) ≤ mode) :
    (Nat.count kept maxMode : Int) ≤ tracked kept maxMode mode := by
  have few : Nat.count kept maxMode ≤ maxMode := Nat.count_le _
  rw [tracked, if_neg (by omega), if_neg (by omega)]
  omega

theorem restrict_maxMode_le (right : Right modes splitter) (listed : splitter.textOutList ≠ [])
    (other : Nat → Int)
    (beyond : (splitter.textOutMode.maxMode : Int) ≤ splitter.textOutMode.mode) :
    ((splitter.restrict fun _ index => other index).textOutMode.maxMode : Int) ≤
      (splitter.restrict fun _ index => other index).textOutMode.mode := by
  obtain ⟨reserved, map, present, -⟩ := right.table listed
  obtain ⟨-, counted, followed⟩ := @getIntersection_spec splitter.textOutListCount
    (fun _ index => other index) (fun _ _ _ _ => rfl) map _ reserved splitter.textOutMode.mode
  rw [restrict_eq present]
  dsimp only
  rw [counted, followed]
  exact count_le_tracked beyond

/-- No mode of the new table is the current one. -/
theorem attach_maxMode_le (few : ∀ textOut, (modes textOut).length ≤ 255)
    (right : Right modes splitter) (unset : splitter.textOutMode.mode = 0xFF) (textOut : δ) :
    ((splitter.attach modes textOut).textOutMode.maxMode : Int) ≤
      (splitter.attach modes textOut).textOutMode.mode := by
  obtain ⟨wide, same, room, -⟩ := @growTextOutList_spec _ _ _ [] right
  have kept := growTextOutList_textOutMode splitter
  rw [attach]
  dsimp only
  split
  · have few := few textOut
    have filled : ({ splitter.growTextOutList with
        textOutList := splitter.growTextOutList.textOutList ++ [textOut] }.addOutputMode
          modes textOut).textOutMode =
        { splitter.textOutMode with maxMode := (modes textOut).length } := by
      rw [← kept]
      rfl
    rw [filled]
    dsimp only
    omega
  · next some_console =>
      have listed : splitter.growTextOutList.textOutList ≠ [] := by
        intro none
        rw [right.number, ← same, none] at some_console
        exact some_console rfl
      obtain ⟨reserved, map, present, -⟩ := wide.table listed
      have bound := maxMode_le few right
      have within : splitter.growTextOutList.currentNumberOfConsoles <
          splitter.growTextOutList.textOutListCount := by
        rw [wide.number, same]
        exact room
      obtain ⟨now, counted, followed⟩ := @syncOutputMode_tracked _ modes
        { splitter.growTextOutList with
          textOutList := splitter.growTextOutList.textOutList ++ [textOut] }
        textOut reserved within _ present
      rw [counted, followed]
      refine count_le_tracked ?_
      dsimp only
      rw [kept]
      omega

end Table

/-! ## The mode that is set -/

/-- The assertion of `ConsplitterSetConsoleOutMode`: the mode that is set in the end is one that
can be. -/
def TextOutSplitter.SetsBaseMode (paper : Paper γ) (conOutSize : TextSize)
    (splitter : TextOutSplitter (TextOut γ)) : Prop :=
  (splitter.setMode paper (splitter.findModes conOutSize).preferMode).1.isError = true →
    ((splitter.setMode paper (splitter.findModes conOutSize).preferMode).2.setMode paper
      (splitter.findModes conOutSize).baseMode).1 = .success

/-- A splitter that has set a mode of a size on all consoles. -/
structure TextOutSplitter.HasSet (splitter after : TextOutSplitter (TextOut γ)) (size : TextSize) :
    Prop where
  same : SameTable splitter after
  mode : ∃ modeNumber : Nat, splitter.queryMode modeNumber = some size ∧
    after.textOutMode = splitter.textOutMode.set modeNumber
  consoles : ∀ textOut ∈ after.textOutList, textOut.Placed size after.textOutMode

section Set

variable (right : Right TextOut.modes splitter)
  (beyond : (splitter.textOutMode.maxMode : Int) ≤ splitter.textOutMode.mode)
include right beyond

theorem setMode_of_beyond {modeNumber : Nat}
    (offered : splitter.queryMode modeNumber = some size) :
    (splitter.setMode paper modeNumber).1 = .success ∧
      splitter.HasSet (splitter.setMode paper modeNumber).2 size := by
  have inside := lt_maxMode offered
  obtain ⟨success, same, data, consoles⟩ := @setMode_placed _ paper _ _ _ right offered (by omega)
  refine ⟨success, same, ⟨modeNumber, offered, data⟩, ?_⟩
  rw [data]
  exact fun textOut member => (consoles textOut member).1

/-- The search leads to a mode that is set on all consoles. -/
theorem setConsoleOutMode_spec (conOutSize : TextSize) :
    ∃ size, splitter.HasSet (splitter.setConsoleOutMode paper conOutSize).1 size ∧
      Chosen conOutSize (splitter.setConsoleOutMode paper conOutSize).2 splitter.Offered size ∧
        splitter.SetsBaseMode paper conOutSize := by
  have searched : Searched conOutSize splitter.queryMode splitter.textOutMode.maxMode
      (splitter.findModes conOutSize) :=
    searched_range conOutSize splitter.queryMode splitter.textOutMode.maxMode
  have inside (modeNumber : Nat) (size : TextSize)
      (known : splitter.queryMode modeNumber = some size) :
      modeNumber < splitter.textOutMode.maxMode := lt_maxMode known
  have first := right.shown.first
  have few := maxMode_le TextOut.length_modes_le right
  by_cases offered : ∃ size, splitter.queryMode (splitter.findModes conOutSize).preferMode =
      some size
  · obtain ⟨size, offered⟩ := offered
    obtain ⟨success, set⟩ := @setMode_of_beyond _ paper _ _ right beyond _ offered
    have taken : splitter.setConsoleOutMode paper conOutSize =
        ((splitter.setMode paper (splitter.findModes conOutSize).preferMode).2, conOutSize) := by
      rw [TextOutSplitter.setConsoleOutMode, success]
      rfl
    rw [taken]
    refine ⟨size, set, searched.chosen inside first few offered, ?_⟩
    intro failed
    rw [success] at failed
    cases failed
  · obtain ⟨given, unset, without⟩ := searched.not_found inside first (not_exists.mp offered)
    have base := searched.base 0 (lt_maxMode first) first
    have refused : splitter.setMode paper (splitter.findModes conOutSize).preferMode =
        (.unsupported, splitter) := by
      rw [unset, TextOutSplitter.setMode, if_pos few]
    obtain ⟨success, set⟩ := @setMode_of_beyond _ paper _ _ right beyond _ base
    have taken : splitter.setConsoleOutMode paper conOutSize =
        ((splitter.setMode paper (splitter.findModes conOutSize).baseMode).2, (40, 12)) := by
      rw [TextOutSplitter.setConsoleOutMode, refused]
      rfl
    rw [taken]
    refine ⟨(40, 12), set, ⟨?_, ?_, ?_⟩, ?_⟩
    · rintro - ⟨modeNumber, known⟩
      exact absurd known (without modeNumber)
    · exact fun _ _ => ⟨rfl, rfl⟩
    · exact fun none => absurd given none
    · intro _
      rw [refused]
      exact success

end Set

theorem Lockstep.of_hasSet (right : Right TextOut.modes splitter) (set : splitter.HasSet after size)
    {attr : U32} (valid : attr ||| 0x7F = 0x7F) :
    Lockstep size (after.setAttribute paper attr).2 := by
  obtain ⟨-, same, data, consoles⟩ := @callAll_setAttribute _ paper _ _ _ _ valid set.consoles
  obtain ⟨modeNumber, offered, current⟩ := set.mode
  refine .of_sameTable (set.same.trans same) right ?_ ?_ ?_ ?_ ?_
  · rw [data, current]
    exact Int.natCast_nonneg _
  · rw [data, current]
    exact offered
  · rw [data]
    exact valid
  · rw [data, current]
    exact size_pos right offered
  · rw [data]
    exact consoles

end Start

end HtcLeo.ConSplitter
