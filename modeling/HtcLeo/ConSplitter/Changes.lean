import HtcLeo.ConSplitter.Sync

/-!
# Consoles come and go

A splitter is right when its table is, for the consoles of its list.  It stays so when a
console comes, also when the list has to grow for it, and when one goes.
-/

namespace HtcLeo.ConSplitter

open Grid

universe u

namespace TextOutSplitter

section Table

variable {δ : Type u} (modes : δ → List (Option TextSize))

/-- The splitter has a table that is right for some consoles. -/
def Tabled (consoles : List (List (Option TextSize))) (splitter : TextOutSplitter δ) : Prop :=
  2 ≤ splitter.textOutMode.maxMode ∧
    ∃ map, splitter.textOutModeMap = some map ∧
      Truthful splitter.textOutListCount (· < splitter.textOutMode.maxMode)
        splitter.textOutQueryData map consoles

/-- The splitter's table offers what some consoles share. -/
def Offers (consoles : List (List (Option TextSize))) (splitter : TextOutSplitter δ) : Prop :=
  ∀ map, splitter.textOutModeMap = some map →
    Complete splitter.textOutListCount splitter.textOutMode.maxMode splitter.textOutQueryData map
      consoles

/-- The splitter is right: without a console it has the one mode 40x12. -/
structure Right (splitter : TextOutSplitter δ) : Prop where
  number : splitter.currentNumberOfConsoles = splitter.textOutList.length
  some_step : 0 < splitter.textOutListCount
  room : splitter.textOutList.length ≤ splitter.textOutListCount
  empty : splitter.textOutList = [] →
    splitter.textOutMode.maxMode = 1 ∧ splitter.textOutQueryData 0 = (40, 12) ∧
      ∀ map, splitter.textOutModeMap = some map →
        entry splitter.textOutListCount map 0 0 = 0
  table : splitter.textOutList ≠ [] → splitter.Tabled (splitter.textOutList.map modes)

end Table

section Changes

variable {δ : Type u} {modes : δ → List (Option TextSize)} {splitter : TextOutSplitter δ}
  {consoles : List (List (Option TextSize))} {textOut : δ}

theorem right_constructed (modes : δ → List (Option TextSize)) :
    Right modes (constructed δ) where
  number := rfl
  some_step := (by decide : 0 < CONSOLE_SPLITTER_ALLOC_UNIT)
  room := Nat.zero_le _
  empty _ := ⟨rfl, rfl, fun _ missing => by cases missing⟩
  table listed := absurd rfl listed

/-! ## Growing -/

/-- A table that grows has the entries of the consoles. -/
theorem grow_widened {map : Nat → Int} (present : splitter.textOutModeMap = some map)
    (fits : splitter.currentNumberOfConsoles ≤ splitter.grow.textOutListCount) :
    ∃ grown, splitter.grow.textOutModeMap = some grown ∧
      Widened splitter.textOutListCount splitter.grow.textOutListCount splitter.textOutMode.maxMode
        splitter.currentNumberOfConsoles map grown := by
  have old : splitter.grow.textOutListCount - CONSOLE_SPLITTER_ALLOC_UNIT =
      splitter.textOutListCount :=
    Nat.add_sub_cancel _ _
  refine ⟨grownMap splitter.grow.textOutListCount splitter.currentNumberOfConsoles
    splitter.textOutMode.maxMode (some map), ?_, ?_⟩
  · rw [← present]
    rfl
  · intro row inside column within
    rw [grownMap, old, entry_foldl_copyEntries fits within]
    simp only [inside, true_and]
    rfl

theorem grow_right (right : Right modes splitter) (listed : splitter.textOutList ≠ []) :
    Right modes splitter.grow ∧ (splitter.Offers consoles → splitter.grow.Offers consoles) := by
  obtain ⟨reserved, map, present, truthful⟩ := right.table listed
  have positive : 0 < (splitter.textOutList.map modes).length := by
    rw [List.length_map]
    exact List.length_pos_iff.mpr listed
  have room : splitter.textOutList.length ≤ splitter.grow.textOutListCount :=
    Nat.le_trans right.room (Nat.le_add_right _ _)
  have fits : (splitter.textOutList.map modes).length ≤ splitter.grow.textOutListCount := by
    rw [List.length_map]
    exact room
  obtain ⟨grown, table, widened⟩ := grow_widened present (by rw [right.number]; exact room)
  rw [right.number, ← List.length_map modes] at widened
  constructor
  · constructor
    · exact right.number
    · exact Nat.lt_of_lt_of_le right.some_step (Nat.le_add_right _ _)
    · exact room
    · exact fun none => absurd none listed
    · exact fun _ => ⟨reserved, grown, table, truthful.widen widened positive fits reserved⟩
  · intro offers other found
    obtain rfl : grown = other := Option.some.inj (table.symm.trans found)
    exact (offers map present).widen widened positive fits

/-- The list grows once at most, and then there is a place in it. -/
theorem growTextOutList_spec (right : Right modes splitter) :
    Right modes splitter.growTextOutList ∧
      splitter.growTextOutList.textOutList = splitter.textOutList ∧
      splitter.textOutList.length < splitter.growTextOutList.textOutListCount ∧
      (splitter.textOutList ≠ [] → splitter.Offers consoles →
        splitter.growTextOutList.Offers consoles) := by
  rw [growTextOutList]
  split
  · next full =>
      have number := right.number
      have some_step := right.some_step
      have listed : splitter.textOutList ≠ [] := by
        intro none
        rw [none, List.length_nil] at number
        omega
      have room : ¬ splitter.grow.textOutListCount ≤ splitter.grow.currentNumberOfConsoles := by
        have fits := right.room
        simp only [grow, growMapTable, CONSOLE_SPLITTER_ALLOC_UNIT, number]
        omega
      rw [growTextOutList, if_neg room]
      obtain ⟨wide, offers⟩ := @grow_right _ _ _ consoles right listed
      refine ⟨wide, rfl, ?_, fun _ => offers⟩
      rw [← number]
      exact Nat.lt_of_not_le room
  · next room =>
      refine ⟨right, rfl, ?_, fun _ offers => offers⟩
      rw [← right.number]
      exact Nat.lt_of_not_le room

/-! ## The first console -/

/-- Nothing is taken from a table of no console. -/
theorem grownMap_empty {step number maxMode : Nat} {table : Option (Nat → Int)}
    (nothing : table = none ∨ number = 0) : grownMap step number maxMode table = fun _ => -1 := by
  cases table with
  | none => rfl
  | some map =>
      obtain rfl := nothing.resolve_left fun missing => by cases missing
      refine List.foldl_fixed' (fun index => funext fun place => if_neg ?_) _
      rintro ⟨low, high⟩
      omega

/-- The modes of the first console fill the table. -/
theorem exists_added (modes : δ → List (Option TextSize)) (textOut : δ)
    (some_step : 0 < splitter.textOutListCount)
    (nothing : splitter.textOutModeMap = none ∨ splitter.currentNumberOfConsoles = 0) :
    ∃ data, Added splitter.textOutListCount (modes textOut) (modes textOut).length data ∧
      splitter.addOutputMode modes textOut =
        { splitter with
          textOutMode := { splitter.textOutMode with maxMode := (modes textOut).length }
          textOutQueryData := data.1
          textOutModeMap := some data.2 } := by
  have start : Added splitter.textOutListCount (modes textOut) 0
      (splitter.textOutQueryData, fun _ => -1) :=
    { size _ before := absurd before (Nat.not_lt_zero _)
      second before := absurd before (Nat.not_lt_zero 1)
      number _ before := absurd before (Nat.not_lt_zero _)
      fresh _ _ _ _ := rfl }
  refine ⟨addModes splitter.textOutListCount (modes textOut) 0
    (splitter.textOutQueryData, fun _ => -1), start.addModes some_step rfl (Nat.zero_le _), ?_⟩
  rw [addOutputMode, growMapTable]
  simp only [grownMap_empty nothing]

theorem addOutputMode_spec (conventional : Conventional (modes textOut))
    (some_step : 0 < splitter.textOutListCount)
    (nothing : splitter.textOutModeMap = none ∨ splitter.currentNumberOfConsoles = 0) :
    (splitter.addOutputMode modes textOut).Tabled [modes textOut] ∧
      (splitter.addOutputMode modes textOut).Offers [modes textOut] := by
  obtain ⟨data, added, filled⟩ := exists_added modes textOut some_step nothing
  obtain ⟨truthful, complete, reserved⟩ := added.truthful conventional
  rw [filled]
  refine ⟨⟨reserved, data.2, rfl, truthful⟩, fun map present => ?_⟩
  obtain rfl := Option.some.inj present
  exact complete

/-! ## Another console -/

theorem restrict_eq {map : Nat → Int} (present : splitter.textOutModeMap = some map)
    (newMap : (Nat → Int) → Nat → Int) :
    splitter.restrict newMap =
      { splitter with
        textOutModeMap := some (getIntersection splitter.textOutListCount newMap map
          splitter.textOutMode.maxMode splitter.textOutMode.mode).map
        textOutMode := { splitter.textOutMode with
          maxMode := (getIntersection splitter.textOutListCount newMap map
            splitter.textOutMode.maxMode splitter.textOutMode.mode).maxMode
          mode := (getIntersection splitter.textOutListCount newMap map
            splitter.textOutMode.maxMode splitter.textOutMode.mode).mode } } := by
  rw [restrict, present]

theorem rowWise_column {step column : Nat} (within : column < step) :
    RowWise step fun (map : Nat → Int) index => map (index * step + column) :=
  fun _ _ _ same => same column within

/-- The modes of another console are entered, and then the rows without an entry go. -/
theorem exists_syncing (conventional : Conventional (modes textOut))
    (positive : 0 < consoles.length) (number : splitter.currentNumberOfConsoles = consoles.length)
    (room : consoles.length < splitter.textOutListCount)
    (reserved : 2 ≤ splitter.textOutMode.maxMode) {map : Nat → Int}
    (present : splitter.textOutModeMap = some map)
    (truthful : Truthful splitter.textOutListCount (· < splitter.textOutMode.maxMode)
      splitter.textOutQueryData map consoles) :
    ∃ sizes now, Syncing splitter.textOutListCount splitter.textOutMode.maxMode consoles.length
        (modes textOut) splitter.textOutQueryData map (modes textOut).length (sizes, now) ∧
      splitter.syncOutputMode modes textOut =
        { splitter with textOutQueryData := sizes, textOutModeMap := some now }.restrict
          fun map index => map (index * splitter.textOutListCount + consoles.length) := by
  have fresh : ∀ row < splitter.textOutMode.maxMode,
      entry splitter.textOutListCount map row consoles.length = -1 :=
    fun row inside => (truthful.rows row inside).fresh _ room (Nat.le_refl _)
  let data := syncModes splitter.textOutListCount splitter.textOutMode.maxMode consoles.length
    (modes textOut) 0 (splitter.textOutQueryData, map)
  refine ⟨data.1, data.2, (Syncing.start fresh).syncModes truthful reserved positive room
    conventional rfl (Nat.zero_le _), ?_⟩
  rw [syncOutputMode, present]
  simp only [number, data]

theorem syncOutputMode_spec (conventional : Conventional (modes textOut))
    (positive : 0 < consoles.length) (number : splitter.currentNumberOfConsoles = consoles.length)
    (room : consoles.length < splitter.textOutListCount) (tabled : splitter.Tabled consoles) :
    (splitter.syncOutputMode modes textOut).Tabled (consoles ++ [modes textOut]) ∧
      (splitter.Offers consoles →
        (splitter.syncOutputMode modes textOut).Offers (consoles ++ [modes textOut])) := by
  obtain ⟨reserved, map, present, truthful⟩ := tabled
  obtain ⟨sizes, now, syncing, synced⟩ :=
    exists_syncing conventional positive number room reserved present truthful
  obtain ⟨compacted, counted, -⟩ := getIntersection_spec (rowWise_column room) now reserved
    splitter.textOutMode.mode
  have first : ∀ row < 2, InColumn splitter.textOutListCount consoles.length now row :=
    fun row low => .inl low
  have some_step : 0 < splitter.textOutListCount := Nat.lt_trans positive room
  rw [synced, restrict_eq rfl]
  constructor
  · refine ⟨?_, _, rfl, ?_⟩
    · dsimp only
      rw [counted, ← Nat.count_of_forall first]
      exact Nat.count_monotone _ reserved
    · dsimp only
      rw [counted]
      refine (syncing.truthful truthful positive room conventional).compact compacted some_step ?_
        reserved first
      rw [List.length_append, List.length_singleton]
      exact room
  · intro offers other found size apart shared
    obtain rfl := Option.some.inj found
    obtain ⟨row, inside, stays, sized⟩ := syncing.complete truthful positive room conventional
      (offers map present) apart shared
    refine ⟨Nat.count (InColumn splitter.textOutListCount consoles.length now) row, ?_, ?_⟩
    · dsimp only
      rw [counted]
      exact Nat.count_strict_mono stays inside
    · exact (rowSize_of_compacted compacted some_step inside stays).trans sized

/-! ## The list of consoles -/

section Lists

variable (modes) (newMap : (Nat → Int) → Nat → Int)

@[simp]
theorem restrict_textOutList : (splitter.restrict newMap).textOutList = splitter.textOutList := by
  rw [restrict]
  split <;> rfl

@[simp]
theorem restrict_textOutListCount :
    (splitter.restrict newMap).textOutListCount = splitter.textOutListCount := by
  rw [restrict]
  split <;> rfl

@[simp]
theorem restrict_currentNumberOfConsoles :
    (splitter.restrict newMap).currentNumberOfConsoles = splitter.currentNumberOfConsoles := by
  rw [restrict]
  split <;> rfl

@[simp]
theorem syncOutputMode_textOutList :
    (splitter.syncOutputMode modes textOut).textOutList = splitter.textOutList := by
  rw [syncOutputMode]
  split <;> simp

@[simp]
theorem syncOutputMode_textOutListCount :
    (splitter.syncOutputMode modes textOut).textOutListCount = splitter.textOutListCount := by
  rw [syncOutputMode]
  split <;> simp

@[simp]
theorem syncOutputMode_currentNumberOfConsoles :
    (splitter.syncOutputMode modes textOut).currentNumberOfConsoles =
      splitter.currentNumberOfConsoles := by
  rw [syncOutputMode]
  split <;> simp

end Lists

/-- The table offers what the consoles of the list share. -/
def Offering (modes : δ → List (Option TextSize)) (splitter : TextOutSplitter δ) : Prop :=
  splitter.textOutList ≠ [] → splitter.Offers (splitter.textOutList.map modes)

/-- A splitter with a table for the consoles of its list is right. -/
theorem right_of_tabled (number : splitter.currentNumberOfConsoles = splitter.textOutList.length)
    (listed : splitter.textOutList ≠ [])
    (room : splitter.textOutList.length ≤ splitter.textOutListCount)
    (tabled : splitter.Tabled (splitter.textOutList.map modes)) : Right modes splitter where
  number := number
  some_step := Nat.lt_of_lt_of_le (List.length_pos_iff.mpr listed) room
  room := room
  empty none := absurd none listed
  table _ := tabled

theorem attach_textOutList (right : Right modes splitter) :
    (splitter.attach modes textOut).textOutList = splitter.textOutList ++ [textOut] := by
  obtain ⟨-, same, -⟩ := @growTextOutList_spec _ _ _ [] right
  rw [attach, ← same]
  dsimp only
  split
  · rfl
  · exact syncOutputMode_textOutList modes

/-- A console that comes. -/
theorem attach_right (conventional : Conventional (modes textOut)) (right : Right modes splitter) :
    Right modes (splitter.attach modes textOut) ∧
      (splitter.Offering modes → (splitter.attach modes textOut).Offering modes) := by
  obtain ⟨wide, same, room, offers⟩ :=
    @growTextOutList_spec _ _ _ (splitter.textOutList.map modes) right
  have list := @attach_textOutList _ modes _ textOut right
  have listed : (splitter.attach modes textOut).textOutList ≠ [] := by
    rw [list]
    exact List.append_ne_nil_of_right_ne_nil _ (List.cons_ne_nil _ _)
  have number : (splitter.attach modes textOut).currentNumberOfConsoles =
      (splitter.attach modes textOut).textOutList.length := by
    rw [list, List.length_append, List.length_singleton, ← right.number]
    rfl
  set fresh : TextOutSplitter δ := { splitter.growTextOutList with
    textOutList := splitter.growTextOutList.textOutList ++ [textOut] } with freshEq
  have fits : (splitter.attach modes textOut).textOutList.length ≤
      (splitter.attach modes textOut).textOutListCount := by
    have count : (splitter.attach modes textOut).textOutListCount =
        splitter.growTextOutList.textOutListCount := by
      rw [attach]
      dsimp only
      split
      · rfl
      · exact syncOutputMode_textOutListCount modes
    rw [list, count, List.length_append, List.length_singleton]
    exact room
  have known : splitter.growTextOutList.currentNumberOfConsoles = splitter.textOutList.length := by
    rw [wide.number, same]
  have both : (splitter.attach modes textOut).Tabled
        ((splitter.attach modes textOut).textOutList.map modes) ∧
      (splitter.Offering modes → (splitter.attach modes textOut).Offers
        ((splitter.attach modes textOut).textOutList.map modes)) := by
    rw [list, List.map_append, List.map_singleton, attach]
    by_cases none : splitter.textOutList = []
    · have zero : splitter.currentNumberOfConsoles = 0 := by
        rw [right.number, none]
        rfl
      rw [if_pos zero, none]
      obtain ⟨tabled, complete⟩ := @addOutputMode_spec _ modes fresh textOut conventional
        wide.some_step (.inr (by rw [freshEq, known, none]; rfl))
      exact ⟨tabled, fun _ => complete⟩
    · have some_console : 0 < (splitter.textOutList.map modes).length := by
        rw [List.length_map]
        exact List.length_pos_iff.mpr none
      have apart : splitter.currentNumberOfConsoles ≠ 0 := by
        rw [right.number, ← List.length_map modes]
        exact Nat.ne_of_gt some_console
      rw [if_neg apart]
      have tabled := wide.table (by rw [same]; exact none)
      rw [same] at tabled
      obtain ⟨synced, complete⟩ := @syncOutputMode_spec _ modes fresh
        (splitter.textOutList.map modes) textOut conventional some_console
        (by rw [freshEq, known, List.length_map]) (by rw [List.length_map]; exact room) tabled
      exact ⟨synced, fun offering => complete (offers none (offering none))⟩
  exact ⟨right_of_tabled number listed fits both.1, fun offering _ => both.2 offering⟩

/-! ## A table that is made anew -/

/-- The splitter has a table for the first consoles of the list, and these are counted. -/
structure Rebuilt (modes : δ → List (Option TextSize)) (list done : List δ) (room : Nat)
    (splitter : TextOutSplitter δ) : Prop where
  list : splitter.textOutList = list
  room : splitter.textOutListCount = room
  number : splitter.currentNumberOfConsoles = done.length
  tabled : splitter.Tabled (done.map modes)
  offers : splitter.Offers (done.map modes)

theorem Rebuilt.next {list done : List δ} {room : Nat}
    (conventional : Conventional (modes textOut)) (some_console : done ≠ [])
    (fits : done.length < room) (rebuilt : Rebuilt modes list done room splitter) :
    Rebuilt modes list (done ++ [textOut]) room (splitter.attachNext modes textOut) := by
  have positive : 0 < (done.map modes).length := by
    rw [List.length_map]
    exact List.length_pos_iff.mpr some_console
  have within : (done.map modes).length < splitter.textOutListCount := by
    rw [List.length_map, rebuilt.room]
    exact fits
  have number : splitter.currentNumberOfConsoles = (done.map modes).length := by
    rw [rebuilt.number, List.length_map]
  obtain ⟨tabled, offers⟩ :=
    syncOutputMode_spec conventional positive number within rebuilt.tabled
  constructor
  · exact (syncOutputMode_textOutList modes).trans rebuilt.list
  · exact (syncOutputMode_textOutListCount modes).trans rebuilt.room
  · rw [List.length_append, List.length_singleton, ← rebuilt.number]
    exact congrArg (· + 1) (syncOutputMode_currentNumberOfConsoles modes)
  · rw [List.map_append]
    exact tabled
  · rw [List.map_append]
    exact offers rebuilt.offers

theorem Rebuilt.rest {list done rest : List δ} {room : Nat}
    (conventional : ∀ textOut, Conventional (modes textOut)) (some_console : done ≠ [])
    (fits : (done ++ rest).length ≤ room) (rebuilt : Rebuilt modes list done room splitter) :
    Rebuilt modes list (done ++ rest) room (rest.foldl (attachNext modes) splitter) := by
  induction rest generalizing done splitter with
  | nil =>
      rw [List.append_nil]
      exact rebuilt
  | cons next rest ih =>
      have further : done ++ next :: rest = (done ++ [next]) ++ rest := by
        rw [List.append_assoc, List.singleton_append]
      rw [further] at fits ⊢
      have before : done.length < room := by
        rw [List.length_append, List.length_append, List.length_singleton] at fits
        omega
      exact ih (List.append_ne_nil_of_left_ne_nil some_console _) fits
        (rebuilt.next (conventional next) some_console before)

theorem rebuildFirst_spec {first : δ} (conventional : Conventional (modes first))
    (splitter : TextOutSplitter δ) (rest : List δ) (some_step : 0 < splitter.textOutListCount) :
    Rebuilt modes (first :: rest) [first] splitter.textOutListCount
      (splitter.rebuildFirst modes first rest) := by
  obtain ⟨tabled, offers⟩ := @addOutputMode_spec _ modes
    { splitter with
      textOutList := first :: rest
      textOutQueryData := fun _ => (0, 0)
      textOutModeMap := none }
    first conventional some_step (.inl rfl)
  exact ⟨rfl, rfl, rfl, tabled, offers⟩

theorem rebuild_spec (conventional : ∀ textOut, Conventional (modes textOut))
    (splitter : TextOutSplitter δ) {first : δ} {rest : List δ}
    (fits : (first :: rest).length ≤ splitter.textOutListCount) :
    Rebuilt modes (first :: rest) (first :: rest) splitter.textOutListCount
      (splitter.rebuild modes first rest) :=
  (rebuildFirst_spec (conventional first) splitter rest
    (Nat.lt_of_lt_of_le (Nat.succ_pos _) fits)).rest conventional (List.cons_ne_nil _ _) fits

theorem Rebuilt.right {list : List δ} {room : Nat} (listed : list ≠ []) (fits : list.length ≤ room)
    (rebuilt : Rebuilt modes list list room splitter) :
    Right modes splitter ∧ splitter.Offering modes := by
  obtain ⟨rfl, rfl, number, tabled, offers⟩ := rebuilt
  exact ⟨right_of_tabled number listed fits tabled, fun _ => offers⟩

/-- A console that goes.  What the others share is offered, even if it was not before. -/
theorem detach_right (conventional : ∀ textOut, Conventional (modes textOut))
    (right : Right modes splitter) (index : Nat) :
    Right modes (splitter.detach modes index) ∧
      (index < splitter.textOutList.length → (splitter.detach modes index).Offering modes) ∧
      (splitter.detach modes index).textOutList = splitter.textOutList.eraseIdx index := by
  rw [detach, right.number]
  split
  · next beyond =>
      refine ⟨right, fun inside => absurd inside (Nat.not_lt.mpr beyond), ?_⟩
      rw [List.eraseIdx_of_length_le beyond]
  · next inside =>
      rw [Nat.not_le] at inside
      split
      · next gone =>
          obtain ⟨-, map, present, truthful⟩ := right.table (List.ne_nil_of_length_pos (by omega))
          refine ⟨⟨rfl, right.some_step, Nat.zero_le _, fun _ => ⟨rfl, ?_, ?_⟩,
            fun listed => absurd rfl listed⟩, fun _ listed => absurd rfl listed, gone.symm⟩
          · exact Function.update_self 0 _ splitter.textOutQueryData
          · intro other found
            obtain rfl := Option.some.inj (present.symm.trans found)
            exact truthful.first
      · next first rest left =>
          have fits : (first :: rest).length ≤ splitter.textOutListCount := by
            rw [← left]
            exact Nat.le_trans (List.length_eraseIdx_le _ _) right.room
          have rebuilt := rebuild_spec conventional splitter fits
          obtain ⟨again, offering⟩ := rebuilt.right (List.cons_ne_nil _ _) fits
          exact ⟨again, fun _ => offering, rebuilt.list.trans left.symm⟩

end Changes

end TextOutSplitter

end HtcLeo.ConSplitter
