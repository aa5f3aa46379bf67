import HtcLeo.ConSplitter.Runs

/-!
# The current mode when a console goes

The table is made anew for the consoles that are left, but the number of the current mode is
kept.  It is right if the first console that is left has the size under this number.
-/

namespace HtcLeo.ConSplitter

open Grid TextOutSplitter

universe u

/-- A number is the one of a row with a size. -/
def Points (step maxMode : Nat) (queryData : Nat → TextSize) (map : Nat → Int) (mode : Int)
    (size : TextSize) : Prop :=
  0 ≤ mode ∧ mode.toNat < maxMode ∧ rowSize step queryData map mode.toNat = size

section Rows

variable {step maxMode row other : Nat} {queryData sizes : Nat → TextSize}
  {map now after : Nat → Int} {reported : List (Option TextSize)}
  {consoles rest : List (List (Option TextSize))} {size : TextSize} {mode : Int}

/-- A size is in one row at most. -/
theorem Truthful.row_unique
    (truthful : Truthful step (· < maxMode) queryData map (reported :: rest))
    (distinct : DistinctSizes reported) (proper : size ≠ (0, 0)) (inside : row < maxMode)
    (other_inside : other < maxMode) (sized : rowSize step queryData map row = size)
    (other_sized : rowSize step queryData map other = size) : row = other := by
  obtain ⟨mode, here, known⟩ :=
    (truthful.rows row inside).entries (by rw [sized]; exact proper) 0 reported rfl
  obtain ⟨same, there, also⟩ :=
    (truthful.rows other other_inside).entries (by rw [other_sized]; exact proper) 0 reported rfl
  rw [sized] at known
  rw [other_sized] at also
  obtain rfl := distinct mode same size known also
  exact truthful.differ inside other_inside (here.trans there.symm)

/-- The number of the current mode follows its row. -/
theorem points_tracked {kept : Nat → Prop} [DecidablePred kept]
    (compacted : Compacted step maxMode kept map after) (some_step : 0 < step) :
    Points step (Nat.count kept maxMode) queryData after (tracked kept maxMode mode) size ↔
      Points step maxMode queryData map mode size ∧ kept mode.toNat := by
  have few : Nat.count kept maxMode ≤ maxMode := Nat.count_le _
  rw [tracked]
  split
  · next negative =>
      exact iff_of_false (fun points => absurd points.1 (Int.not_le.mpr negative))
        fun both => absurd both.1.1 (Int.not_le.mpr negative)
  · next positive =>
      split
      · next inside =>
          split
          · next stays =>
              rw [Points, Points, Int.toNat_natCast,
                rowSize_of_compacted compacted some_step inside stays]
              constructor
              · exact fun points => ⟨⟨Int.not_lt.mp positive, inside, points.2.2⟩, stays⟩
              · exact fun both => ⟨Int.natCast_nonneg _, Nat.count_strict_mono stays inside,
                  both.1.2.2⟩
          · next gone =>
              exact iff_of_false (fun points => absurd points.1 (by decide))
                fun both => gone both.2
      · next outside =>
          refine iff_of_false (fun points => ?_) fun both => outside both.1.2.1
          have below := points.2.1
          omega

theorem Syncing.points (truthful : Truthful step (· < maxMode) queryData map (reported :: rest))
    (distinct : DistinctSizes reported) (within : (reported :: rest).length < step)
    {mine : List (Option TextSize)} (conventional : Conventional mine)
    (syncing : Syncing step maxMode (reported :: rest).length mine queryData map mine.length
      (sizes, now))
    (shared : some size ∈ mine) (apart : size ≠ (80, 50)) :
    Points step maxMode sizes now mode size ∧
        InColumn step (reported :: rest).length now mode.toNat ↔
      Points step maxMode queryData map mode size := by
  have positive : 0 < (reported :: rest).length := Nat.succ_pos _
  have proper := conventional.proper size shared
  constructor
  · rintro ⟨⟨high, inside, sized⟩, -⟩
    rcases syncing.rowSize_or truthful positive within inside with none | same
    · exact absurd (sized.symm.trans none) proper
    · exact ⟨high, inside, same.symm.trans sized⟩
  · rintro ⟨high, inside, sized⟩
    have second := truthful.ne_one proper apart sized
    have same := syncing.rowSize_eq truthful positive within inside second
    obtain ⟨earlier, before, known⟩ := List.getElem_of_mem shared
    obtain ⟨row, row_inside, row_sized, entered⟩ := syncing.found earlier before size
      (List.getElem?_eq_some_iff.mpr ⟨before, known⟩) apart ⟨_, inside, sized⟩
    obtain rfl := truthful.row_unique distinct proper row_inside inside row_sized sized
    exact ⟨⟨high, inside, same.trans sized⟩, .inr entered⟩

end Rows

/-- The current mode of a splitter is one of the size. -/
def TextOutSplitter.IsAt {δ : Type u} (splitter : TextOutSplitter δ) (size : TextSize) : Prop :=
  0 ≤ splitter.textOutMode.mode ∧
    splitter.queryMode splitter.textOutMode.mode.toNat = some size

section Splitter

variable {δ : Type u} {modes : δ → List (Option TextSize)} {splitter : TextOutSplitter δ}
  {map : Nat → Int} {size : TextSize} {textOut first : δ}

theorem isAt_iff_points (present : splitter.textOutModeMap = some map) (proper : size ≠ (0, 0)) :
    splitter.IsAt size ↔ Points splitter.textOutListCount splitter.textOutMode.maxMode
      splitter.textOutQueryData map splitter.textOutMode.mode size := by
  rw [IsAt, Points, queryMode_eq_some_iff present]
  exact ⟨fun current => ⟨current.1, current.2.1, current.2.2.1⟩,
    fun points => ⟨points.1, points.2.1, points.2.2, proper⟩⟩

/-- The first console is at the size if it has it under the number. -/
theorem addOutputMode_isAt (conventional : Conventional (modes textOut))
    (some_step : 0 < splitter.textOutListCount)
    (nothing : splitter.textOutModeMap = none ∨ splitter.currentNumberOfConsoles = 0)
    (proper : size ≠ (0, 0)) :
    (splitter.addOutputMode modes textOut).IsAt size ↔ 0 ≤ splitter.textOutMode.mode ∧
      (modes textOut)[splitter.textOutMode.mode.toNat]? = some (some size) := by
  obtain ⟨data, added, filled⟩ := exists_added modes textOut some_step nothing
  obtain ⟨truthful, -, -⟩ := added.truthful conventional
  rw [filled, isAt_iff_points rfl proper]
  constructor
  · rintro ⟨high, inside, sized⟩
    obtain ⟨mode, here, known⟩ :=
      (truthful.rows _ inside).entries (by rw [sized]; exact proper) 0 _ rfl
    rw [added.number _ inside] at here
    obtain rfl := Int.natCast_inj.mp here
    rw [sized] at known
    exact ⟨high, known⟩
  · rintro ⟨high, known⟩
    have inside := (List.getElem?_eq_some_iff.mp known).1
    refine ⟨high, inside, ?_⟩
    dsimp only
    rw [rowSize, added.number _ inside, Int.toNat_natCast]
    exact added.size _ inside size known

/-- Another console that has the size leaves the current mode at it. -/
theorem syncOutputMode_isAt {reported : List (Option TextSize)}
    {rest : List (List (Option TextSize))} (conventional : Conventional (modes textOut))
    (number : splitter.currentNumberOfConsoles = (reported :: rest).length)
    (room : (reported :: rest).length < splitter.textOutListCount)
    (tabled : splitter.Tabled (reported :: rest)) (distinct : DistinctSizes reported)
    (shared : some size ∈ modes textOut) (apart : size ≠ (80, 50)) :
    (splitter.syncOutputMode modes textOut).IsAt size ↔ splitter.IsAt size := by
  obtain ⟨reserved, map, present, truthful⟩ := tabled
  have positive : 0 < (reported :: rest).length := Nat.succ_pos _
  have proper := conventional.proper size shared
  obtain ⟨sizes, now, syncing, synced⟩ :=
    exists_syncing conventional positive number room reserved present truthful
  obtain ⟨compacted, counted, followed⟩ := getIntersection_spec (rowWise_column room) now reserved
    splitter.textOutMode.mode
  rw [isAt_iff_points present proper,
    ← syncing.points truthful distinct room conventional shared apart,
    ← points_tracked compacted (Nat.lt_trans positive room), synced, restrict_eq rfl,
    isAt_iff_points rfl proper]
  dsimp only
  rw [counted, followed]

theorem TextOutSplitter.Rebuilt.isAt {list more rest : List δ} {room : Nat}
    (conventional : ∀ textOut, Conventional (modes textOut))
    (distinct : DistinctSizes (modes first)) (fits : (first :: more ++ rest).length ≤ room)
    (shared : ∀ textOut ∈ rest, some size ∈ modes textOut) (apart : size ≠ (80, 50))
    (rebuilt : Rebuilt modes list (first :: more) room splitter) :
    (rest.foldl (attachNext modes) splitter).IsAt size ↔ splitter.IsAt size := by
  induction rest generalizing more splitter with
  | nil => rfl
  | cons next rest ih =>
      have further : first :: more ++ next :: rest = first :: (more ++ [next]) ++ rest := by
        simp
      rw [further] at fits
      rw [List.forall_mem_cons] at shared
      have before : (first :: more).length < room := by
        rw [List.length_append, List.length_cons, List.length_append, List.length_singleton] at fits
        rw [List.length_cons]
        omega
      have same : (splitter.attachNext modes next).IsAt size ↔ splitter.IsAt size := by
        refine Iff.trans Iff.rfl (syncOutputMode_isAt (conventional next) ?_ ?_ rebuilt.tabled
          distinct shared.1 apart)
        · rw [rebuilt.number]
          simp
        · rw [rebuilt.room, ← List.map_cons, List.length_map]
          exact before
      exact (ih fits shared.2
        (rebuilt.next (conventional next) (List.cons_ne_nil _ _) before)).trans same

theorem rebuild_isAt {rest : List δ} (conventional : ∀ textOut, Conventional (modes textOut))
    (distinct : DistinctSizes (modes first))
    (fits : (first :: rest).length ≤ splitter.textOutListCount)
    (shared : ∀ textOut ∈ first :: rest, some size ∈ modes textOut) (apart : size ≠ (80, 50)) :
    (splitter.rebuild modes first rest).IsAt size ↔ 0 ≤ splitter.textOutMode.mode ∧
      (modes first)[splitter.textOutMode.mode.toNat]? = some (some size) := by
  rw [List.forall_mem_cons] at shared
  have some_step : 0 < splitter.textOutListCount := Nat.lt_of_lt_of_le (Nat.succ_pos _) fits
  have begun := rebuildFirst_spec (conventional first) splitter rest some_step
  have proper := (conventional first).proper size shared.1
  refine (begun.isAt conventional distinct fits shared.2 apart).trans ?_
  exact @addOutputMode_isAt _ modes
    { splitter with
      textOutList := first :: rest
      textOutQueryData := fun _ => (0, 0)
      textOutModeMap := none }
    size first (conventional first) some_step (.inl rfl) proper

/-- When a console goes, the current mode keeps its size if the first console that is left has
the size under the same number, and only then. -/
theorem disconnect_isAt_iff [DecidableEq δ] (conventional : ∀ textOut, Conventional (modes textOut))
    (distinct : ∀ textOut, DistinctSizes (modes textOut)) (events : List (Event δ)) {index : Nat}
    {first : δ} {rest : List δ}
    (inside : index < ((Splitters.constructed δ).steps modes events).conOut.textOutList.length)
    (left : ((Splitters.constructed δ).steps modes events).conOut.textOutList.eraseIdx index =
      first :: rest)
    (current : ((Splitters.constructed δ).steps modes events).conOut.IsAt size)
    (apart : size ≠ (80, 50)) :
    let before := (Splitters.constructed δ).steps modes events
    let after := (Splitters.constructed δ).steps modes (events ++ [.conOut (.disconnect index)])
    after.conOut.IsAt size ↔
      (modes first)[before.conOut.textOutMode.mode.toNat]? = some (some size) := by
  intro before after
  have last : after.conOut = before.conOut.detach modes index :=
    congrArg Splitters.conOut List.foldl_append
  obtain ⟨right, -⟩ := right_steps conventional events
  have fits : (first :: rest).length ≤ before.conOut.textOutListCount := by
    rw [← left]
    exact Nat.le_trans (List.length_eraseIdx_le _ _) right.room
  have shared : ∀ textOut ∈ first :: rest, some size ∈ modes textOut := by
    intro textOut member
    rw [← left] at member
    obtain ⟨place, listed⟩ := List.mem_iff_getElem?.mp (List.mem_of_mem_eraseIdx member)
    obtain ⟨number, -, known⟩ := right.shown.others _ size current.2 place textOut listed
    exact List.mem_of_getElem? known
  have here : before.conOut.detach modes index = before.conOut.rebuild modes first rest := by
    rw [detach, right.number, if_neg (Nat.not_le.mpr inside), left]
  rw [last, here, rebuild_isAt conventional (distinct first) fits shared apart]
  exact ⟨fun both => both.2, fun known => ⟨current.1, known⟩⟩

/-- Two consoles, and the mode 0. -/
def twoConsoles (first second : δ) : List (Event δ) :=
  [.conOut (.connect first), .conOut (.connect second),
    .call ⟨0, 0, 0, 0, 0, true⟩ ⟨0, 0, 0, 0, 0, true⟩]

theorem twoConsoles_textOutList [DecidableEq δ]
    (conventional : ∀ textOut, Conventional (modes textOut)) (first second : δ) :
    ((Splitters.constructed δ).steps modes (twoConsoles first second)).conOut.textOutList =
      [first, second] := by
  have right := right_constructed modes
  have one : ((TextOutSplitter.constructed δ).attach modes first).textOutList = [first] :=
    attach_textOutList right
  have two := @attach_textOutList _ modes _ second (attach_right (conventional first) right).1
  rw [one] at two
  exact two

theorem disconnect_isAt_iff_graphics :
    let events : List (Event (U32 × U32)) := twoConsoles (480, 800) (1024, 768)
    let before := (Splitters.constructed (U32 × U32)).steps graphicsModes events
    let after := (Splitters.constructed (U32 × U32)).steps graphicsModes
      (events ++ [.conOut (.disconnect 0)])
    after.conOut.IsAt (40, 12) ↔
      (graphicsModes (1024, 768))[before.conOut.textOutMode.mode.toNat]? =
        some (some (40, 12)) := by
  have conventional (screen : U32 × U32) : Conventional (graphicsModes screen) :=
    conventional_graphics screen.1 screen.2 0
  have list := twoConsoles_textOutList conventional (480, 800) (1024, 768)
  have current : ((Splitters.constructed (U32 × U32)).steps graphicsModes
      (twoConsoles (480, 800) (1024, 768))).conOut.IsAt (40, 12) :=
    ⟨Int.le_refl 0, (right_steps conventional _).1.shown.first⟩
  have left : ((Splitters.constructed (U32 × U32)).steps graphicsModes
      (twoConsoles (480, 800) (1024, 768))).conOut.textOutList.eraseIdx 0 = [(1024, 768)] := by
    rw [list]
    rfl
  exact disconnect_isAt_iff conventional
    (fun screen : U32 × U32 => distinct_graphics screen.1 screen.2 0)
    (twoConsoles (480, 800) (1024, 768)) (by rw [list]; decide) left current (by decide)

end Splitter

end HtcLeo.ConSplitter
