import HtcLeo.ConSplitter.Driver
import HtcLeo.ConSplitter.Numbers

/-!
# The consoles when the table changes

The table is made anew for the consoles that are left.  The cursor and the colors stay, and for
consoles that are alike the current mode keeps its size.  When modes are taken out, the current
mode follows its row or is gone.
-/

namespace HtcLeo.ConSplitter

open Grid HtcLeo.GraphicsConsole TextOutSplitter

universe u v

/-- The mode data is the same but for the mode. -/
structure SameCursor (before after : TextOutMode) : Prop where
  attr : after.attr = before.attr
  column : after.cursorColumn = before.cursorColumn
  row : after.cursorRow = before.cursorRow
  visible : after.cursorVisible = before.cursorVisible

section Data

variable {δ : Type u} {modes : δ → List (Option TextSize)} {splitter : TextOutSplitter δ}

theorem SameCursor.trans {before middle after : TextOutMode} (first : SameCursor before middle)
    (second : SameCursor middle after) : SameCursor before after where
  attr := second.attr.trans first.attr
  column := second.column.trans first.column
  row := second.row.trans first.row
  visible := second.visible.trans first.visible

theorem syncOutputMode_sameCursor (splitter : TextOutSplitter δ) (textOut : δ) :
    SameCursor splitter.textOutMode (splitter.syncOutputMode modes textOut).textOutMode := by
  rw [syncOutputMode]
  split
  · exact ⟨rfl, rfl, rfl, rfl⟩
  · exact ⟨rfl, rfl, rfl, rfl⟩

theorem rebuild_sameCursor (splitter : TextOutSplitter δ) (first : δ) (rest : List δ) :
    SameCursor splitter.textOutMode (splitter.rebuild modes first rest).textOutMode := by
  have start : SameCursor splitter.textOutMode
      (splitter.rebuildFirst modes first rest).textOutMode := ⟨rfl, rfl, rfl, rfl⟩
  rw [rebuild]
  generalize splitter.rebuildFirst modes first rest = begun at start ⊢
  induction rest generalizing begun with
  | nil => exact start
  | cons next rest ih => exact ih _ (start.trans (syncOutputMode_sameCursor begun next))

/-- The first two modes keep their numbers. -/
theorem TextOutSplitter.Rebuilt.mode_eq {list done rest : List δ} {room : Nat}
    (conventional : ∀ textOut, Conventional (modes textOut)) (some_console : done ≠ [])
    (fits : (done ++ rest).length ≤ room)
    (low : 0 ≤ splitter.textOutMode.mode ∧ splitter.textOutMode.mode < 2)
    (rebuilt : Rebuilt modes list done room splitter) :
    (rest.foldl (attachNext modes) splitter).textOutMode.mode = splitter.textOutMode.mode := by
  induction rest generalizing done splitter with
  | nil => rfl
  | cons next rest ih =>
      have further : done ++ next :: rest = (done ++ [next]) ++ rest := by
        rw [List.append_assoc, List.singleton_append]
      rw [further] at fits
      have before : done.length < room := by
        rw [List.length_append, List.length_append, List.length_singleton] at fits
        omega
      obtain ⟨reserved, map, present, -⟩ := rebuilt.tabled
      obtain ⟨now, -, followed⟩ := @syncOutputMode_tracked _ modes _ next reserved
        (by rw [rebuilt.number, rebuilt.room]; exact before) _ present
      have here : (splitter.attachNext modes next).textOutMode.mode =
          splitter.textOutMode.mode := by
        have first : ∀ row < splitter.textOutMode.mode.toNat,
            InColumn splitter.textOutListCount splitter.currentNumberOfConsoles now row :=
          fun row inside => .inl (by omega)
        have stays : InColumn splitter.textOutListCount splitter.currentNumberOfConsoles now
            splitter.textOutMode.mode.toNat := .inl (by omega)
        refine followed.trans ?_
        rw [tracked, if_neg (by omega), if_pos (by omega), if_pos stays, Nat.count_of_forall first]
        omega
      rw [List.foldl_cons, ih (List.append_ne_nil_of_left_ne_nil some_console _) fits
        (by rw [here]; exact low) (rebuilt.next (conventional next) some_console before), here]

/-- The second mode is 80x50 if all consoles have it. -/
theorem queryMode_one (right : Right modes splitter) (listed : splitter.textOutList ≠ [])
    (all : ∀ textOut ∈ splitter.textOutList, (modes textOut)[1]? = some (some (80, 50))) :
    splitter.queryMode 1 = some (80, 50) := by
  obtain ⟨reserved, map, present, truthful⟩ := right.table listed
  refine (queryMode_eq_some_iff present).mpr ⟨reserved, ?_, by decide⟩
  rw [rowSize, truthful.second]
  refine truthful.secondSize.trans (if_pos ?_)
  intro reported among
  obtain ⟨textOut, member, rfl⟩ := List.mem_map.mp among
  exact all textOut member

/-- The mode 80x50 stays with the consoles that are left, since the second mode keeps its
number. -/
theorem rebuild_isAt_large {first : δ} {rest : List δ}
    (conventional : ∀ textOut, Conventional (modes textOut))
    (fits : (first :: rest).length ≤ splitter.textOutListCount)
    (second : splitter.textOutMode.mode = 1)
    (all : ∀ textOut ∈ first :: rest, (modes textOut)[1]? = some (some (80, 50))) :
    (splitter.rebuild modes first rest).IsAt (80, 50) := by
  have some_step : 0 < splitter.textOutListCount := Nat.lt_of_lt_of_le (Nat.succ_pos _) fits
  have begun := rebuildFirst_spec (conventional first) splitter rest some_step
  have same : (splitter.rebuildFirst modes first rest).textOutMode.mode = 1 := second
  have kept := @TextOutSplitter.Rebuilt.mode_eq _ _ _ _ _ rest _ conventional
    (List.cons_ne_nil _ _) fits (by omega) begun
  have kept : (splitter.rebuild modes first rest).textOutMode.mode = 1 := kept.trans same
  have rebuilt := rebuild_spec conventional splitter fits
  obtain ⟨right, -⟩ := rebuilt.right (List.cons_ne_nil _ _) fits
  rw [IsAt, kept]
  refine ⟨by decide, queryMode_one right ?_ ?_⟩
  · rw [rebuilt.list]
    exact List.cons_ne_nil _ _
  · rw [rebuilt.list]
    exact all

/-- The current mode keeps its size with the consoles that are left. -/
theorem rebuild_isAt_of_alike {first : δ} {rest : List δ} {size : TextSize}
    (conventional : ∀ textOut, Conventional (modes textOut))
    (alike : ∀ one ∈ first :: rest, ∀ other ∈ first :: rest, Alike (modes one) (modes other))
    (fits : (first :: rest).length ≤ splitter.textOutListCount)
    (high : 0 ≤ splitter.textOutMode.mode)
    (known : ∀ textOut ∈ first :: rest,
      (modes textOut)[splitter.textOutMode.mode.toNat]? = some (some size)) :
    (splitter.rebuild modes first rest).IsAt size := by
  have here := known first List.mem_cons_self
  have own := alike first List.mem_cons_self first List.mem_cons_self
  by_cases large : size = (80, 50)
  · obtain rfl := large
    have one : splitter.textOutMode.mode.toNat = 1 := by
      rcases Nat.lt_or_ge splitter.textOutMode.mode.toNat 2 with low | beyond
      · rcases Nat.lt_succ_iff_lt_or_eq.mp low with zero | one
        · rw [Nat.lt_one_iff.mp zero, (conventional first).first] at here
          cases here
        · exact one
      · exact absurd here (own.large _ beyond)
    rw [one] at known
    exact rebuild_isAt_large conventional fits (by omega) known
  · have shared : ∀ textOut ∈ first :: rest, some size ∈ modes textOut :=
      fun textOut member => List.mem_of_getElem? (known textOut member)
    exact (rebuild_isAt conventional own.distinct fits shared large).mpr ⟨high, here⟩

end Data

/-! ## Changes of the table -/

section Table

variable {γ : Type u} {size : TextSize} {splitter after : TextOutSplitter (TextOut γ)}

theorem TextOut.InStep.of_sameCursor {before after : TextOutMode} {textOut : TextOut γ}
    (same : SameCursor before after) (inStep : textOut.InStep size before) :
    textOut.InStep size after where
  mode := inStep.mode
  column := inStep.column.trans same.column.symm
  row := inStep.row.trans same.row.symm
  hidden invisible := inStep.hidden (same.visible.symm.trans invisible)
  attr := inStep.attr.trans same.attr.symm

/-- Another table with the current mode of the same size, for some of the consoles. -/
theorem Lockstep.withTable (lockstep : Lockstep size splitter)
    (right : Right TextOut.modes after) (isAt : after.IsAt size)
    (same : SameCursor splitter.textOutMode after.textOutMode)
    (among : ∀ textOut ∈ after.textOutList, textOut ∈ splitter.textOutList) :
    Lockstep size after where
  right := right
  isAt := isAt
  colors := by
    rw [same.attr]
    exact lockstep.colors
  column := by
    rw [same.column]
    exact lockstep.column
  row := by
    rw [same.row]
    exact lockstep.row
  consoles textOut member := (lockstep.consoles textOut (among textOut member)).of_sameCursor same

/-- Without a console the splitter is at 40x12. -/
theorem Lockstep.of_empty (right : Right TextOut.modes splitter) (none : splitter.textOutList = [])
    (mode : splitter.textOutMode.mode = 0) (colors : splitter.textOutMode.attr ||| 0x7F = 0x7F)
    (cursor : splitter.textOutMode.cursorColumn = 0 ∧ splitter.textOutMode.cursorRow = 0) :
    Lockstep (40, 12) splitter where
  right := right
  isAt := by
    rw [IsAt, mode]
    exact ⟨Int.le_refl 0, right.shown.first⟩
  colors := colors
  column := by
    rw [cursor.1]
    decide
  row := by
    rw [cursor.2]
    decide
  consoles textOut member := by
    rw [none] at member
    exact absurd member List.not_mem_nil

end Table

/-! ## Changes of the table of pointers -/

section Pointers

variable {δ : Type v} {γ : Type u} {textOuts : δ → TextOut γ} {splitter : TextOutSplitter δ}
  {size : TextSize}

/-- A console goes, and the others stay in lockstep. -/
theorem Lockstep.detach
    (alike : ∀ one other, Alike (textOuts one).modes (textOuts other).modes)
    (right : Right (fun textOut => (textOuts textOut).modes) splitter) (own : splitter.OwnNumbers)
    (lockstep : Lockstep size (splitter.map textOuts)) (index : Nat) :
    ∃ other, Lockstep other
      ((splitter.detach (fun textOut => (textOuts textOut).modes) index).map textOuts) := by
  have conventional (textOut : δ) : Conventional (textOuts textOut).modes :=
    (textOuts textOut).conventional
  have after := map_right (detach_right conventional right index).1
  rw [TextOutSplitter.detach, right.number] at after ⊢
  split at after
  · next outside =>
      rw [if_pos outside]
      exact ⟨size, lockstep⟩
  · next inside =>
      rw [if_neg inside]
      split at after
      · exact ⟨(40, 12), .of_empty after rfl rfl lockstep.colors ⟨rfl, rfl⟩⟩
      · next first rest left =>
          have among (textOut : δ) (member : textOut ∈ first :: rest) :
              textOut ∈ splitter.textOutList := by
            rw [← left] at member
            exact List.mem_of_mem_eraseIdx member
          have fits : (first :: rest).length ≤ splitter.textOutListCount := by
            rw [← left]
            exact Nat.le_trans (List.length_eraseIdx_le _ _) right.room
          have known := mode_of_queryMode right own alike lockstep.isAt.2
          refine ⟨size, lockstep.withTable after ?_ (rebuild_sameCursor splitter first rest) ?_⟩
          · exact rebuild_isAt_of_alike conventional (fun one _ other _ => alike one other) fits
              lockstep.isAt.1 fun textOut member => known textOut (among textOut member)
          · intro textOut member
            obtain ⟨pointer, listed, rfl⟩ := List.mem_map.mp member
            rw [(rebuild_spec conventional splitter fits).list] at listed
            exact List.mem_map.mpr ⟨pointer, among pointer listed, rfl⟩

/-- Modes are taken out, and the consoles stay in lockstep or the current mode is one of these. -/
theorem Lockstep.restrict
    (right : Right (fun textOut => (textOuts textOut).modes) splitter)
    (listed : splitter.textOutList ≠ []) (other : Nat → Int)
    (lockstep : Lockstep size (splitter.map textOuts)) :
    (splitter.restrict fun _ index => other index).textOutMode.mode < 0 ∧
        Colored ((splitter.restrict fun _ index => other index).map textOuts) ∨
      Lockstep size ((splitter.restrict fun _ index => other index).map textOuts) := by
  obtain ⟨reserved, map, present, -⟩ := right.table listed
  obtain ⟨compacted, counted, followed⟩ := @getIntersection_spec splitter.textOutListCount
    (fun _ index => other index) (fun _ _ _ _ => rfl) map _ reserved splitter.textOutMode.mode
  have cut := map_right (restrict_right right listed other)
  have proper : size ≠ (0, 0) := by
    rintro rfl
    exact absurd lockstep.column (Nat.not_lt_zero _)
  have points := (isAt_iff_points present proper).mp lockstep.isAt
  rw [restrict_eq present] at cut ⊢
  by_cases stays : Marked other map splitter.textOutMode.mode.toNat
  · refine .inr (lockstep.withTable cut ?_ ⟨rfl, rfl, rfl, rfl⟩ fun _ member => member)
    refine (isAt_iff_points rfl proper).mpr ?_
    have moved := (points_tracked compacted right.some_step).mpr ⟨points, stays⟩
    rw [← counted, ← followed] at moved
    exact moved
  · refine .inl ⟨?_, cut, lockstep.colors, lockstep.colored.consoles⟩
    dsimp only
    rw [followed, tracked, if_neg (Int.not_lt.mpr points.1), if_pos points.2.1, if_neg stays]
    decide

end Pointers

end HtcLeo.ConSplitter
