import HtcLeo.ConSplitter.Rebuild

/-!
# The consoles of both sides

A console that comes to a side brings all consoles of the side in lockstep, whatever both sides
have done before.  What happens on a side does not show on the other one if no console is in
both: then the search changes at most the table and the mode.
-/

namespace HtcLeo.ConSplitter

open Grid HtcLeo.GraphicsConsole TextOutSplitter

universe u v

theorem Splitters.OwnNumbers.at {δ : Type v} {splitters : Splitters δ} (own : splitters.OwnNumbers)
    (side : Side) : (splitters.side side).OwnNumbers := by
  cases side with
  | conOut => exact own.1
  | stdErr => exact own.2

theorem Side.attr_valid (side : Side) : side.attr ||| 0x7F = 0x7F := by
  cases side <;> decide

namespace Driver

section Sides

variable {ι : Type v} {γ : Type u} {driver : Driver ι γ} {side other : Side}

/-- No console is in both lists. -/
def Apart (driver : Driver ι γ) : Prop :=
  ∀ textOut ∈ driver.list .conOut, textOut ∉ driver.list .stdErr

theorem Apart.disjoint (apart : driver.Apart) (different : other ≠ side) :
    ∀ textOut ∈ driver.list other, textOut ∉ driver.list side := by
  cases side <;> cases other
  · exact absurd rfl different
  · exact fun textOut member both => apart textOut both member
  · exact apart
  · exact absurd rfl different

theorem Apart.of_disjoint (different : other ≠ side)
    (disjoint : ∀ textOut ∈ driver.list other, textOut ∉ driver.list side) : driver.Apart := by
  cases side <;> cases other
  · exact absurd rfl different
  · exact fun textOut member both => disjoint textOut both member
  · exact disjoint
  · exact absurd rfl different

theorem Apart.of_subset {after : Driver ι γ}
    (subset : ∀ side, ∀ textOut ∈ after.list side, textOut ∈ driver.list side)
    (apart : driver.Apart) : after.Apart :=
  fun textOut member both => apart textOut (subset .conOut textOut member)
    (subset .stdErr textOut both)

theorem Apart.of_list {after : Driver ι γ} (same : ∀ side, after.list side = driver.list side)
    (apart : driver.Apart) : after.Apart :=
  apart.of_subset fun side textOut member => by rwa [← same side]

/-- A table for consoles that show the same as before. -/
theorem view_put_of_view {begun : Driver ι γ} {splitter : TextOutSplitter ι}
    (same : begun.view side = driver.view side) (list : begun.list side = driver.list side)
    (kept : splitter.textOutList = driver.list side) :
    (begun.put side splitter).view side = splitter.map driver.textOuts := by
  have consoles : (begun.list side).map begun.textOuts = (driver.list side).map driver.textOuts :=
    congrArg TextOutSplitter.textOutList same
  rw [list] at consoles
  rw [view_put, TextOutSplitter.map, TextOutSplitter.map, kept, consoles]

/-- What holds of a driver after every run. -/
structure Sound (driver : Driver ι γ) : Prop where
  right : driver.splitters.Right driver.modes
  distinct : driver.Distinct

theorem sound_constructed (textOuts : ι → TextOut γ) (conOutSize : TextSize) :
    (constructed textOuts conOutSize).Sound where
  right := ⟨right_constructed _, right_constructed _⟩
  distinct side := by
    cases side <;> exact List.nodup_nil

variable [DecidableEq ι] {size : TextSize}

theorem view_perform (paper : Paper γ) (distinct : driver.Distinct) (side : Side) (call : Call) :
    (driver.perform paper side call).2.view side = ((driver.view side).perform paper call).2 :=
  view_update (distinct side) (perform_sameTable paper (driver.view side) call)

theorem view_perform_of_apart (paper : Paper γ) (apart : driver.Apart) (different : other ≠ side)
    (call : Call) : (driver.perform paper side call).2.view other = driver.view other :=
  view_update_of_disjoint different (apart.disjoint different)
    (perform_sameTable paper (driver.view side) call)

theorem view_recover_of_apart (paper : Paper γ) (apart : driver.Apart) (different : other ≠ side) :
    (driver.recover paper side).view other = driver.view other := by
  rw [recover]
  split
  · exact view_perform_of_apart paper apart different _
  · rfl

theorem list_recover (paper : Paper γ) (driver : Driver ι γ) (side other : Side) :
    (driver.recover paper side).list other = driver.list other := by
  rw [recover]
  split
  · exact list_update driver side other _
  · rfl

/-- A side whose current mode may have been taken out is in lockstep again. -/
theorem lockstep_recover (paper : Paper γ) (distinct : (driver.list side).Nodup)
    (cut : (driver.splitters.side side).textOutMode.mode < 0 ∧ Colored (driver.view side) ∨
      Lockstep size (driver.view side)) :
    ∃ other, Lockstep other ((driver.recover paper side).view side) := by
  rw [recover]
  split
  · next negative =>
      rcases cut with ⟨-, colored⟩ | lockstep
      · have set := (@Colored.setMode _ paper _ _ _ colored colored.right.shown.first
          (view_mode_ne_zero negative)).1
        refine ⟨(40, 12), ?_⟩
        rw [perform]
        rw [view_update distinct (perform_sameTable paper (driver.view side) _)]
        exact set
      · exact absurd negative (Int.not_lt.mpr lockstep.isAt.1)
  · next positive =>
      rcases cut with ⟨negative, -⟩ | lockstep
      · exact absurd negative positive
      · exact ⟨size, lockstep⟩

/-- The lists when both tables have been cut. -/
theorem list_cut (paper : Paper γ) (driver : Driver ι γ) (one two : Nat → Int) (side : Side) :
    (((driver.put .conOut (driver.splitters.conOut.restrict fun _ index => one index)).recover
      paper .conOut).put .stdErr (driver.splitters.stdErr.restrict
        fun _ index => two index)).list side = driver.list side := by
  cases side with
  | conOut =>
      rw [list_put_of_ne (by decide), list_recover, list_put, restrict_textOutList]
      rfl
  | stdErr =>
      rw [list_put, restrict_textOutList]
      rfl

/-- The search for a console of both keeps a side in lockstep if there is none. -/
theorem lockstep_intersect (paper : Paper γ) (right : driver.splitters.Right driver.modes)
    (distinct : driver.Distinct) (apart : driver.Apart)
    (lockstep : Lockstep size (driver.view side)) (beyond : Nat → ι) :
    ∃ other, Lockstep other ((driver.intersect paper beyond).view side) := by
  by_cases found : foundTheSameTextOut (readList driver.splitters.stdErr.textOutList beyond)
      driver.splitters.stdErr.currentNumberOfConsoles driver.splitters.conOut.textOutList 0 = true
  · obtain ⟨listed, other_listed⟩ := listed_of_found right.2.number found
    obtain ⟨conOutMap, stdErrMap, present, other_present⟩ :=
      exists_map_of_found right.1 right.2 found
    simp only [intersect, if_pos found, present, other_present]
    generalize marks : sharedModes driver.splitters conOutMap stdErrMap = tables
    have first := list_cut paper driver tables.1 tables.2
    cases side with
    | conOut =>
        rw [view_recover_of_apart paper (apart.of_list first) (by decide),
          view_put_of_ne (by decide)]
        refine lockstep_recover paper ?_ (lockstep.restrict right.1 listed tables.1)
        rw [list_put, restrict_textOutList]
        exact distinct .conOut
    | stdErr =>
        have begun : ((driver.put .conOut (driver.splitters.conOut.restrict
            fun _ index => tables.1 index)).recover paper .conOut).view .stdErr =
            driver.view .stdErr := by
          refine (view_recover_of_apart paper (apart.of_list fun side => ?_) (by decide)).trans
            (view_put_of_ne (by decide))
          cases side with
          | conOut => exact (list_put _ _ _).trans (restrict_textOutList _)
          | stdErr => rfl
        have shown := view_put_of_view begun (list_recover paper _ .conOut .stdErr)
          (@restrict_textOutList _ driver.splitters.stdErr fun _ index => tables.2 index)
        have cut := lockstep.restrict right.2 other_listed tables.2
        refine @lockstep_recover _ _ _ .stdErr _ size paper ?_ ?_
        · rw [first]
          exact distinct .stdErr
        · rw [shown]
          exact cut
  · simp only [intersect, if_neg found]
    exact ⟨size, lockstep⟩

/-- The mode of a side stays beyond the table in the search. -/
theorem intersect_maxMode_le (paper : Paper γ) (right : driver.splitters.Right driver.modes)
    (beyond : Nat → ι) (unset : ((driver.splitters.side side).textOutMode.maxMode : Int) ≤
      (driver.splitters.side side).textOutMode.mode) :
    (((driver.intersect paper beyond).splitters.side side).textOutMode.maxMode : Int) ≤
      ((driver.intersect paper beyond).splitters.side side).textOutMode.mode := by
  have recovered {splitter : TextOutSplitter ι}
      (unset : (splitter.textOutMode.maxMode : Int) ≤ splitter.textOutMode.mode) :
      (splitter.recover.textOutMode.maxMode : Int) ≤ splitter.recover.textOutMode.mode := by
    rw [TextOutSplitter.recover, if_neg (by omega)]
    exact unset
  rw [(intersect_spec paper right beyond).1, getIntersectionBetweenConOutAndStdErr]
  split
  · next found =>
      obtain ⟨listed, other_listed⟩ := listed_of_found right.2.number found
      split
      · cases side with
        | conOut => exact recovered (restrict_maxMode_le right.1 listed _ unset)
        | stdErr => exact recovered (restrict_maxMode_le right.2 other_listed _ unset)
      · exact unset
  · exact unset

/-- The current mode is beyond the new table when the mode is to be set. -/
theorem added_maxMode_le (paper : Paper γ) (right : driver.splitters.Right driver.modes)
    (side : Side) (textOut : ι) (beyond : Nat → ι) :
    ((driver.added paper side textOut beyond).view side).textOutMode.maxMode ≤
      ((driver.added paper side textOut beyond).view side).textOutMode.mode := by
  have attached := (attached_byEvents driver side textOut).right right
  have few (textOut : ι) : (driver.modes textOut).length ≤ 255 :=
    (driver.textOuts textOut).length_modes_le
  refine intersect_maxMode_le paper attached beyond ?_
  rw [Driver.attached, put, Splitters.side_put]
  exact attach_maxMode_le few ((right.at side).withMode 0xFF) rfl textOut

theorem recover_conOutSize (paper : Paper γ) (driver : Driver ι γ) (side : Side) :
    (driver.recover paper side).conOutSize = driver.conOutSize := by
  rw [recover]
  split <;> rfl

theorem added_conOutSize (paper : Paper γ) (driver : Driver ι γ) (side : Side) (textOut : ι)
    (beyond : Nat → ι) :
    (driver.added paper side textOut beyond).conOutSize = driver.conOutSize := by
  rw [added, intersect]
  dsimp only
  split
  · split
    · rw [recover_conOutSize]
      exact recover_conOutSize paper _ .conOut
    · rfl
  · rfl

/-- What a side shows when a console has come. -/
theorem view_start (paper : Paper γ) {textOut : ι} (fresh : textOut ∉ driver.list side)
    (beyond : Nat → ι) (nodup : ((driver.added paper side textOut beyond).list side).Nodup) :
    (driver.start paper side textOut beyond).view side =
      ((((driver.added paper side textOut beyond).view side).setConsoleOutMode paper
        driver.conOutSize).1.setAttribute paper side.attr).2 := by
  have size := added_conOutSize paper driver side textOut beyond
  rw [start, if_neg fresh]
  generalize driver.added paper side textOut beyond = added at nodup size ⊢
  have set : (added.setConsoleOutMode paper side).view side =
      ((added.view side).setConsoleOutMode paper driver.conOutSize).1 := by
    rw [← size]
    exact view_update nodup (setConsoleOutMode_sameTable paper added.conOutSize (added.view side))
  rw [← set]
  refine view_update ?_ (perform_sameTable paper _ (.setAttribute side.attr))
  exact (list_update added side side _).symm ▸ nodup

theorem start_conOutSize (paper : Paper γ) {textOut : ι} (fresh : textOut ∉ driver.list side)
    {beyond : Nat → ι} : (driver.start paper side textOut beyond).conOutSize =
      (((driver.added paper side textOut beyond).view side).setConsoleOutMode paper
        driver.conOutSize).2 := by
  have size := added_conOutSize paper driver side textOut beyond
  rw [start, if_neg fresh, ← size]
  rfl

/-- A console comes to a side, and all consoles of the side are in lockstep then. -/
theorem lockstep_start (paper : Paper γ) (right : driver.splitters.Right driver.modes)
    (distinct : driver.Distinct) {textOut : ι} (fresh : textOut ∉ driver.list side)
    (beyond : Nat → ι) :
    ((driver.added paper side textOut beyond).view side).SetsBaseMode paper driver.conOutSize ∧
      ∃ size, Lockstep size ((driver.start paper side textOut beyond).view side) ∧
        Chosen driver.conOutSize (driver.start paper side textOut beyond).conOutSize
          ((driver.start paper side textOut beyond).view side).Offered size := by
  have added := view_right ((added_byEvents paper right side textOut beyond).right right) side
  have attached := (attached_byEvents driver side textOut).right right
  have nodup : ((driver.added paper side textOut beyond).list side).Nodup := by
    rw [Driver.added, list_intersect paper attached]
    exact distinct.attached right fresh side
  obtain ⟨size, set, chosen, sets⟩ := @setConsoleOutMode_spec _ paper _ added
    (added_maxMode_le paper right side textOut beyond) driver.conOutSize
  have view := view_start paper fresh beyond nodup
  have same := set.same.trans (setAttribute_sameTable paper _ side.attr)
  have offered : ((driver.start paper side textOut beyond).view side).Offered =
      ((driver.added paper side textOut beyond).view side).Offered := by
    rw [view]
    exact funext fun other => congrArg _ (funext fun modeNumber => by rw [same.queryMode_eq])
  refine ⟨sets, size, ?_, ?_⟩
  · rw [view]
    exact .of_hasSet added set (Side.attr_valid side)
  · rw [offered, start_conOutSize paper fresh]
    exact chosen

/-- A console that comes to the other side. -/
theorem lockstep_start_other (paper : Paper γ) (sound : driver.Sound) (different : side ≠ other)
    (apart : driver.Apart) {textOut : ι} (absent : textOut ∉ driver.list side)
    (lockstep : Lockstep size (driver.view side)) (beyond : Nat → ι) :
    ∃ after, Lockstep after ((driver.start paper other textOut beyond).view side) := by
  by_cases fresh : textOut ∈ driver.list other
  · rw [start, if_pos fresh]
    exact ⟨size, lockstep⟩
  · have right := (attached_byEvents driver other textOut).right sound.right
    have distinct := sound.distinct.attached sound.right fresh
    have kept : (driver.attached other textOut).view side = driver.view side :=
      view_put_of_ne different
    have attached : (driver.attached other textOut).Apart := by
      have lists := list_attached sound.right other textOut
      refine .of_disjoint different ?_
      rw [lists, lists, if_pos rfl, if_neg different]
      intro one member both
      rcases List.mem_append.mp both with before | single
      · exact apart.disjoint different one member before
      · rw [List.mem_singleton.mp single] at member
        exact absent member
    obtain ⟨after, still⟩ : ∃ after,
        Lockstep after ((driver.added paper other textOut beyond).view side) :=
      lockstep_intersect paper right distinct attached (by rw [kept]; exact lockstep) beyond
    have added : (driver.added paper other textOut beyond).Apart :=
      attached.of_list (list_intersect paper right beyond)
    rw [start, if_neg fresh]
    generalize driver.added paper other textOut beyond = before at still added ⊢
    have set : (before.setConsoleOutMode paper other).view side = before.view side :=
      view_update_of_disjoint different (added.disjoint different)
        (setConsoleOutMode_sameTable paper before.conOutSize (before.view other))
    have last : (before.setConsoleOutMode paper other).Apart :=
      added.of_list (list_update before other · _)
    refine ⟨after, ?_⟩
    rw [view_perform_of_apart paper last different, set]
    exact still

/-- A console that goes from a side, while none is in both. -/
theorem lockstep_stop (paper : Paper γ) (sound : driver.Sound) (own : driver.splitters.OwnNumbers)
    (alike : ∀ one other, Alike (driver.modes one) (driver.modes other)) (apart : driver.Apart)
    (lockstep : Lockstep size (driver.view side)) (other : Side) (textOut : ι) (beyond : Nat → ι) :
    ∃ after, Lockstep after ((driver.stop paper other textOut beyond).view side) := by
  have right :=
    (detached_byEvents driver other ((driver.list other).idxOf textOut)).right sound.right
  have distinct := sound.distinct.detached sound.right other textOut
  have lists := list_detached sound.right other textOut
  have detached : ∃ after, Lockstep after ((driver.put other ((driver.splitters.side other).detach
      driver.modes ((driver.list other).idxOf textOut))).view side) := by
    by_cases same : side = other
    · obtain rfl := same
      rw [view_put]
      exact lockstep.detach alike (sound.right.at side) (own.at side) _
    · rw [view_put_of_ne same]
      exact ⟨size, lockstep⟩
  rw [stop]
  split
  · dsimp only
    split
    · exact detached
    · obtain ⟨after, still⟩ := detached
      refine lockstep_intersect paper right distinct ?_ still beyond
      refine apart.of_subset fun place one member => ?_
      rw [lists] at member
      split at member
      · next same =>
          rw [same]
          exact List.mem_of_mem_erase member
      · exact member
  · exact ⟨size, lockstep⟩

end Sides

end Driver

end HtcLeo.ConSplitter
