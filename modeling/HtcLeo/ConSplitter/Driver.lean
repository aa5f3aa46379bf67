import HtcLeo.ConSplitter.Calls

/-!
# The driver of both splitters

The lists of `mConOut` and `mStdErr` hold pointers to consoles, and a console may be in both: a
call of one splitter then changes what the other one's console shows.  The driver starts and
stops consoles on either side, and calls reach both.
-/

namespace HtcLeo.ConSplitter

open HtcLeo.GraphicsConsole TextOutSplitter

universe u v

/-! ## The two sides -/

/-- `mConOut` or `mStdErr`. -/
inductive Side
  | conOut
  | stdErr
  deriving DecidableEq, Repr

/-- The colors that are set when a console comes to the side. -/
def Side.attr : Side → U32
  | .conOut => efiTextAttr EFI_LIGHTGRAY EFI_BLACK
  | .stdErr => efiTextAttr EFI_MAGENTA EFI_BLACK

namespace Splitters

variable {δ : Type u}

/-- The splitter of a side. -/
def side (splitters : Splitters δ) : Side → TextOutSplitter δ
  | .conOut => splitters.conOut
  | .stdErr => splitters.stdErr

/-- Another splitter on a side. -/
def put (splitters : Splitters δ) (side : Side) (splitter : TextOutSplitter δ) : Splitters δ :=
  match side with
  | .conOut => { splitters with conOut := splitter }
  | .stdErr => { splitters with stdErr := splitter }

end Splitters

/-- The splitter with what its list points to. -/
def TextOutSplitter.map {δ : Type v} {ε : Type u} (read : δ → ε) (splitter : TextOutSplitter δ) :
    TextOutSplitter ε where
  textOutMode := splitter.textOutMode
  textOutList := splitter.textOutList.map read
  textOutListCount := splitter.textOutListCount
  currentNumberOfConsoles := splitter.currentNumberOfConsoles
  textOutQueryData := splitter.textOutQueryData
  textOutModeMap := splitter.textOutModeMap

/-- The consoles when those of a list have changed. -/
def written {ι : Type v} {γ : Type u} [DecidableEq ι] (list : List ι) (after : List (TextOut γ))
    (textOuts : ι → TextOut γ) (textOut : ι) : TextOut γ :=
  after.getD (list.idxOf textOut) (textOuts textOut)

/-! ## The driver -/

/-- Both splitters, the consoles that there are, and `PcdConOutColumn` and `PcdConOutRow`. -/
structure Driver (ι : Type v) (γ : Type u) where
  splitters : Splitters ι
  textOuts : ι → TextOut γ
  conOutSize : TextSize

namespace Driver

variable {ι : Type v} {γ : Type u}

/-- The driver of splitters that were just made. -/
def constructed (textOuts : ι → TextOut γ) (conOutSize : TextSize) : Driver ι γ :=
  ⟨.constructed ι, textOuts, conOutSize⟩

/-- The modes of the consoles. -/
def modes (driver : Driver ι γ) (textOut : ι) : List (Option TextSize) :=
  (driver.textOuts textOut).modes

/-- The list of consoles of a side. -/
def list (driver : Driver ι γ) (side : Side) : List ι :=
  (driver.splitters.side side).textOutList

/-- A side with its consoles. -/
def view (driver : Driver ι γ) (side : Side) : TextOutSplitter (TextOut γ) :=
  (driver.splitters.side side).map driver.textOuts

/-- Another splitter on a side. -/
def put (driver : Driver ι γ) (side : Side) (splitter : TextOutSplitter ι) : Driver ι γ :=
  { driver with splitters := driver.splitters.put side splitter }

section Code

variable [DecidableEq ι] (paper : Paper γ) (driver : Driver ι γ) (side : Side)

/-- What calls of a side leave: its mode data, and its consoles. -/
def update (after : TextOutSplitter (TextOut γ)) : Driver ι γ :=
  { driver.put side { driver.splitters.side side with textOutMode := after.textOutMode } with
    textOuts := written (driver.list side) after.textOutList driver.textOuts }

/-- A call of a side. -/
def perform (call : Call) : EfiStatus × Driver ι γ :=
  let result := (driver.view side).perform paper call
  (result.1, driver.update side result.2)

/-- The mode 0 is set on a side whose current mode has been taken out. -/
def recover : Driver ι γ :=
  if (driver.splitters.side side).textOutMode.mode < 0 then
    (driver.perform paper side (.setMode 0 true)).2
  else driver

/-- `ConSplitterGetIntersectionBetweenConOutAndStrErr`, for the memory behind the list of
`StdErr`. -/
def intersect (beyond : Nat → ι) : Driver ι γ :=
  let splitters := driver.splitters
  if foundTheSameTextOut (readList splitters.stdErr.textOutList beyond)
      splitters.stdErr.currentNumberOfConsoles splitters.conOut.textOutList 0 then
    match splitters.conOut.textOutModeMap, splitters.stdErr.textOutModeMap with
    | some conOutMap, some stdErrMap =>
        let tables := sharedModes splitters conOutMap stdErrMap
        let conOut := (driver.put .conOut
          (splitters.conOut.restrict fun _ index => tables.1 index)).recover paper .conOut
        (conOut.put .stdErr
          (splitters.stdErr.restrict fun _ index => tables.2 index)).recover paper .stdErr
    | _, _ => driver
  else driver

/-- The table for another console on a side.  The current mode is one that no mode of the table
is. -/
def attached (textOut : ι) : Driver ι γ :=
  let splitter := driver.splitters.side side
  let unset := { splitter with textOutMode := { splitter.textOutMode with mode := 0xFF } }
  driver.put side (unset.attach driver.modes textOut)

/-- `ConSplitterTextOutAddDevice` before the mode is set. -/
def added (textOut : ι) (beyond : Nat → ι) : Driver ι γ :=
  (driver.attached side textOut).intersect paper beyond

/-- `ConsplitterSetConsoleOutMode` of a side. -/
def setConsoleOutMode : Driver ι γ :=
  let set := (driver.view side).setConsoleOutMode paper driver.conOutSize
  { driver.update side set.1 with conOutSize := set.2 }

/-- `ConSplitterConOutDriverBindingStart` and `ConSplitterStdErrDriverBindingStart`.  A console
that the side has is not opened once more. -/
def start (textOut : ι) (beyond : Nat → ι) : Driver ι γ :=
  if textOut ∈ driver.list side then driver
  else
    let set := (driver.added paper side textOut beyond).setConsoleOutMode paper side
    (set.perform paper side (.setAttribute side.attr)).2

/-- `ConSplitterConOutDriverBindingStop` and `ConSplitterStdErrDriverBindingStop`.  There is no
search when the last console has gone. -/
def stop (textOut : ι) (beyond : Nat → ι) : Driver ι γ :=
  if textOut ∈ driver.list side then
    let splitter := driver.splitters.side side
    let detached := driver.put side
      (splitter.detach driver.modes (splitter.textOutList.idxOf textOut))
    if detached.list side = [] then detached else detached.intersect paper beyond
  else driver

end Code

end Driver

/-- What happens to the driver, with the memory behind the list of `StdErr` for a search. -/
inductive Action (ι : Type v)
  | start (side : Side) (textOut : ι) (beyond : Nat → ι)
  | stop (side : Side) (textOut : ι) (beyond : Nat → ι)
  | call (side : Side) (call : Call)

namespace Driver

variable {ι : Type v} {γ : Type u} [DecidableEq ι]

/-- The driver after something has happened. -/
def step (paper : Paper γ) (driver : Driver ι γ) : Action ι → Driver ι γ
  | .start side textOut beyond => driver.start paper side textOut beyond
  | .stop side textOut beyond => driver.stop paper side textOut beyond
  | .call side call => (driver.perform paper side call).2

/-- The driver after a run. -/
def steps (paper : Paper γ) (driver : Driver ι γ) (actions : List (Action ι)) : Driver ι γ :=
  actions.foldl (step paper) driver

end Driver

/-! ## Views -/

section Written

variable {ι : Type v} {γ : Type u} [DecidableEq ι] {list : List ι} {after : List (TextOut γ)}
  {textOuts : ι → TextOut γ} {textOut : ι}

theorem written_of_not_mem (length : after.length = list.length) (other : textOut ∉ list) :
    written list after textOuts textOut = textOuts textOut := by
  rw [written, List.idxOf_eq_length other, List.getD_eq_getElem?_getD,
    List.getElem?_eq_none (Nat.le_of_eq length), Option.getD_none]

theorem map_written (length : after.length = list.length) (distinct : list.Nodup) :
    list.map (written list after textOuts) = after := by
  refine List.ext_getElem (by rw [List.length_map, length]) fun index bound inside => ?_
  rw [List.length_map] at bound
  rw [List.getElem_map, written, distinct.idxOf_getElem index bound, List.getD_eq_getElem?_getD,
    List.getElem?_eq_getElem inside, Option.getD_some]

/-- The modes of the consoles do not change. -/
theorem written_modes (same : after.map TextOut.modes = (list.map textOuts).map TextOut.modes)
    (textOut : ι) : (written list after textOuts textOut).modes = (textOuts textOut).modes := by
  by_cases member : textOut ∈ list
  · have known := congrArg (·[list.idxOf textOut]?) same
    have bound := List.idxOf_lt_length_of_mem member
    simp only [List.getElem?_map, List.getElem?_eq_getElem bound, List.getElem_idxOf] at known
    rw [written, List.getD_eq_getElem?_getD]
    obtain ⟨console, found, modes⟩ := Option.map_eq_some_iff.mp known
    rw [found, Option.getD_some, modes]
  · have length := congrArg List.length same
    simp only [List.length_map] at length
    rw [written_of_not_mem length member]

end Written

section Sides

variable {δ : Type v} {splitters : Splitters δ} {splitter : TextOutSplitter δ} {other : Side}

@[simp]
theorem Splitters.side_put (splitters : Splitters δ) (place : Side) (splitter : TextOutSplitter δ) :
    (splitters.put place splitter).side place = splitter := by
  cases place <;> rfl

theorem Splitters.side_put_of_ne {place : Side} (apart : other ≠ place) :
    (splitters.put place splitter).side other = splitters.side other := by
  cases place <;> cases other <;> first | rfl | exact absurd rfl apart

theorem Splitters.Right.at {modes : δ → List (Option TextSize)} (right : splitters.Right modes)
    (place : Side) : TextOutSplitter.Right modes (splitters.side place) := by
  cases place with
  | conOut => exact right.1
  | stdErr => exact right.2

/-- The table is as right for the consoles as for the pointers to them. -/
theorem map_right {γ : Type u} {textOuts : δ → TextOut γ}
    (right : Right (fun textOut => (textOuts textOut).modes) splitter) :
    Right TextOut.modes (splitter.map textOuts) where
  number := by
    rw [TextOutSplitter.map, List.length_map]
    exact right.number
  some_step := right.some_step
  room := by
    rw [TextOutSplitter.map, List.length_map]
    exact right.room
  empty none := right.empty (List.map_eq_nil_iff.mp none)
  table listed := by
    have tabled := right.table fun none => listed (List.map_eq_nil_iff.mpr none)
    rw [TextOutSplitter.map, List.map_map]
    exact tabled

theorem TextOutSplitter.Right.withMode {modes : δ → List (Option TextSize)}
    (right : Right modes splitter) (mode : Int) :
    Right modes { splitter with textOutMode := { splitter.textOutMode with mode } } :=
  ⟨right.number, right.some_step, right.room, right.empty, right.table⟩

theorem SameTable.eq {γ : Type u} {before after : TextOutSplitter (TextOut γ)}
    (same : SameTable before after) : after =
      { before with textOutMode := after.textOutMode, textOutList := after.textOutList } := by
  obtain ⟨data, list, count, number, queryData, modeMap⟩ := after
  obtain ⟨-, rfl, rfl, rfl, rfl, -⟩ := same
  rfl

end Sides

namespace Driver

variable {ι : Type v} {γ : Type u} {driver : Driver ι γ} {side other : Side}
  {splitter : TextOutSplitter ι} {after : TextOutSplitter (TextOut γ)}

theorem view_right (right : driver.splitters.Right driver.modes) (side : Side) :
    Right TextOut.modes (driver.view side) :=
  map_right (right.at side)

@[simp]
theorem list_put (driver : Driver ι γ) (side : Side) (splitter : TextOutSplitter ι) :
    (driver.put side splitter).list side = splitter.textOutList := by
  rw [list, put, Splitters.side_put]

theorem list_put_of_ne (apart : other ≠ side) :
    (driver.put side splitter).list other = driver.list other := by
  rw [list, put, Splitters.side_put_of_ne apart]
  rfl

@[simp]
theorem view_put (driver : Driver ι γ) (side : Side) (splitter : TextOutSplitter ι) :
    (driver.put side splitter).view side = splitter.map driver.textOuts := by
  rw [view, put, Splitters.side_put]

theorem view_put_of_ne (apart : other ≠ side) :
    (driver.put side splitter).view other = driver.view other := by
  rw [view, put, Splitters.side_put_of_ne apart]
  rfl

theorem length_of_sameTable (same : SameTable (driver.view side) after) :
    after.textOutList.length = (driver.list side).length := by
  have both := congrArg List.length same.list
  rw [List.length_map, List.length_map] at both
  exact both.trans (List.length_map _)

variable [DecidableEq ι]

@[simp]
theorem list_update (driver : Driver ι γ) (side other : Side)
    (after : TextOutSplitter (TextOut γ)) :
    (driver.update side after).list other = driver.list other := by
  cases side <;> cases other <;> rfl

/-- The side shows what its calls have left. -/
theorem view_update (distinct : (driver.list side).Nodup)
    (same : SameTable (driver.view side) after) : (driver.update side after).view side = after := by
  have consoles : (driver.list side).map
      (written (driver.list side) after.textOutList driver.textOuts) = after.textOutList :=
    map_written (length_of_sameTable same) distinct
  have shown : (driver.update side after).view side =
      { driver.view side with
        textOutMode := after.textOutMode
        textOutList := (driver.list side).map
          (written (driver.list side) after.textOutList driver.textOuts) } := by
    cases side <;> rfl
  rw [shown, consoles]
  exact same.eq.symm

/-- Calls of a side do not show on the other one if no console is in both. -/
theorem view_update_of_disjoint (apart : other ≠ side)
    (disjoint : ∀ textOut ∈ driver.list other, textOut ∉ driver.list side)
    (same : SameTable (driver.view side) after) :
    (driver.update side after).view other = driver.view other := by
  have consoles : (driver.list other).map
      (written (driver.list side) after.textOutList driver.textOuts) =
      (driver.list other).map driver.textOuts :=
    List.map_congr_left fun textOut member =>
      written_of_not_mem (length_of_sameTable same) (disjoint textOut member)
  have shown : (driver.update side after).view other =
      { driver.view other with
        textOutList := (driver.list other).map
          (written (driver.list side) after.textOutList driver.textOuts) } := by
    cases side <;> cases other <;> first | rfl | exact absurd rfl apart
  rw [shown, consoles]
  rfl

theorem modes_update (same : SameTable (driver.view side) after) :
    (driver.update side after).modes = driver.modes :=
  funext fun textOut => written_modes same.list textOut

end Driver

/-! ## Events of the splitters -/

/-- The event of a side. -/
def Side.event {δ : Type v} : Side → Change δ → Event δ
  | .conOut => .conOut
  | .stdErr => .stdErr

theorem step_event {δ : Type v} [DecidableEq δ] (modes : δ → List (Option TextSize))
    (splitters : Splitters δ) (side : Side) (change : Change δ) :
    splitters.step modes (side.event change) =
      splitters.put side ((splitters.side side).change modes change) := by
  cases side <;> rfl

/-- Calls that leave a mode data on one side are an event. -/
theorem exists_step_call {δ : Type v} [DecidableEq δ] (modes : δ → List (Option TextSize))
    (splitters : Splitters δ) (side : Side) {data : TextOutMode}
    (same : data.maxMode = (splitters.side side).textOutMode.maxMode) :
    ∃ conOut stdErr, splitters.put side { splitters.side side with textOutMode := data } =
      splitters.step modes (.call conOut stdErr) := by
  obtain ⟨maxMode, mode, attr, column, row, visible⟩ := data
  cases side with
  | conOut =>
      obtain rfl : maxMode = splitters.conOut.textOutMode.maxMode := same
      exact ⟨⟨0, mode, attr, column, row, visible⟩, splitters.stdErr.textOutMode, rfl⟩
  | stdErr =>
      obtain rfl : maxMode = splitters.stdErr.textOutMode.maxMode := same
      exact ⟨splitters.conOut.textOutMode, ⟨0, mode, attr, column, row, visible⟩, rfl⟩

theorem Splitters.put_put {δ : Type v} (splitters : Splitters δ) (side : Side)
    (first second : TextOutSplitter δ) :
    (splitters.put side first).put side second = splitters.put side second := by
  cases side <;> rfl

theorem restrict_maxMode_pos {δ : Type v} {splitter : TextOutSplitter δ}
    {modes : δ → List (Option TextSize)}
    (right : TextOutSplitter.Right modes splitter) (listed : splitter.textOutList ≠ [])
    (other : Nat → Int) :
    0 < (splitter.restrict fun _ index => other index).textOutMode.maxMode := by
  have cut := restrict_right right listed other
  have reserved := (cut.table (by rw [restrict_textOutList]; exact listed)).1
  exact Nat.lt_of_lt_of_le Nat.zero_lt_two reserved

theorem setConsoleOutMode_sameTable {γ : Type u} (paper : Paper γ) (conOutSize : TextSize)
    (splitter : TextOutSplitter (TextOut γ)) :
    SameTable splitter (splitter.setConsoleOutMode paper conOutSize).1 := by
  have set (splitter : TextOutSplitter (TextOut γ)) (modeNumber : Nat) :
      SameTable splitter (splitter.setMode paper modeNumber).2 :=
    perform_sameTable paper splitter (.setMode modeNumber true)
  rw [TextOutSplitter.setConsoleOutMode]
  split
  · exact (set splitter _).trans (set _ _)
  · exact set splitter _

namespace Driver

variable {ι : Type v} {γ : Type u} {driver : Driver ι γ} {side : Side}

/-- The consoles of a driver are as the platform has them. -/
theorem conventional (driver : Driver ι γ) (textOut : ι) : Conventional (driver.modes textOut) :=
  (driver.textOuts textOut).conventional

/-- A mode that has been taken out is not the mode 0. -/
theorem view_mode_ne_zero (negative : (driver.splitters.side side).textOutMode.mode < 0) :
    (driver.view side).textOutMode.mode ≠ (0 : Nat) :=
  Int.ne_of_lt negative

/-- A console that comes is at the end of the list before the search. -/
theorem list_attached (right : driver.splitters.Right driver.modes) (side : Side) (textOut : ι)
    (other : Side) : (driver.attached side textOut).list other =
      if other = side then driver.list side ++ [textOut] else driver.list other := by
  rw [attached]
  split
  · next same =>
      rw [same, list_put]
      exact attach_textOutList ((right.at side).withMode 0xFF)
  · next apart => exact list_put_of_ne apart

/-- No console is twice in the list of a side. -/
def Distinct (driver : Driver ι γ) : Prop :=
  ∀ side, (driver.list side).Nodup

theorem Distinct.attached (right : driver.splitters.Right driver.modes)
    (distinct : driver.Distinct) {textOut : ι} (fresh : textOut ∉ driver.list side) :
    (driver.attached side textOut).Distinct := by
  intro other
  rw [list_attached right]
  split
  · refine List.nodup_append.mpr ⟨distinct side, List.nodup_singleton textOut, ?_⟩
    rintro one member other single rfl
    rw [List.mem_singleton.mp single] at member
    exact fresh member
  · exact distinct other

variable [DecidableEq ι] {after last : Driver ι γ} {paper : Paper γ} {beyond : Nat → ι}

/-- The splitters of a driver went through events of the splitters alone, and its consoles have
the same modes. -/
structure ByEvents (driver after : Driver ι γ) : Prop where
  modes : after.modes = driver.modes
  events : ∃ events, after.splitters = driver.splitters.steps driver.modes events

theorem ByEvents.refl (driver : Driver ι γ) : driver.ByEvents driver :=
  ⟨rfl, [], rfl⟩

theorem ByEvents.trans (first : driver.ByEvents after) (second : after.ByEvents last) :
    driver.ByEvents last := by
  obtain ⟨events, splitters⟩ := first.events
  obtain ⟨more, further⟩ := second.events
  refine ⟨second.modes.trans first.modes, events ++ more, ?_⟩
  rw [further, splitters, first.modes, Splitters.steps, Splitters.steps, Splitters.steps,
    List.foldl_append]

theorem ByEvents.right (byEvents : driver.ByEvents after)
    (right : driver.splitters.Right driver.modes) : after.splitters.Right after.modes := by
  obtain ⟨events, splitters⟩ := byEvents.events
  rw [splitters, byEvents.modes]
  exact right.steps driver.conventional events

theorem update_byEvents {result : TextOutSplitter (TextOut γ)}
    (same : SameTable (driver.view side) result) : driver.ByEvents (driver.update side result) := by
  obtain ⟨conOut, stdErr, called⟩ :=
    exists_step_call driver.modes driver.splitters side same.maxMode
  exact ⟨modes_update same, [.call conOut stdErr], called⟩

theorem perform_byEvents (paper : Paper γ) (driver : Driver ι γ) (side : Side) (call : Call) :
    driver.ByEvents (driver.perform paper side call).2 :=
  update_byEvents (perform_sameTable paper (driver.view side) call)

theorem setConsoleOutMode_byEvents (paper : Paper γ) (driver : Driver ι γ) (side : Side) :
    driver.ByEvents (driver.setConsoleOutMode paper side) := by
  obtain ⟨modes, splitters⟩ := update_byEvents
    (setConsoleOutMode_sameTable paper driver.conOutSize (driver.view side))
  exact ⟨modes, splitters⟩

theorem attached_byEvents (driver : Driver ι γ) (side : Side) (textOut : ι) :
    driver.ByEvents (driver.attached side textOut) := by
  obtain ⟨conOut, stdErr, unset⟩ := @exists_step_call _ _ driver.modes driver.splitters side
    { (driver.splitters.side side).textOutMode with mode := 0xFF } rfl
  refine ⟨rfl, [.call conOut stdErr, side.event (.connect textOut)], ?_⟩
  rw [Splitters.steps, List.foldl_cons, ← unset, List.foldl_cons, step_event, Splitters.put_put,
    Splitters.side_put]
  rfl

/-- The mode 0 that is set on the consoles goes to the splitter's mode data. -/
theorem recover_splitters (positive : 0 < (driver.splitters.side side).textOutMode.maxMode) :
    (driver.recover paper side).splitters =
      driver.splitters.put side (driver.splitters.side side).recover := by
  rw [recover, TextOutSplitter.recover]
  split
  · next negative =>
      have inside : ¬ (driver.view side).textOutMode.maxMode ≤ 0 := Nat.not_le.mpr positive
      have set : ((driver.view side).setMode paper 0).2.textOutMode =
          (driver.view side).textOutMode.set 0 := by
        rw [TextOutSplitter.setMode, if_neg inside, if_neg (view_mode_ne_zero negative)]
        rfl
      have data : (driver.perform paper side (.setMode 0 true)).2.splitters =
          driver.splitters.put side { driver.splitters.side side with
            textOutMode := ((driver.view side).setMode paper 0).2.textOutMode } := rfl
      rw [data, set]
      rfl
  · cases side <;> rfl

theorem recover_modes (paper : Paper γ) (driver : Driver ι γ) (side : Side) :
    (driver.recover paper side).modes = driver.modes := by
  rw [recover]
  split
  · exact (perform_byEvents paper driver side _).modes
  · rfl

/-- The search with the consoles does to the splitters what it does without them. -/
theorem intersect_spec (paper : Paper γ) (right : driver.splitters.Right driver.modes)
    (beyond : Nat → ι) :
    (driver.intersect paper beyond).splitters =
        getIntersectionBetweenConOutAndStdErr beyond driver.splitters ∧
      (driver.intersect paper beyond).modes = driver.modes := by
  by_cases found : foundTheSameTextOut (readList driver.splitters.stdErr.textOutList beyond)
      driver.splitters.stdErr.currentNumberOfConsoles driver.splitters.conOut.textOutList 0 = true
  · obtain ⟨listed, other_listed⟩ := listed_of_found right.2.number found
    obtain ⟨conOutMap, stdErrMap, present, other_present⟩ :=
      exists_map_of_found right.1 right.2 found
    simp only [intersect, getIntersectionBetweenConOutAndStdErr, if_pos found, present,
      other_present]
    constructor
    · have conOut := @recover_splitters _ _ (driver.put .conOut (driver.splitters.conOut.restrict
        fun _ index => (sharedModes driver.splitters conOutMap stdErrMap).1 index)) .conOut _ paper
        (restrict_maxMode_pos right.1 listed _)
      have stdErr (before : Driver ι γ) := @recover_splitters _ _ (before.put .stdErr
        (driver.splitters.stdErr.restrict
          fun _ index => (sharedModes driver.splitters conOutMap stdErrMap).2 index)) .stdErr _
        paper (restrict_maxMode_pos right.2 other_listed _)
      rw [stdErr, put, conOut]
      rfl
    · rw [recover_modes]
      exact recover_modes paper _ .conOut
  · simp only [intersect, getIntersectionBetweenConOutAndStdErr, if_neg found, and_self]

theorem intersect_byEvents (paper : Paper γ) (right : driver.splitters.Right driver.modes)
    (beyond : Nat → ι) : driver.ByEvents (driver.intersect paper beyond) := by
  obtain ⟨splitters, modes⟩ := intersect_spec paper right beyond
  exact ⟨modes, [.intersect beyond], splitters⟩

theorem list_intersect (paper : Paper γ) (right : driver.splitters.Right driver.modes)
    (beyond : Nat → ι) (side : Side) :
    (driver.intersect paper beyond).list side = driver.list side := by
  obtain ⟨conOut, stdErr⟩ := getIntersectionBetween_textOutList beyond driver.splitters
  rw [list, (intersect_spec paper right beyond).1]
  cases side with
  | conOut => exact conOut
  | stdErr => exact stdErr

theorem added_byEvents (paper : Paper γ) (right : driver.splitters.Right driver.modes) (side : Side)
    (textOut : ι) (beyond : Nat → ι) : driver.ByEvents (driver.added paper side textOut beyond) :=
  have attached := attached_byEvents driver side textOut
  attached.trans (intersect_byEvents paper (attached.right right) beyond)

theorem start_byEvents (paper : Paper γ) (right : driver.splitters.Right driver.modes) (side : Side)
    (textOut : ι) (beyond : Nat → ι) :
    driver.ByEvents (driver.start paper side textOut beyond) := by
  rw [start]
  split
  · exact .refl driver
  · exact ((added_byEvents paper right side textOut beyond).trans
      (setConsoleOutMode_byEvents paper _ side)).trans (perform_byEvents paper _ side _)

/-- A console that goes, before the search. -/
theorem detached_byEvents (driver : Driver ι γ) (side : Side) (index : Nat) :
    driver.ByEvents
      (driver.put side ((driver.splitters.side side).detach driver.modes index)) := by
  refine ⟨rfl, [side.event (.disconnect index)], ?_⟩
  rw [Splitters.steps, List.foldl_cons, step_event]
  rfl

theorem stop_byEvents (paper : Paper γ) (right : driver.splitters.Right driver.modes) (side : Side)
    (textOut : ι) (beyond : Nat → ι) : driver.ByEvents (driver.stop paper side textOut beyond) := by
  have detached := detached_byEvents driver side (((driver.splitters.side side).textOutList).idxOf
    textOut)
  rw [stop]
  split
  · dsimp only
    split
    · exact detached
    · exact detached.trans (intersect_byEvents paper (detached.right right) beyond)
  · exact .refl driver

theorem step_byEvents (paper : Paper γ) (right : driver.splitters.Right driver.modes)
    (action : Action ι) : driver.ByEvents (driver.step paper action) := by
  cases action with
  | start side textOut beyond => exact start_byEvents paper right side textOut beyond
  | stop side textOut beyond => exact stop_byEvents paper right side textOut beyond
  | call side call => exact perform_byEvents paper driver side call

/-- What a run of the driver does to its splitters, events of the splitters alone do. -/
theorem steps_byEvents (paper : Paper γ) (right : driver.splitters.Right driver.modes)
    (actions : List (Action ι)) : driver.ByEvents (driver.steps paper actions) := by
  induction actions generalizing driver with
  | nil => exact .refl driver
  | cons action rest ih =>
      have first := step_byEvents paper right action
      exact first.trans (ih (first.right right))

/-! ## The lists -/

theorem list_start (paper : Paper γ) (right : driver.splitters.Right driver.modes)
    {textOut : ι} (fresh : textOut ∉ driver.list side) (beyond : Nat → ι) (other : Side) :
    (driver.start paper side textOut beyond).list other =
      (driver.attached side textOut).list other := by
  have attached := (attached_byEvents driver side textOut).right right
  rw [start, if_neg fresh]
  exact (list_update _ side other _).trans
    ((list_update _ side other _).trans (list_intersect paper attached beyond other))

theorem list_detached (right : driver.splitters.Right driver.modes) (side : Side) (textOut : ι)
    (other : Side) :
    (driver.put side ((driver.splitters.side side).detach driver.modes
      ((driver.list side).idxOf textOut))).list other =
        if other = side then (driver.list side).erase textOut else driver.list other := by
  split
  · next same =>
      rw [same, list_put, List.erase_eq_eraseIdx_of_idxOf rfl]
      exact (detach_right driver.conventional (right.at side) _).2.2
  · next apart => exact list_put_of_ne apart

theorem list_stop (paper : Paper γ) (right : driver.splitters.Right driver.modes) (textOut : ι)
    (beyond : Nat → ι) (other : Side) :
    (driver.stop paper side textOut beyond).list other =
      if other = side then (driver.list side).erase textOut else driver.list other := by
  have detached := (detached_byEvents driver side ((driver.list side).idxOf textOut)).right right
  have gone := list_detached right side textOut other
  rw [stop]
  split
  · dsimp only
    split
    · exact gone
    · exact (list_intersect paper detached beyond other).trans gone
  · next missing =>
      split
      · next same => rw [same, List.erase_of_not_mem missing]
      · rfl

theorem Distinct.detached (right : driver.splitters.Right driver.modes) (distinct : driver.Distinct)
    (side : Side) (textOut : ι) :
    (driver.put side ((driver.splitters.side side).detach driver.modes
      ((driver.list side).idxOf textOut))).Distinct := by
  intro other
  rw [list_detached right]
  split
  · exact (distinct side).erase textOut
  · exact distinct other

theorem Distinct.step (right : driver.splitters.Right driver.modes) (distinct : driver.Distinct)
    (paper : Paper γ) (action : Action ι) : (driver.step paper action).Distinct := by
  intro other
  cases action with
  | start side textOut beyond =>
      by_cases fresh : textOut ∈ driver.list side
      · rw [Driver.step, start, if_pos fresh]
        exact distinct other
      · rw [Driver.step, list_start paper right fresh]
        exact distinct.attached right fresh other
  | stop side textOut beyond =>
      rw [Driver.step, list_stop paper right, ← list_detached right]
      exact distinct.detached right side textOut other
  | call side call =>
      rw [Driver.step]
      exact (list_update driver side other _).symm ▸ distinct other

end Driver

end HtcLeo.ConSplitter
