import HtcLeo.ConSplitter.Sides
import HtcLeo.GraphicsConsole.Cursor

/-!
# Consoles under calls

Consoles come and go on both sides while both are called.  Whatever happened before, those of a
side are in lockstep when a console has come to it, and consoles that are alike stay so as long
as the other side does not act on them.
-/

namespace HtcLeo.ConSplitter

open Grid HtcLeo.GraphicsConsole TextOutSplitter

universe u v

/-! ## Calls -/

section Calls

variable {γ : Type u} {paper : Paper γ} {size : TextSize} {splitter : TextOutSplitter (TextOut γ)}

/-- A call that not all consoles can follow: it sets the mode 80x50, which one does not have. -/
def TextOutSplitter.Breaks (splitter : TextOutSplitter (TextOut γ)) : Call → Prop
  | .setMode modeNumber _ => modeNumber = 1 ∧ ∃ textOut ∈ splitter.textOutList,
      textOut.modes[1]? = some none
  | _ => False

/-- The first mode is the only one without a console. -/
theorem ne_nil_of_lt_maxMode (right : Right TextOut.modes splitter) {modeNumber : Nat}
    (positive : 0 < modeNumber) (inside : modeNumber < splitter.textOutMode.maxMode) :
    splitter.textOutList ≠ [] := by
  intro none
  rw [(right.empty none).1] at inside
  omega

/-- All modes but the second one are offered. -/
theorem isSome_queryMode (right : Right TextOut.modes splitter) {modeNumber : Nat}
    (inside : modeNumber < splitter.textOutMode.maxMode)
    (other : modeNumber = 1 → ∀ textOut ∈ splitter.textOutList, textOut.modes[1]? ≠ some none) :
    (splitter.queryMode modeNumber).isSome := by
  rcases Nat.eq_zero_or_pos modeNumber with rfl | positive
  · rw [right.shown.first]
    rfl
  · have listed := ne_nil_of_lt_maxMode right positive inside
    rcases Nat.eq_or_lt_of_le positive with second | high
    · obtain rfl : modeNumber = 1 := second.symm
      rw [queryMode_one right listed fun textOut member =>
        textOut.conventional.second.resolve_left (other rfl textOut member)]
      rfl
    · obtain ⟨-, map, present, truthful⟩ := right.table listed
      have proper := (truthful.rows modeNumber inside).sizes high
      rw [(queryMode_eq_some_iff present).mpr ⟨inside, rfl, proper⟩]
      rfl

/-- 80x50 is not offered if a console does not have it. -/
theorem queryMode_one_of_missing (right : Right TextOut.modes splitter) {textOut : TextOut γ}
    (member : textOut ∈ splitter.textOutList) (missing : textOut.modes[1]? = some none) :
    1 < splitter.textOutMode.maxMode ∧ splitter.queryMode 1 = none := by
  have listed : splitter.textOutList ≠ [] := List.ne_nil_of_mem member
  obtain ⟨reserved, map, present, truthful⟩ := right.table listed
  refine ⟨reserved, ?_⟩
  cases offered : splitter.queryMode 1 with
  | none => rfl
  | some size =>
      obtain ⟨-, sized, proper⟩ := (queryMode_eq_some_iff present).mp offered
      have none : rowSize splitter.textOutListCount splitter.textOutQueryData map 1 = (0, 0) := by
        rw [rowSize, truthful.second]
        refine truthful.secondSize.trans (if_neg fun all => ?_)
        have has := all textOut.modes (List.mem_map.mpr ⟨textOut, member, rfl⟩)
        rw [missing] at has
        cases has
      exact absurd (sized.symm.trans none) proper

theorem safe_of_not_breaks (right : Right TextOut.modes splitter) {call : Call}
    (follows : ¬ splitter.Breaks call) : splitter.Safe call := by
  cases call with
  | setMode modeNumber allocated =>
      exact fun inside => isSome_queryMode right inside fun second textOut member missing =>
        follows ⟨second, textOut, member, missing⟩
  | _ => trivial

/-- The splitter goes to a mode that it does not offer. -/
theorem not_lockstep_of_missing (lockstep : Lockstep size splitter) {textOut : TextOut γ}
    (member : textOut ∈ splitter.textOutList) (missing : textOut.modes[1]? = some none)
    (other : TextSize) : ¬ Lockstep other (splitter.setMode paper 1).2 := by
  intro after
  obtain ⟨inside, none⟩ := queryMode_one_of_missing lockstep.right member missing
  have apart : splitter.textOutMode.mode ≠ (1 : Nat) := by
    intro same
    have current := lockstep.isAt.2
    rw [same] at current
    have current : splitter.queryMode 1 = some size := current
    rw [none] at current
    cases current
  have set : (splitter.setMode paper 1).2.textOutMode.mode = (1 : Nat) := by
    rw [TextOutSplitter.setMode, if_neg (Nat.not_le.mpr inside), if_neg apart]
    rfl
  have same : SameTable splitter (splitter.setMode paper 1).2 :=
    perform_sameTable paper splitter (.setMode 1 true)
  have current := after.isAt.2
  rw [same.queryMode_eq, set] at current
  have current : splitter.queryMode 1 = some other := current
  rw [none] at current
  cases current

/-- The consoles stay in lockstep exactly if all of them can follow the call. -/
theorem Lockstep.perform_iff (lockstep : Lockstep size splitter) (call : Call) :
    (∃ other, Lockstep other (splitter.perform paper call).2) ↔ ¬ splitter.Breaks call := by
  constructor
  · rintro ⟨other, after⟩ breaks
    cases call with
    | setMode modeNumber allocated =>
        obtain ⟨rfl, textOut, member, missing⟩ := breaks
        exact not_lockstep_of_missing lockstep member missing other after
    | reset _ => exact breaks
    | outputString _ => exact breaks
    | setAttribute _ => exact breaks
    | clearScreen => exact breaks
    | setCursorPosition _ _ => exact breaks
    | enableCursor _ => exact breaks
  · exact fun follows => (lockstep.perform (safe_of_not_breaks lockstep.right follows)).1

end Calls

/-! ## Runs -/

namespace Driver

section Runs

variable {ι : Type v} {side other : Side}

/-- No console comes to both sides, and no mode is set on the side. -/
structure Separate (side : Side) (actions : List (Action ι)) : Prop where
  starts : ∀ textOut beyond other, Action.start .conOut textOut beyond ∈ actions →
    Action.start .stdErr textOut other ∉ actions
  calls : ∀ modeNumber allocated, Action.call side (.setMode modeNumber allocated) ∉ actions

theorem Separate.first {done rest : List (Action ι)} (separate : Separate side (done ++ rest)) :
    Separate side done where
  starts textOut beyond other one two :=
    separate.starts textOut beyond other (List.mem_append_left _ one) (List.mem_append_left _ two)
  calls modeNumber allocated called :=
    separate.calls modeNumber allocated (List.mem_append_left _ called)

variable {γ : Type u} [DecidableEq ι] {paper : Paper γ} {driver : Driver ι γ} {size : TextSize}

theorem Sound.step (sound : driver.Sound) (paper : Paper γ) (action : Action ι) :
    (driver.step paper action).Sound :=
  ⟨(step_byEvents paper sound.right action).right sound.right,
    sound.distinct.step sound.right paper action⟩

theorem Sound.steps (sound : driver.Sound) (paper : Paper γ) (actions : List (Action ι)) :
    (driver.steps paper actions).Sound := by
  induction actions generalizing driver with
  | nil => exact sound
  | cons action rest ih => exact ih (sound.step paper action)

/-- A console that comes when 40x12 is asked for. -/
theorem start_base (paper : Paper γ) (sound : driver.Sound) (base : driver.conOutSize = (40, 12))
    {textOut : ι} (fresh : textOut ∉ driver.list side) (beyond : Nat → ι) :
    (driver.start paper side textOut beyond).list side = driver.list side ++ [textOut] ∧
      (driver.start paper side textOut beyond).conOutSize = (40, 12) ∧
      Lockstep (40, 12) ((driver.start paper side textOut beyond).view side) := by
  obtain ⟨-, size, lockstep, chosen⟩ :=
    lockstep_start paper sound.right sound.distinct fresh beyond
  rw [base] at chosen
  obtain ⟨rfl, after⟩ := chosen.given ⟨by decide, by decide⟩ ⟨0, lockstep.right.shown.first⟩
  refine ⟨?_, after, lockstep⟩
  rw [list_start paper sound.right fresh, list_attached sound.right, if_pos rfl]

/-- A console of a list was there before, or has come to the side. -/
theorem mem_list_steps (sound : driver.Sound) (paper : Paper γ) {textOut : ι}
    {actions : List (Action ι)} (member : textOut ∈ (driver.steps paper actions).list side) :
    textOut ∈ driver.list side ∨ ∃ beyond, Action.start side textOut beyond ∈ actions := by
  induction actions generalizing driver with
  | nil => exact .inl member
  | cons action rest ih =>
      rcases ih (sound.step paper action) member with before | ⟨beyond, later⟩
      · cases action with
        | start other one beyond =>
            rw [step] at before
            by_cases fresh : one ∈ driver.list other
            · rw [start, if_pos fresh] at before
              exact .inl before
            · rw [list_start paper sound.right fresh, list_attached sound.right] at before
              split at before
              · next same =>
                  obtain rfl := same
                  rcases List.mem_append.mp before with earlier | single
                  · exact .inl earlier
                  · obtain rfl := List.mem_singleton.mp single
                    exact .inr ⟨beyond, List.mem_cons_self⟩
              · exact .inl before
        | stop other one beyond =>
            rw [step, list_stop paper sound.right] at before
            split at before
            · next same =>
                obtain rfl := same
                exact .inl (List.mem_of_mem_erase before)
            · exact .inl before
        | call other call =>
            rw [step] at before
            exact .inl ((list_update driver other side _) ▸ before)
      · exact .inr ⟨beyond, List.mem_cons_of_mem _ later⟩

/-- What happens keeps the consoles of a side in lockstep: the side may be called as they can
follow, and more consoles may come to it.  All else needs that no console is in both. -/
def Keeps (driver : Driver ι γ) (side : Side) : Action ι → Prop
  | .start other textOut _ => other = side ∨ driver.Apart ∧ textOut ∉ driver.list side
  | .stop _ _ _ => driver.Apart
  | .call other call =>
      if other = side then ¬ (driver.view side).Breaks call else driver.Apart

/-- All of a run keeps the consoles of a side in lockstep. -/
def Followed (paper : Paper γ) (side : Side) : Driver ι γ → List (Action ι) → Prop
  | _, [] => True
  | driver, action :: rest =>
      driver.Keeps side action ∧ (driver.step paper action).Followed paper side rest

/-- What happens to a side in lockstep. -/
theorem lockstep_step (paper : Paper γ) (sound : driver.Sound) (own : driver.splitters.OwnNumbers)
    (alike : ∀ one other, Alike (driver.modes one) (driver.modes other))
    (lockstep : Lockstep size (driver.view side)) {action : Action ι}
    (keeps : driver.Keeps side action) :
    ∃ after, Lockstep after ((driver.step paper action).view side) := by
  cases action with
  | start other textOut beyond =>
      by_cases same : other = side
      · obtain rfl := same
        by_cases fresh : textOut ∈ driver.list other
        · rw [step, start, if_pos fresh]
          exact ⟨size, lockstep⟩
        · obtain ⟨-, after, still, -⟩ :=
            lockstep_start paper sound.right sound.distinct fresh beyond
          exact ⟨after, still⟩
      · obtain ⟨apart, absent⟩ := keeps.resolve_left same
        exact lockstep_start_other paper sound (Ne.symm same) apart absent lockstep beyond
  | stop other textOut beyond =>
      exact lockstep_stop paper sound own alike keeps lockstep other textOut beyond
  | call other call =>
      rw [Keeps] at keeps
      rw [step]
      split at keeps
      · next same =>
          obtain rfl := same
          rw [view_perform paper sound.distinct]
          exact (lockstep.perform_iff call).mpr keeps
      · next different =>
          rw [view_perform_of_apart paper keeps (Ne.symm different)]
          exact ⟨size, lockstep⟩

theorem Separate.apart {textOuts : ι → TextOut γ} {conOutSize : TextSize} {paper : Paper γ}
    {actions : List (Action ι)} (separate : Separate side actions) :
    ((constructed textOuts conOutSize).steps paper actions).Apart := by
  have sound := sound_constructed textOuts conOutSize
  intro textOut member both
  rcases mem_list_steps sound paper member with none | ⟨beyond, first⟩
  · exact absurd none List.not_mem_nil
  · rcases mem_list_steps sound paper both with none | ⟨other, second⟩
    · exact absurd none List.not_mem_nil
    · exact separate.starts textOut beyond other first second

/-- A console that comes to the other side is not in the list. -/
theorem Separate.not_mem {textOuts : ι → TextOut γ} {conOutSize : TextSize} {paper : Paper γ}
    {done rest : List (Action ι)} {textOut : ι} {beyond : Nat → ι} (different : other ≠ side)
    (separate : Separate side (done ++ .start other textOut beyond :: rest)) :
    textOut ∉ ((constructed textOuts conOutSize).steps paper done).list side := by
  intro member
  have here : Action.start other textOut beyond ∈ done ++ .start other textOut beyond :: rest :=
    List.mem_append_right _ List.mem_cons_self
  rcases mem_list_steps (sound_constructed textOuts conOutSize) paper member with
    none | ⟨before, started⟩
  · cases side <;> exact absurd none List.not_mem_nil
  · have earlier : Action.start side textOut before ∈ done ++ .start other textOut beyond :: rest :=
      List.mem_append_left _ started
    cases side <;> cases other
    · exact different rfl
    · exact separate.starts textOut before beyond earlier here
    · exact separate.starts textOut beyond before here earlier
    · exact different rfl

/-- A run in which no console comes to both sides keeps the consoles of a side in lockstep. -/
theorem Separate.followed {textOuts : ι → TextOut γ} {conOutSize : TextSize} {paper : Paper γ}
    {done rest : List (Action ι)} (separate : Separate side (done ++ rest)) :
    ((constructed textOuts conOutSize).steps paper done).Followed paper side rest := by
  induction rest generalizing done with
  | nil => trivial
  | cons action rest ih =>
      have apart : ((constructed textOuts conOutSize).steps paper done).Apart :=
        separate.first.apart
      have further : done ++ action :: rest = (done ++ [action]) ++ rest := by
        rw [List.append_assoc, List.singleton_append]
      have last : (constructed textOuts conOutSize).steps paper (done ++ [action]) =
          ((constructed textOuts conOutSize).steps paper done).step paper action :=
        List.foldl_append
      refine ⟨?_, ?_⟩
      · cases action with
        | start other textOut beyond =>
            by_cases same : other = side
            · exact .inl same
            · exact .inr ⟨apart, separate.not_mem same⟩
        | stop other textOut beyond => exact apart
        | call other call =>
            rw [Keeps]
            split
            · next same =>
                obtain rfl := same
                cases call with
                | setMode modeNumber allocated =>
                    exact absurd (List.mem_append_right _ List.mem_cons_self)
                      (separate.calls modeNumber allocated)
                | _ => exact id
            · exact apart
      · rw [← last]
        exact ih (by rw [← further]; exact separate)

/-- The consoles of a side are at the start: there is none, or one has just come to the side,
whatever has happened before. -/
inductive Begun (paper : Paper γ) (textOuts : ι → TextOut γ) (side : Side) : Driver ι γ → Prop
  | constructed (conOutSize : TextSize) :
      Begun paper textOuts side (constructed textOuts conOutSize)
  | started (conOutSize : TextSize) (actions : List (Action ι)) (textOut : ι) (beyond : Nat → ι)
      (fresh : textOut ∉ ((Driver.constructed textOuts conOutSize).steps paper actions).list side) :
      Begun paper textOuts side
        (((Driver.constructed textOuts conOutSize).steps paper actions).start paper side textOut
          beyond)

/-- A run of a driver whose consoles of a side are in lockstep. -/
structure Running (textOuts : ι → TextOut γ) (side : Side) (driver : Driver ι γ) : Prop where
  sound : driver.Sound
  own : driver.splitters.OwnNumbers
  modes : driver.modes = fun textOut => (textOuts textOut).modes
  lockstep : ∃ size, Lockstep size (driver.view side)

section Alike

variable {textOuts : ι → TextOut γ} {paper : Paper γ}
  (alike : ∀ one other : ι, Alike (textOuts one).modes (textOuts other).modes)
include alike

theorem ByEvents.ownNumbers {after : Driver ι γ} (byEvents : driver.ByEvents after)
    (modes : driver.modes = fun textOut => (textOuts textOut).modes) (sound : driver.Sound)
    (own : driver.splitters.OwnNumbers) : after.splitters.OwnNumbers := by
  obtain ⟨events, splitters⟩ := byEvents.events
  have right := sound.right
  rw [splitters]
  rw [modes] at right ⊢
  exact own.steps (fun textOut => (textOuts textOut).conventional) alike right events

theorem Running.step (running : Running textOuts side driver) {action : Action ι}
    (keeps : driver.Keeps side action) : Running textOuts side (driver.step paper action) := by
  have byEvents := step_byEvents paper running.sound.right action
  obtain ⟨size, lockstep⟩ := running.lockstep
  refine ⟨running.sound.step paper action, ?_, byEvents.modes.trans running.modes, ?_⟩
  · exact byEvents.ownNumbers alike running.modes running.sound running.own
  · refine lockstep_step paper running.sound running.own ?_ lockstep keeps
    rw [running.modes]
    exact alike

theorem Running.steps (running : Running textOuts side driver) {actions : List (Action ι)}
    (followed : driver.Followed paper side actions) :
    Running textOuts side (driver.steps paper actions) := by
  induction actions generalizing driver with
  | nil => exact running
  | cons action rest ih => exact ih (running.step alike followed.1) followed.2

theorem Begun.running (begun : Begun paper textOuts side driver) :
    Running textOuts side driver := by
  have empty : (TextOutSplitter.constructed ι).OwnNumbers :=
    ownNumbers_of_empty (right_constructed fun textOut => (textOuts textOut).modes) rfl
  have own (conOutSize : TextSize) :
      (Driver.constructed textOuts conOutSize).splitters.OwnNumbers :=
    ⟨empty, empty⟩
  cases begun with
  | constructed conOutSize =>
      have valid : (0 : U32) ||| 0x7F = 0x7F := by decide
      have sound := sound_constructed textOuts conOutSize
      refine ⟨sound, own conOutSize, rfl, (40, 12), ?_⟩
      have right := view_right sound.right side
      cases side <;> exact .of_empty right rfl rfl valid ⟨rfl, rfl⟩
  | started conOutSize actions textOut beyond fresh =>
      have first := sound_constructed textOuts conOutSize
      have sound := first.steps paper actions
      have before := steps_byEvents paper first.right actions
      have byEvents := before.trans (start_byEvents paper sound.right side textOut beyond)
      obtain ⟨-, size, lockstep, -⟩ :=
        lockstep_start paper sound.right sound.distinct fresh beyond
      exact ⟨sound.step paper (.start side textOut beyond),
        byEvents.ownNumbers alike rfl first (own conOutSize), byEvents.modes, size, lockstep⟩

end Alike

end Runs

end Driver

/-! ## Graphics consoles -/

section Graphics

variable {γ : Type u}

theorem length_table_le (screen : U32 × U32) :
    (initializeGraphicsConsoleTextMode screen.1 screen.2 0).length ≤ 255 := by
  have same := congrArg List.length (reportedModes_eq_graphicsSizes screen.1 screen.2 0)
  rw [reportedModes, List.length_map] at same
  have short := length_graphicsSizes (screen.1.toNat / 8) (screen.2.toNat / 19)
  omega

theorem two_le_columns {screen : U32 × U32} (columns : screen.1.toNat / 8 ≠ 1) :
    ∀ mode ∈ initializeGraphicsConsoleTextMode screen.1 screen.2 0,
      mode.Usable → 2 ≤ mode.columns.toNat := by
  intro mode member usable
  rcases (forall_mem_table screen.1 screen.2 0 columns mode member).2 with none | sized
  · exact absurd none.1 usable.1
  · exact sized.1

/-- A graphics console that was started for a screen. -/
def TextOut.graphics (screen : U32 × U32) (columns : screen.1.toNat / 8 ≠ 1) (page : γ) :
    TextOut γ where
  table := initializeGraphicsConsoleTextMode screen.1 screen.2 0
  console := .started page
  conventional := conventional_graphics screen.1 screen.2 0
  distinct := distinct_graphics screen.1 screen.2 0
  wide := two_le_columns columns
  few := length_table_le screen

end Graphics

/-- The screens whose modes have at least two columns. -/
abbrev Screen :=
  { screen : U32 × U32 // screen.1.toNat / 8 ≠ 1 }

/-- The graphics consoles of all these screens. -/
def graphicsConsole (screen : Screen) : TextOut Unit :=
  .graphics screen.1 screen.2 ()

theorem alike_graphicsConsole (one other : Screen) :
    Alike (graphicsConsole one).modes (graphicsConsole other).modes :=
  alike_graphics one.1 other.1 0 0

/-- A screen of 480 by 800 pixels. -/
def tallScreen : Screen := ⟨(480, 800), by decide⟩

/-- A screen of 1024 by 768 pixels. -/
def wideScreen : Screen := ⟨(1024, 768), by decide⟩

/-- A screen of 800 by 600 pixels. -/
def lowScreen : Screen := ⟨(800, 600), by decide⟩

/-! ## Results -/

section Results

variable {ι : Type v} {γ : Type u} [DecidableEq ι]

/-- Whatever happened before on both sides, all consoles of a side are in lockstep when one has
come to it, with the size that is asked for if all have it. -/
theorem lockstep_of_start (paper : Paper γ) (textOuts : ι → TextOut γ) (conOutSize : TextSize)
    (actions : List (Action ι)) (side : Side) {textOut : ι} (beyond : Nat → ι)
    (fresh : textOut ∉ ((Driver.constructed textOuts conOutSize).steps paper actions).list side) :
    let before := (Driver.constructed textOuts conOutSize).steps paper actions
    let after := before.start paper side textOut beyond
    ((before.added paper side textOut beyond).view side).SetsBaseMode paper before.conOutSize ∧
      after.list side = before.list side ++ [textOut] ∧
      ∃ size, Lockstep size (after.view side) ∧
        Chosen before.conOutSize after.conOutSize (after.view side).Offered size := by
  intro before after
  have sound := (Driver.sound_constructed textOuts conOutSize).steps paper actions
  obtain ⟨sets, lockstep⟩ := Driver.lockstep_start paper sound.right sound.distinct fresh beyond
  refine ⟨sets, ?_, lockstep⟩
  exact (Driver.list_start paper sound.right fresh beyond side).trans
    ((Driver.list_attached sound.right side textOut side).trans (if_pos rfl))

/-- Another screen comes while the first one is in both lists. -/
theorem lockstep_of_start_shared :
    let before := (Driver.constructed graphicsConsole (80, 25)).steps blankPaper
      [.start .conOut tallScreen fun _ => tallScreen, .call .conOut (.outputString [0x0041]),
        .start .stdErr tallScreen fun _ => tallScreen, .call .stdErr (.setCursorPosition 3 2)]
    let after := before.start blankPaper .conOut wideScreen fun _ => tallScreen
    ((before.added blankPaper .conOut wideScreen fun _ => tallScreen).view .conOut).SetsBaseMode
        blankPaper before.conOutSize ∧
      after.list .conOut = before.list .conOut ++ [wideScreen] ∧
      ∃ size, Lockstep size (after.view .conOut) ∧
        Chosen before.conOutSize after.conOutSize (after.view .conOut).Offered size := by
  refine lockstep_of_start blankPaper graphicsConsole (80, 25) _ .conOut (fun _ => tallScreen)
    fun member => ?_
  have sound := Driver.sound_constructed graphicsConsole (80, 25)
  rcases Driver.mem_list_steps sound blankPaper member with none | ⟨beyond, started⟩
  · exact absurd none List.not_mem_nil
  · have apart : wideScreen ≠ tallScreen := by decide
    simp [apart] at started

/-- Consoles that are alike stay in lockstep with a side in every run that they can follow, once
they are.  A call keeps them so exactly if they can follow it, and then it succeeds if it is one
for their size. -/
theorem lockstep_of_actions (paper : Paper γ) {textOuts : ι → TextOut γ}
    (alike : ∀ one other : ι, Alike (textOuts one).modes (textOuts other).modes) {side : Side}
    {begun : Driver ι γ} (started : Driver.Begun paper textOuts side begun)
    {actions : List (Action ι)} (followed : begun.Followed paper side actions) :
    let driver := begun.steps paper actions
    ∃ size, Lockstep size (driver.view side) ∧ ∀ call,
      ((∃ other, Lockstep other ((driver.perform paper side call).2.view side)) ↔
        ¬ (driver.view side).Breaks call) ∧
      (¬ (driver.view side).Breaks call →
        ((driver.perform paper side call).1 = .success ↔
          (driver.view side).Accepts size call)) := by
  intro driver
  obtain ⟨sound, size, lockstep⟩ : driver.Sound ∧ ∃ size, Lockstep size (driver.view side) := by
    have running := (started.running alike).steps alike followed
    exact ⟨running.sound, running.lockstep⟩
  refine ⟨size, lockstep, fun call => ⟨?_, fun follows => ?_⟩⟩
  · rw [Driver.view_perform paper sound.distinct]
    exact lockstep.perform_iff call
  · exact (lockstep.perform (safe_of_not_breaks lockstep.right follows)).2

/-- Screens come to both sides and go while both are called. -/
theorem lockstep_of_actions_screens :
    let driver := (Driver.constructed graphicsConsole (80, 25)).steps blankPaper
      [.start .conOut tallScreen fun _ => tallScreen, .start .stdErr lowScreen fun _ => tallScreen,
        .call .conOut (.outputString [0x0041]), .call .stdErr (.outputString [0x0042]),
        .start .conOut wideScreen fun _ => tallScreen, .call .conOut (.setAttribute 0x1F),
        .stop .conOut tallScreen fun _ => tallScreen]
    ∃ size, Lockstep size (driver.view .conOut) ∧ ∀ call,
      ((∃ other, Lockstep other ((driver.perform blankPaper .conOut call).2.view .conOut)) ↔
        ¬ (driver.view .conOut).Breaks call) ∧
      (¬ (driver.view .conOut).Breaks call →
        ((driver.perform blankPaper .conOut call).1 = .success ↔
          (driver.view .conOut).Accepts size call)) := by
  refine lockstep_of_actions blankPaper alike_graphicsConsole (.constructed (80, 25)) ?_
  refine @Driver.Separate.followed _ .conOut _ _ graphicsConsole (80, 25) blankPaper [] _ ⟨?_, ?_⟩
  · intro textOut beyond other first second
    have apart : lowScreen ≠ tallScreen ∧ lowScreen ≠ wideScreen := by decide
    obtain ⟨rfl, -⟩ : textOut = lowScreen ∧ _ := by simpa using second
    simp [apart] at first
  · intro modeNumber allocated
    simp

end Results

/-! ## The cursor of a string -/

section Cursor

variable {γ : Type u} {size : TextSize} {splitter : TextOutSplitter (TextOut γ)}

/-- A string moves the cursor as on a terminal of the size.  Without a console this is so if no
character says how wide the following ones are. -/
theorem cursor_of_outputString (paper : Paper γ) (lockstep : Lockstep size splitter)
    {string : List U16}
    (plain : splitter.textOutList = [] → WIDE_CHAR ∉ string ∧ NARROW_CHAR ∉ string) :
    let after := (splitter.outputString paper string).2
    (after.textOutMode.cursorColumn, after.textOutMode.cursorRow) =
      cursorAfter size (splitter.textOutMode.cursorColumn, splitter.textOutMode.cursorRow)
        string := by
  have set := (@Lockstep.setAttribute _ paper _ _ lockstep splitter.textOutMode.attr).1
  have kept := setAttribute_sameTable paper splitter splitter.textOutMode.attr
  obtain ⟨-, -, data, -⟩ := @callAll_setAttribute _ paper _ _ _ _ lockstep.colors
    fun textOut member => (lockstep.consoles textOut member).toPlaced
  have column := congrArg TextOutMode.cursorColumn data
  have row := congrArg TextOutMode.cursorRow data
  rw [outputString]
  dsimp only at column row ⊢
  generalize (splitter.setAttribute paper splitter.textOutMode.attr).2 = before at *
  obtain ⟨-, consoles⟩ := @callAll_of_forall _ paper before _ _ set.consoles
    (.outputString string) fun _ inStep => inStep.outputString ⟨set.column, set.row⟩ string
  have same := callAll_sameTable paper before fun _ => .outputString string
  rw [← column, ← row]
  split
  · next first rest list =>
      have inStep := consoles first (by rw [list]; exact List.mem_cons_self)
      exact Prod.ext inStep.column inStep.row
  · next list =>
      have none : splitter.textOutList = [] := by
        rw [← List.map_eq_nil_iff, ← kept.list, ← same.list, list]
        rfl
      have offered : (before.callAll paper fun _ => .outputString string).2.queryMode
          (before.callAll paper fun _ => .outputString string).2.textOutMode.mode.toNat =
            some size :=
        (same.queryMode_eq _).trans set.isAt.2
      rw [offered, Option.getD_some]
      exact foldl_moveCursor_eq_cursorAfter ⟨set.column, set.row⟩ (plain none)

/-- A letter, a wide character and a new line on two screens. -/
theorem cursor_of_outputString_screens :
    let driver := (Driver.constructed graphicsConsole (40, 12)).steps blankPaper
      [.start .conOut tallScreen fun _ => tallScreen,
        .start .conOut wideScreen fun _ => tallScreen]
    let splitter := driver.view .conOut
    let string : List U16 := [0x0041, WIDE_CHAR, 0x4E2D, CHAR_LINEFEED]
    let after := (splitter.outputString blankPaper string).2
    driver.list .conOut = [tallScreen, wideScreen] ∧
    (after.textOutMode.cursorColumn, after.textOutMode.cursorRow) =
      cursorAfter (40, 12) (splitter.textOutMode.cursorColumn, splitter.textOutMode.cursorRow)
        string := by
  intro driver splitter string after
  have sound := Driver.sound_constructed graphicsConsole (40, 12)
  have first : tallScreen ∉ (Driver.constructed graphicsConsole (40, 12)).list .conOut :=
    List.not_mem_nil
  obtain ⟨one, base, -⟩ := Driver.start_base blankPaper sound rfl first fun _ => tallScreen
  have second : wideScreen ∉ ((Driver.constructed graphicsConsole (40, 12)).start blankPaper
      .conOut tallScreen fun _ => tallScreen).list .conOut := by
    rw [one]
    decide
  obtain ⟨two, -, lockstep⟩ := Driver.start_base blankPaper
    (sound.step blankPaper (.start .conOut tallScreen fun _ => tallScreen)) base second
    fun _ => tallScreen
  have listed : driver.list .conOut = [tallScreen, wideScreen] :=
    two.trans (congrArg (· ++ [wideScreen]) one)
  refine ⟨listed, cursor_of_outputString blankPaper lockstep fun none => ?_⟩
  have none : (driver.list .conOut).map driver.textOuts = [] := none
  rw [listed] at none
  exact absurd none (List.cons_ne_nil _ _)

end Cursor

end HtcLeo.ConSplitter
