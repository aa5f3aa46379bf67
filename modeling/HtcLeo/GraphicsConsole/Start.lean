import HtcLeo.GraphicsConsole.Calls

/-!
# Starting the graphics console

The driver looks for a mode of the graphics output: the largest one, or the one with the
resolution of the platform, or 800x600, or the one that is set.  It sets that mode, and
makes the text modes for its resolution.
-/

namespace HtcLeo.GraphicsConsole

universe u

/-- The modes that a graphics output reports; a mode that cannot be queried has no
resolution. -/
structure GraphicsModes where
  maxMode : U32
  queryMode : U32 → Option (U32 × U32)

/-- A mode that has been found, and its resolution. -/
structure Choice where
  horizontalResolution : U32
  verticalResolution : U32
  modeNumber : U32
  deriving DecidableEq, Repr

section Search

variable (outside : Outside) (modes : GraphicsModes)

/-- The resolution of the graphics output is this one. -/
def GraphicsOutput.HasResolution (graphicsOutput : GraphicsOutput)
    (horizontalResolution verticalResolution : U32) : Prop :=
  graphicsOutput.width = horizontalResolution.toNat ∧
    graphicsOutput.height = verticalResolution.toNat

instance (graphicsOutput : GraphicsOutput) (horizontalResolution verticalResolution : U32) :
    Decidable (graphicsOutput.HasResolution horizontalResolution verticalResolution) :=
  inferInstanceAs (Decidable (_ ∧ _))

/-- The loop of `CheckModeSupported`, with the number of modes that are left and the next
one. -/
def checkModes (horizontalResolution verticalResolution : U32) :
    Nat → U32 → GraphicsOutput → Option U32 × GraphicsOutput
  | 0, _, graphicsOutput => (none, graphicsOutput)
  | left + 1, modeNumber, graphicsOutput =>
      if modes.queryMode modeNumber = some (horizontalResolution, verticalResolution) then
        if graphicsOutput.HasResolution horizontalResolution verticalResolution then
          (some modeNumber, graphicsOutput)
        else
          match graphicsOutput.setMode outside modeNumber with
          | some set => (some modeNumber, set)
          | none =>
              checkModes horizontalResolution verticalResolution left (modeNumber + 1)
                graphicsOutput
      else
        checkModes horizontalResolution verticalResolution left (modeNumber + 1) graphicsOutput

/-- A mode with a resolution, which is set if the graphics output has another one. -/
def checkModeSupported (horizontalResolution verticalResolution : U32)
    (graphicsOutput : GraphicsOutput) : Option U32 × GraphicsOutput :=
  checkModes outside modes horizontalResolution verticalResolution modes.maxMode.toNat 0
    graphicsOutput

/-- One round of the loop that looks for the highest resolution. -/
def higherMode (best : Choice) (modeNumber : U32) : Choice :=
  match modes.queryMode modeNumber with
  | none => best
  | some (horizontalResolution, verticalResolution) =>
      if best.horizontalResolution < horizontalResolution ∨
          horizontalResolution = best.horizontalResolution ∧
            best.verticalResolution < verticalResolution then
        ⟨horizontalResolution, verticalResolution, modeNumber⟩
      else best

/-- The mode numbers of the graphics output. -/
def modeNumbers : List U32 :=
  (List.range modes.maxMode.toNat).map (BitVec.ofNat 32)

/-- The mode for the resolution of the platform, where 0 stands for no resolution. -/
def chooseMode (horizontalResolution verticalResolution : U32) (graphicsOutput : GraphicsOutput) :
    Option (Choice × GraphicsOutput) :=
  if horizontalResolution = 0 ∨ verticalResolution = 0 then
    let best := (modeNumbers modes).foldl (higherMode modes)
      ⟨horizontalResolution, verticalResolution, 0⟩
    if best.horizontalResolution = 0 ∨ best.verticalResolution = 0 then none
    else some (best, graphicsOutput)
  else
    match checkModeSupported outside modes horizontalResolution verticalResolution
      graphicsOutput with
    | (some modeNumber, found) =>
        some (⟨horizontalResolution, verticalResolution, modeNumber⟩, found)
    | (none, graphicsOutput) =>
        match checkModeSupported outside modes 800 600 graphicsOutput with
        | (some modeNumber, found) => some (⟨800, 600, modeNumber⟩, found)
        | (none, graphicsOutput) =>
            if modes.maxMode ≠ 0 then
              some (⟨BitVec.ofNat 32 graphicsOutput.width, BitVec.ofNat 32 graphicsOutput.height,
                graphicsOutput.mode⟩, graphicsOutput)
            else some (⟨800, 600, modes.maxMode⟩, graphicsOutput)

/-- `GraphicsConsoleControllerDriverStart`, up to the protocol that it installs. -/
def start (horizontalResolution verticalResolution : U32) (graphicsOutput : GraphicsOutput) :
    Option GraphicsConsoleDev :=
  (chooseMode outside modes horizontalResolution verticalResolution graphicsOutput).bind
    fun (choice, graphicsOutput) =>
      (if choice.modeNumber ≠ graphicsOutput.mode then
        graphicsOutput.setMode outside choice.modeNumber
      else some graphicsOutput).map fun graphicsOutput =>
        .started graphicsOutput choice.horizontalResolution choice.verticalResolution

end Search

/-! ## The text modes are made for the mode that is set -/

/-- The graphics output is in one of its modes. -/
structure Coherent (modes : GraphicsModes) (graphicsOutput : GraphicsOutput) : Prop where
  some_mode : modes.maxMode ≠ 0
  resolution : ∃ horizontalResolution verticalResolution,
    modes.queryMode graphicsOutput.mode = some (horizontalResolution, verticalResolution) ∧
      graphicsOutput.HasResolution horizontalResolution verticalResolution

/-- A mode that is set has the resolution that is reported for it. -/
def SetsModes (outside : Outside) (modes : GraphicsModes) : Prop :=
  ∀ modeNumber resolution, outside.setMode modeNumber = some resolution →
    ∃ horizontalResolution verticalResolution,
      modes.queryMode modeNumber = some (horizontalResolution, verticalResolution) ∧
        resolution = (horizontalResolution.toNat, verticalResolution.toNat)

/-- A choice is a mode of the graphics output, which is in one of its modes. -/
structure Choice.Offered (modes : GraphicsModes) (choice : Choice)
    (graphicsOutput : GraphicsOutput) : Prop where
  coherent : Coherent modes graphicsOutput
  resolution : modes.queryMode choice.modeNumber =
    some (choice.horizontalResolution, choice.verticalResolution)

section Start

variable {outside : Outside} {modes : GraphicsModes} {graphicsOutput after : GraphicsOutput}
  {horizontalResolution verticalResolution modeNumber : U32} {choice best : Choice}
  {device : GraphicsConsoleDev}

theorem Coherent.setMode (sets : SetsModes outside modes) (coherent : Coherent modes graphicsOutput)
    (set : graphicsOutput.setMode outside modeNumber = some after) :
    Coherent modes after ∧ after.mode = modeNumber := by
  obtain ⟨resolution, succeeded, rfl⟩ := Option.map_eq_some_iff.mp set
  obtain ⟨horizontal, vertical, reported, rfl⟩ := sets modeNumber resolution succeeded
  exact ⟨⟨coherent.some_mode, horizontal, vertical, reported, rfl, rfl⟩, rfl⟩

theorem Coherent.checkModes (sets : SetsModes outside modes)
    (coherent : Coherent modes graphicsOutput)
    (horizontalResolution verticalResolution : U32) (left : Nat) (next : U32) :
    Coherent modes
        (checkModes outside modes horizontalResolution verticalResolution left next
          graphicsOutput).2 ∧
      ∀ found ∈ (GraphicsConsole.checkModes outside modes horizontalResolution verticalResolution
          left next graphicsOutput).1,
        modes.queryMode found = some (horizontalResolution, verticalResolution) := by
  induction left generalizing next with
  | zero => exact ⟨coherent, fun _ none => nomatch none⟩
  | succ left ih =>
      rw [GraphicsConsole.checkModes]
      split
      · next reported =>
          split
          · exact ⟨coherent, fun found same => Option.some.inj same ▸ reported⟩
          · split
            · next set =>
                exact ⟨(coherent.setMode sets set).1,
                  fun found same => Option.some.inj same ▸ reported⟩
            · exact ih (next + 1)
      · exact ih (next + 1)

/-- The best mode that was found is the one to begin with, or a mode that is reported. -/
theorem foldl_higherMode (modes : GraphicsModes) (best : Choice) (numbers : List U32) :
    numbers.foldl (higherMode modes) best = best ∨
      modes.queryMode (numbers.foldl (higherMode modes) best).modeNumber =
        some ((numbers.foldl (higherMode modes) best).horizontalResolution,
          (numbers.foldl (higherMode modes) best).verticalResolution) := by
  induction numbers generalizing best with
  | nil => exact .inl rfl
  | cons number rest ih =>
      rw [List.foldl_cons]
      rcases ih (higherMode modes best number) with unchanged | reported
      · rw [unchanged, higherMode]
        split
        · exact .inl rfl
        · next horizontal vertical reported =>
            split
            · exact .inr reported
            · exact .inl rfl
      · exact .inr reported

theorem chooseMode_offered (sets : SetsModes outside modes)
    (coherent : Coherent modes graphicsOutput)
    (chosen : chooseMode outside modes horizontalResolution verticalResolution graphicsOutput =
      some (choice, after)) :
    choice.Offered modes after := by
  rw [chooseMode] at chosen
  split at chosen
  · next unknown =>
      simp only at chosen
      split at chosen
      · exact nomatch chosen
      · next nonzero =>
          obtain ⟨rfl, rfl⟩ := Prod.mk.inj (Option.some.inj chosen)
          refine ⟨coherent, ?_⟩
          rcases foldl_higherMode modes ⟨horizontalResolution, verticalResolution, 0⟩
            (modeNumbers modes) with unchanged | reported
          · rw [unchanged] at nonzero
            exact absurd unknown nonzero
          · exact reported
  · have first :=
      coherent.checkModes sets horizontalResolution verticalResolution modes.maxMode.toNat 0
    rw [checkModeSupported] at chosen
    split at chosen
    · next found result =>
        rw [result] at first
        obtain ⟨rfl, rfl⟩ := Prod.mk.inj (Option.some.inj chosen)
        exact ⟨first.1, first.2 _ rfl⟩
    · next missing =>
        rw [missing] at first
        have second := first.1.checkModes sets 800 600 modes.maxMode.toNat 0
        rw [checkModeSupported] at chosen
        split at chosen
        · next found result =>
            rw [result] at second
            obtain ⟨rfl, rfl⟩ := Prod.mk.inj (Option.some.inj chosen)
            exact ⟨second.1, second.2 _ rfl⟩
        · next current missing =>
            rw [missing] at second
            rw [if_pos coherent.some_mode] at chosen
            obtain ⟨rfl, rfl⟩ := Prod.mk.inj (Option.some.inj chosen)
            have coherent : Coherent modes current := second.1
            obtain ⟨horizontal, vertical, reported, width, height⟩ := coherent.resolution
            refine ⟨coherent, ?_⟩
            simp only [width, height, BitVec.ofNat_toNat, BitVec.setWidth_eq]
            exact reported

/-- The text modes are made for the mode of the graphics output that is set. -/
theorem start_resolution (sets : SetsModes outside modes)
    (coherent : Coherent modes graphicsOutput)
    (started : start outside modes horizontalResolution verticalResolution graphicsOutput =
      some device) :
    ∃ horizontal vertical,
      modes.queryMode device.graphicsOutput.mode = some (horizontal, vertical) ∧
        device.graphicsOutput.HasResolution horizontal vertical ∧
        device = .started device.graphicsOutput horizontal vertical := by
  obtain ⟨⟨choice, found⟩, chosen, later⟩ := Option.bind_eq_some_iff.mp started
  obtain ⟨after, set, rfl⟩ := Option.map_eq_some_iff.mp later
  obtain ⟨coherent, resolution⟩ := chooseMode_offered sets coherent chosen
  have settled : Coherent modes after ∧ after.mode = choice.modeNumber := by
    split at set
    · exact coherent.setMode sets set
    · next same =>
        obtain rfl := Option.some.inj set
        exact ⟨coherent, (not_not.mp same).symm⟩
  obtain ⟨horizontal, vertical, reported, has⟩ := settled.1.resolution
  have same := reported
  rw [settled.2, resolution] at same
  obtain ⟨rfl, rfl⟩ := Prod.mk.inj (Option.some.inj same)
  exact ⟨_, _, reported, has, rfl⟩

/-- Every mode of a table has its resolution and number, and more than one column. -/
theorem forall_mem_table (horizontalResolution verticalResolution gopModeNumber : U32)
    (columns : horizontalResolution.toNat / 8 ≠ 1) :
    ∀ mode ∈ initializeGraphicsConsoleTextMode horizontalResolution verticalResolution
        gopModeNumber,
      (mode.gopModeNumber = gopModeNumber ∧ mode.gopWidth = horizontalResolution ∧
          mode.gopHeight = verticalResolution) ∧
        (mode.columns = 0 ∧ mode.rows = 0 ∨ 2 ≤ mode.columns.toNat ∧ 0 < mode.rows.toNat) := by
  apply forall_mem_foldl_addMode
  · simp only [reservedModes, List.forall_mem_cons]
    have first : 2 ≤ (40 : U32).toNat ∧ 0 < (12 : U32).toNat := by decide
    have second : 2 ≤ (80 : U32).toNat ∧ 0 < (50 : U32).toNat := by decide
    refine ⟨⟨⟨rfl, rfl, rfl⟩, .inr first⟩, ?_, fun _ member => absurd member List.not_mem_nil⟩
    split
    · exact ⟨⟨rfl, rfl, rfl⟩, .inr second⟩
    · exact ⟨⟨rfl, rfl, rfl⟩, .inl ⟨rfl, rfl⟩⟩
  · intro mode member someColumns someRows _ _
    refine ⟨⟨rfl, rfl, rfl⟩, .inr ?_⟩
    simp only [mGraphicsConsoleModeData, List.mem_cons, List.not_mem_nil, or_false] at member
    rcases member with rfl | rfl | rfl
    · exact (by decide : 2 ≤ (100 : U32).toNat ∧ 0 < (31 : U32).toNat)
    · exact (by decide : 2 ≤ (40 : U32).toNat ∧ 0 < (12 : U32).toNat)
    · have across : (horizontalResolution / EFI_GLYPH_WIDTH).toNat ≠ 0 :=
        fun zero => someColumns (BitVec.eq_of_toNat_eq zero)
      have down : (verticalResolution / EFI_GLYPH_HEIGHT).toNat ≠ 0 :=
        fun zero => someRows (BitVec.eq_of_toNat_eq zero)
      rw [toNat_div_glyphWidth] at across
      simp only [centredMode, toNat_div_glyphWidth]
      omega

/-- A table that was made for the screen suits it, if the screen has no single column. -/
theorem suits_started (has : graphicsOutput.HasResolution horizontalResolution verticalResolution)
    (columns : graphicsOutput.width / 8 ≠ 1) :
    Suits graphicsOutput
      (initializeGraphicsConsoleTextMode horizontalResolution verticalResolution
        graphicsOutput.mode) := by
  rw [has.1] at columns
  have table :=
    forall_mem_table horizontalResolution verticalResolution graphicsOutput.mode columns
  refine ⟨fun mode member => (table mode member).1.1, fun mode member => ?_,
    fun mode member => (table mode member).2⟩
  obtain ⟨⟨-, width, height⟩, -⟩ := table mode member
  rw [GraphicsOutput.screen, has.1, has.2, width, height]

end Start

/-! ## The frame buffer of the platform -/

/-- `DisplayQueryMode`: there is one mode, but every number is answered for. -/
def simpleFbModes : GraphicsModes where
  maxMode := 1
  queryMode _ := some (480, 800)

/-- `DisplaySetMode` always succeeds. -/
def simpleFbSetMode (_ : U32) : Option (Nat × Nat) :=
  some (480, 800)

/-- The simple frame buffer, 480 by 800 pixels. -/
def simpleFb : GraphicsOutput :=
  ⟨0, 480, 800, fun _ _ => 0⟩

theorem simpleFb_sets
    {stringToImage : U16 → U16 → List U16 → U32 → U32 → Nat → Nat → (Nat → Nat → U32) →
      EfiStatus × (Nat → Nat → U32)} :
    SetsModes ⟨stringToImage, simpleFbSetMode⟩ simpleFbModes := by
  intro modeNumber resolution set
  obtain rfl := Option.some.inj set
  exact ⟨480, 800, rfl, rfl⟩

theorem simpleFb_coherent : Coherent simpleFbModes simpleFb :=
  ⟨(by decide : (1 : U32) ≠ 0), 480, 800, rfl, rfl, rfl⟩

/-- The platform asks for the mode that there is. -/
theorem start_simpleFb (outside : Outside) :
    start outside simpleFbModes 480 800 simpleFb = some (.started simpleFb 480 800) :=
  rfl

/-! ## Runs of a console that was started -/

section Runs

variable {γ : Type u} {outside : Outside} {graphicsOutput : GraphicsOutput}
  {table : List GraphicsConsoleModeData} {paper : Paper γ}
  {shows : GraphicsConsoleModeData → (Nat → Nat → U32) → γ → Prop}
  {drawable : Bool → U16 → Prop} {quiet : Prop} {device : GraphicsConsoleDev}
  {console : Console γ}

/-- The console of a device that has been started. -/
def Console.started (page : γ) : Console γ where
  mode := none
  attr := 0x07
  visible := true
  terminal := ⟨page, 0, 0⟩

theorem follows_started (horizontalResolution verticalResolution : U32) (page : γ) :
    Follows graphicsOutput
      (initializeGraphicsConsoleTextMode horizontalResolution verticalResolution
        graphicsOutput.mode) shows true
      (.started graphicsOutput horizontalResolution verticalResolution) (.started page) where
  modes := rfl
  number := rfl
  screen := rfl
  mode := rfl
  lineBuffer := rfl
  attr := rfl
  colors := (by decide : (0x07 : U32) ||| 0x7F = 0x7F)
  visible := rfl
  page _ set := nomatch set

/-- A mode that is set stays set, though it may become another one. -/
theorem Console.isSome_step (set : console.mode.isSome) (call : Call) :
    (console.step table paper call).2.mode.isSome := by
  have kept (modeNumber : Nat) : (console.setMode table paper modeNumber).2.mode.isSome := by
    rw [Console.setMode]
    repeat' split
    · exact set
    · exact set
    · exact set
    · rfl
  cases call with
  | reset allocated =>
      simp only [step]
      split
      · exact kept 0
      · rw [setAttribute]
        split
        · exact kept 0
        · exact kept 0
  | outputString string =>
      simp only [step, outputString]
      split <;> exact set
  | setMode modeNumber allocated => exact kept modeNumber
  | setAttribute attr =>
      simp only [step, setAttribute]
      split <;> exact set
  | clearScreen =>
      simp only [step]
      split <;> exact set
  | setCursorPosition column row =>
      simp only [step]
      repeat' split
      all_goals exact set
  | enableCursor visible =>
      simp only [step]
      split <;> exact set

theorem Console.isSome_steps (set : console.mode.isSome) (calls : List Call) :
    (console.steps table paper calls).2.mode.isSome := by
  induction calls generalizing console with
  | nil => exact set
  | cons call rest ih => exact ih (isSome_step set call)

theorem Console.isSome_of_success {modeNumber : Nat}
    (success : (console.setMode table paper modeNumber).1 = .success) :
    (console.setMode table paper modeNumber).2.mode.isSome := by
  rw [Console.setMode] at success ⊢
  revert success
  repeat' split
  · intro failed
    cases failed
  · intro failed
    cases failed
  · next same =>
      intro _
      simp only [clear, same, Option.isSome_some]
  · exact fun _ => rfl

/-- A console that is started follows the one without pixels once a mode is set. -/
theorem runs_of_started {modes : GraphicsModes} {horizontalResolution verticalResolution : U32}
    {calls : List Call} {modeNumber : Nat} (sets : SetsModes outside modes)
    (coherent : Coherent modes graphicsOutput)
    (started : start outside modes horizontalResolution verticalResolution graphicsOutput =
      some device)
    (columns : device.graphicsOutput.width / 8 ≠ 1)
    (presents : Presents outside device.graphicsOutput device.modeData paper shows drawable quiet)
    (page : γ) (set : (device.setMode outside true modeNumber).1 = .success)
    (allowed : ∀ call ∈ calls, call.Allowed drawable) :
    ∃ statuses after,
      device.performAll outside (.setMode modeNumber true :: calls) = some (statuses, after) ∧
        (let ended := (Console.started page).steps device.modeData paper
          (.setMode modeNumber true :: calls)
        Follows device.graphicsOutput device.modeData shows true after ended.2 ∧
          ended.2.mode.isSome ∧ (quiet → statuses = ended.1)) := by
  obtain ⟨horizontal, vertical, -, has, is_started⟩ := start_resolution sets coherent started
  have suits : Suits device.graphicsOutput device.modeData := by
    rw [is_started]
    exact suits_started has columns
  have follows : Follows device.graphicsOutput device.modeData shows true device
      (Console.started page) := by
    rw [is_started]
    exact follows_started horizontal vertical page
  have first : Call.Allowed drawable (.setMode modeNumber true) := rfl
  obtain ⟨statuses, after, returned, later, calm⟩ :=
    follows.steps suits presents (List.forall_mem_cons.mpr ⟨first, allowed⟩)
  refine ⟨statuses, after, returned, later, ?_, calm⟩
  rw [(follows.setMode suits presents modeNumber).1] at set
  exact Console.isSome_steps (Console.isSome_of_success set) calls

end Runs

end HtcLeo.GraphicsConsole
