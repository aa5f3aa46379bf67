import HtcLeo.ConSplitter.Coherent
import HtcLeo.GraphicsConsole.Modes

/-!
# Graphics consoles

What a graphics console reports of its modes is what the splitter expects, for every
resolution of the screen.
-/

namespace HtcLeo.ConSplitter

open HtcLeo.GraphicsConsole

/-- What `GraphicsConsoleConOutQueryMode` reports of a mode. -/
def reportedMode (mode : GraphicsConsoleModeData) : Option TextSize :=
  if mode.columns = 0 ∨ mode.rows = 0 then none
  else some (mode.columns.toNat, mode.rows.toNat)

/-- What a graphics console reports of its table. -/
def reportedModes (horizontalResolution verticalResolution gopModeNumber : U32) :
    List (Option TextSize) :=
  (initializeGraphicsConsoleTextMode horizontalResolution verticalResolution gopModeNumber).map
    reportedMode

section Graphics

variable {horizontalResolution verticalResolution gopModeNumber : U32}

/-- The loop adds modes that can be used. -/
theorem exists_foldl_addMode (sizes : List (U32 × U32)) (valid : List GraphicsConsoleModeData) :
    ∃ added : List GraphicsConsoleModeData,
      sizes.foldl (addMode horizontalResolution verticalResolution gopModeNumber) valid =
          valid ++ added ∧ ∀ mode ∈ added, mode.Usable := by
  induction sizes generalizing valid with
  | nil => exact ⟨[], (List.append_nil valid).symm, fun _ member => absurd member List.not_mem_nil⟩
  | cons size rest ih =>
      rw [List.foldl_cons]
      rcases addMode_cases valid size with ⟨same, -⟩ | ⟨added, columns, rows, -⟩
      · rw [same]
        exact ih valid
      · rw [added]
        obtain ⟨others, whole, usable⟩ := ih (valid ++
          [centredMode horizontalResolution verticalResolution gopModeNumber size.1 size.2])
        refine ⟨_, by rw [whole, List.append_assoc], ?_⟩
        rw [List.forall_mem_append, List.forall_mem_singleton]
        exact ⟨⟨columns, rows⟩, usable⟩

theorem reportedMode_of_usable {mode : GraphicsConsoleModeData} (usable : mode.Usable) :
    ∃ size, reportedMode mode = some size ∧ size ≠ (0, 0) := by
  refine ⟨_, if_neg (not_or.mpr usable), fun zero => usable.1 ?_⟩
  exact BitVec.eq_of_toNat_eq (congrArg Prod.fst zero)

variable (horizontalResolution verticalResolution gopModeNumber)

theorem reservedModes_eq : ∃ second,
    (reportedMode second = none ∨ reportedMode second = some (80, 50)) ∧
      reservedModes horizontalResolution verticalResolution gopModeNumber =
        [centredMode horizontalResolution verticalResolution gopModeNumber 40 12, second] := by
  refine ⟨_, ?_, rfl⟩
  split
  · exact .inr rfl
  · exact .inl rfl

theorem reportedModes_eq : ∃ second added,
    (second = none ∨ second = some (80, 50)) ∧
      (∀ reported ∈ added, ∃ size, reported = some size ∧ size ≠ (0, 0)) ∧
      reportedModes horizontalResolution verticalResolution gopModeNumber =
        some (40, 12) :: second :: added := by
  obtain ⟨second, either, reserved⟩ :=
    reservedModes_eq horizontalResolution verticalResolution gopModeNumber
  obtain ⟨added, whole, usable⟩ :=
    @exists_foldl_addMode horizontalResolution verticalResolution gopModeNumber
      (mGraphicsConsoleModeData (horizontalResolution / EFI_GLYPH_WIDTH)
        (verticalResolution / EFI_GLYPH_HEIGHT))
      (reservedModes horizontalResolution verticalResolution gopModeNumber)
  refine ⟨reportedMode second, added.map reportedMode, either, ?_, ?_⟩
  · intro reported member
    obtain ⟨mode, inside, rfl⟩ := List.mem_map.mp member
    exact reportedMode_of_usable (usable mode inside)
  · rw [reportedModes, initializeGraphicsConsoleTextMode, whole, reserved]
    rfl

/-- The modes of every graphics console are as the splitter expects them. -/
theorem conventional_graphics : Conventional
    (reportedModes horizontalResolution verticalResolution gopModeNumber) := by
  obtain ⟨second, added, either, known, whole⟩ :=
    reportedModes_eq horizontalResolution verticalResolution gopModeNumber
  rw [whole]
  constructor
  · rfl
  · rcases either with rfl | rfl
    · exact .inl rfl
    · exact .inr rfl
  · intro mode high missing
    obtain ⟨mode, rfl⟩ := Nat.exists_eq_add_of_le high
    rw [Nat.add_comm] at missing
    obtain ⟨size, found, -⟩ := known none (List.mem_of_getElem? missing)
    cases found
  · intro size member
    rcases List.mem_cons.mp member with first | later
    · obtain rfl := Option.some.inj first
      decide
    · rcases List.mem_cons.mp later with same | other
      · rcases either with rfl | rfl
        · cases same
        · obtain rfl := Option.some.inj same
          decide
      · obtain ⟨known, same, proper⟩ := known _ other
        obtain rfl := Option.some.inj same
        exact proper

theorem size_of_reportedMode {mode : GraphicsConsoleModeData} {size : TextSize}
    (known : reportedMode mode = some size) :
    mode.columns.toNat = size.1 ∧ mode.rows.toNat = size.2 := by
  rw [reportedMode] at known
  split at known
  · cases known
  · obtain rfl := Option.some.inj known
    exact ⟨rfl, rfl⟩

/-- They have different sizes. -/
theorem distinct_graphics : DistinctSizes
    (reportedModes horizontalResolution verticalResolution gopModeNumber) := by
  have distinct : (initializeGraphicsConsoleTextMode horizontalResolution verticalResolution
      gopModeNumber).Pairwise fun one two => ¬ (one.columns = two.columns ∧ one.rows = two.rows) :=
    (distinct_reservedModes _ _ _).foldl_addMode
  rw [List.pairwise_iff_getElem] at distinct
  intro mode other size known same
  rw [reportedModes, List.getElem?_map, Option.map_eq_some_iff] at known same
  obtain ⟨first, listed, reported⟩ := known
  obtain ⟨second, other_listed, also⟩ := same
  obtain ⟨inside, rfl⟩ := List.getElem?_eq_some_iff.mp listed
  obtain ⟨other_inside, rfl⟩ := List.getElem?_eq_some_iff.mp other_listed
  obtain ⟨columns, rows⟩ := size_of_reportedMode reported
  obtain ⟨other_columns, other_rows⟩ := size_of_reportedMode also
  rcases Nat.lt_trichotomy mode other with before | equal | after
  · refine absurd ⟨?_, ?_⟩ (distinct mode other inside other_inside before)
    · exact BitVec.eq_of_toNat_eq (columns.trans other_columns.symm)
    · exact BitVec.eq_of_toNat_eq (rows.trans other_rows.symm)
  · exact equal
  · refine absurd ⟨?_, ?_⟩ (distinct other mode other_inside inside after)
    · exact BitVec.eq_of_toNat_eq (other_columns.trans columns.symm)
    · exact BitVec.eq_of_toNat_eq (other_rows.trans rows.symm)

end Graphics

end HtcLeo.ConSplitter
