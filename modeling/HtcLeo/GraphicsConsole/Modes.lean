import Mathlib.Data.List.Pairwise
import HtcLeo.Word.Flags

/-!
# The text modes of the graphics console

The console makes a table of text modes for the resolution of the screen.  The first two
places are reserved, the others are taken by the modes of a list that fit and are new; the
last of the list is the full screen.
-/

namespace HtcLeo.GraphicsConsole

def EFI_GLYPH_WIDTH : U32 := 8
def EFI_GLYPH_HEIGHT : U32 := 19

/-- `GRAPHICS_CONSOLE_MODE_DATA`. -/
structure GraphicsConsoleModeData where
  columns : U32
  rows : U32
  deltaX : U32
  deltaY : U32
  gopWidth : U32
  gopHeight : U32
  gopModeNumber : U32
  deriving DecidableEq, Repr

/-- The columns and rows of `mGraphicsConsoleModeData`, with the full screen as the last. -/
def mGraphicsConsoleModeData (maxColumns maxRows : U32) : List (U32 × U32) :=
  [(100, 31), (40, 12), (maxColumns, maxRows)]

section Table

variable (horizontalResolution verticalResolution gopModeNumber : U32)

/-- A mode in the middle of the screen. -/
def centredMode (columns rows : U32) : GraphicsConsoleModeData :=
  { columns, rows
    deltaX := (horizontalResolution - columns * EFI_GLYPH_WIDTH) >>> 1
    deltaY := (verticalResolution - rows * EFI_GLYPH_HEIGHT) >>> 1
    gopWidth := horizontalResolution
    gopHeight := verticalResolution
    gopModeNumber }

/-- An entry that keeps the zeros it was allocated with. -/
def emptyMode : GraphicsConsoleModeData :=
  ⟨0, 0, 0, 0, horizontalResolution, verticalResolution, gopModeNumber⟩

/-- One round of the loop over `mGraphicsConsoleModeData`. -/
def addMode (valid : List GraphicsConsoleModeData) (mode : U32 × U32) :
    List GraphicsConsoleModeData :=
  if mode.1 = 0 ∨ mode.2 = 0 ∨ horizontalResolution / EFI_GLYPH_WIDTH < mode.1 ∨
      verticalResolution / EFI_GLYPH_HEIGHT < mode.2 then valid
  else if valid.any fun other => mode.1 == other.columns && mode.2 == other.rows then valid
  else valid ++ [centredMode horizontalResolution verticalResolution gopModeNumber mode.1 mode.2]

/-- Places 0 and 1, which UEFI wants to be 80x25 and 80x50. -/
def reservedModes : List GraphicsConsoleModeData :=
  [centredMode horizontalResolution verticalResolution gopModeNumber 40 12,
    if 80 ≤ horizontalResolution / EFI_GLYPH_WIDTH ∧ 50 ≤ verticalResolution / EFI_GLYPH_HEIGHT then
      centredMode horizontalResolution verticalResolution gopModeNumber 80 50
    else emptyMode horizontalResolution verticalResolution gopModeNumber]

/-- `InitializeGraphicsConsoleTextMode`. -/
def initializeGraphicsConsoleTextMode : List GraphicsConsoleModeData :=
  (mGraphicsConsoleModeData (horizontalResolution / EFI_GLYPH_WIDTH)
    (verticalResolution / EFI_GLYPH_HEIGHT)).foldl
      (addMode horizontalResolution verticalResolution gopModeNumber)
      (reservedModes horizontalResolution verticalResolution gopModeNumber)

end Table

/-! ## What is in the table -/

/-- The entry is a text mode, and not the empty place of 80x50. -/
def GraphicsConsoleModeData.Usable (mode : GraphicsConsoleModeData) : Prop :=
  mode.columns ≠ 0 ∧ mode.rows ≠ 0

/-- The text is on the screen, and the margins on both sides differ by a pixel at most. -/
structure GraphicsConsoleModeData.Centred (mode : GraphicsConsoleModeData)
    (horizontalResolution verticalResolution : U32) : Prop where
  right : 2 * mode.deltaX.toNat + mode.columns.toNat * 8 ≤ horizontalResolution.toNat
  left : horizontalResolution.toNat ≤ 2 * mode.deltaX.toNat + mode.columns.toNat * 8 + 1
  bottom : 2 * mode.deltaY.toNat + mode.rows.toNat * 19 ≤ verticalResolution.toNat
  top : verticalResolution.toNat ≤ 2 * mode.deltaY.toNat + mode.rows.toNat * 19 + 1

section Table

variable {horizontalResolution verticalResolution gopModeNumber : U32}
  {valid : List GraphicsConsoleModeData} {modes : List (U32 × U32)}

/-- What a round keeps: it leaves the table alone, or adds a mode of the list that fits and
is new. -/
theorem addMode_cases (valid : List GraphicsConsoleModeData) (mode : U32 × U32) :
    addMode horizontalResolution verticalResolution gopModeNumber valid mode = valid ∧
        (mode.1 ≠ 0 → mode.2 ≠ 0 → mode.1 ≤ horizontalResolution / EFI_GLYPH_WIDTH →
          mode.2 ≤ verticalResolution / EFI_GLYPH_HEIGHT →
          ∃ other ∈ valid, other.columns = mode.1 ∧ other.rows = mode.2) ∨
      addMode horizontalResolution verticalResolution gopModeNumber valid mode =
          valid ++
            [centredMode horizontalResolution verticalResolution gopModeNumber mode.1 mode.2] ∧
        mode.1 ≠ 0 ∧ mode.2 ≠ 0 ∧ mode.1 ≤ horizontalResolution / EFI_GLYPH_WIDTH ∧
        mode.2 ≤ verticalResolution / EFI_GLYPH_HEIGHT ∧
        ∀ other ∈ valid, ¬ (other.columns = mode.1 ∧ other.rows = mode.2) := by
  rw [addMode]
  split
  · next skipped =>
      refine .inl ⟨rfl, fun columns rows fitsColumns fitsRows => ?_⟩
      rcases skipped with zero | zero | large | large
      · exact absurd zero columns
      · exact absurd zero rows
      · exact absurd large (BitVec.not_lt.mpr fitsColumns)
      · exact absurd large (BitVec.not_lt.mpr fitsRows)
  · next fits =>
      rw [not_or, not_or, not_or, BitVec.not_lt, BitVec.not_lt] at fits
      obtain ⟨columns, rows, fitsColumns, fitsRows⟩ := fits
      split
      · next known =>
          refine .inl ⟨rfl, fun _ _ _ _ => ?_⟩
          obtain ⟨other, member, same⟩ := List.any_eq_true.mp known
          rw [Bool.and_eq_true, beq_iff_eq, beq_iff_eq] at same
          exact ⟨other, member, same.1.symm, same.2.symm⟩
      · next new =>
          refine .inr ⟨rfl, columns, rows, fitsColumns, fitsRows, fun other member same => new ?_⟩
          rw [List.any_eq_true]
          exact ⟨other, member, by rw [same.1, same.2, beq_self_eq_true, beq_self_eq_true]; rfl⟩

theorem subset_addMode (valid : List GraphicsConsoleModeData) (mode : U32 × U32) :
    valid ⊆ addMode horizontalResolution verticalResolution gopModeNumber valid mode := by
  rcases addMode_cases valid mode with ⟨unchanged, -⟩ | ⟨added, -⟩
  · rw [unchanged]
    exact List.Subset.refl valid
  · rw [added]
    exact List.subset_append_left _ _

theorem subset_foldl_addMode : valid ⊆
    modes.foldl (addMode horizontalResolution verticalResolution gopModeNumber) valid := by
  induction modes generalizing valid with
  | nil => exact List.Subset.refl valid
  | cons mode rest ih => exact List.Subset.trans (subset_addMode valid mode) ih

/-- What holds of the first entries and of every mode that fits holds of the table. -/
theorem forall_mem_foldl_addMode {good : GraphicsConsoleModeData → Prop}
    (first : ∀ mode ∈ valid, good mode)
    (fitting : ∀ mode ∈ modes, mode.1 ≠ 0 → mode.2 ≠ 0 →
      mode.1 ≤ horizontalResolution / EFI_GLYPH_WIDTH →
      mode.2 ≤ verticalResolution / EFI_GLYPH_HEIGHT →
      good (centredMode horizontalResolution verticalResolution gopModeNumber mode.1 mode.2)) :
    ∀ mode ∈ modes.foldl (addMode horizontalResolution verticalResolution gopModeNumber) valid,
      good mode := by
  induction modes generalizing valid with
  | nil => exact first
  | cons mode rest ih =>
      rw [List.forall_mem_cons] at fitting
      refine ih ?_ fitting.2
      rcases addMode_cases valid mode with ⟨unchanged, -⟩ | ⟨added, columns, rows, fits⟩
      · rw [unchanged]
        exact first
      · rw [added, List.forall_mem_append, List.forall_mem_singleton]
        exact ⟨first, fitting.1 columns rows fits.1 fits.2.1⟩

/-- No two entries have the same size. -/
def Distinct (valid : List GraphicsConsoleModeData) : Prop :=
  valid.Pairwise fun one two => ¬ (one.columns = two.columns ∧ one.rows = two.rows)

theorem Distinct.addMode (distinct : Distinct valid) (mode : U32 × U32) :
    Distinct (addMode horizontalResolution verticalResolution gopModeNumber valid mode) := by
  rcases addMode_cases valid mode with ⟨unchanged, -⟩ | ⟨added, -, -, -, -, new⟩
  · rw [unchanged]
    exact distinct
  · rw [added, Distinct, List.pairwise_append]
    refine ⟨distinct, List.pairwise_singleton _ _, fun one member two last => ?_⟩
    rw [List.mem_singleton.mp last]
    exact new one member

theorem Distinct.foldl_addMode (distinct : Distinct valid) :
    Distinct (modes.foldl (GraphicsConsole.addMode horizontalResolution verticalResolution
      gopModeNumber) valid) := by
  induction modes generalizing valid with
  | nil => exact distinct
  | cons mode rest ih => exact ih (distinct.addMode mode)

/-- A mode of the list that fits is in the table. -/
theorem exists_mem_foldl_addMode {mode : U32 × U32} (member : mode ∈ modes)
    (columns : mode.1 ≠ 0) (rows : mode.2 ≠ 0)
    (fitsColumns : mode.1 ≤ horizontalResolution / EFI_GLYPH_WIDTH)
    (fitsRows : mode.2 ≤ verticalResolution / EFI_GLYPH_HEIGHT) :
    ∃ found ∈ modes.foldl (addMode horizontalResolution verticalResolution gopModeNumber) valid,
      found.columns = mode.1 ∧ found.rows = mode.2 := by
  induction modes generalizing valid with
  | nil => exact absurd member List.not_mem_nil
  | cons head rest ih =>
      rw [List.foldl_cons]
      rcases List.mem_cons.mp member with rfl | later
      · have added : ∃ found ∈
            addMode horizontalResolution verticalResolution gopModeNumber valid mode,
            found.columns = mode.1 ∧ found.rows = mode.2 := by
          rcases addMode_cases valid mode with ⟨unchanged, known⟩ | ⟨added, -⟩
          · rw [unchanged]
            exact known columns rows fitsColumns fitsRows
          · rw [added]
            exact ⟨_, List.mem_append_right _ (List.mem_singleton_self _), rfl, rfl⟩
        obtain ⟨found, inTable, same⟩ := added
        exact ⟨found, subset_foldl_addMode inTable, same⟩
      · exact ih later

end Table

section Sizes

variable {horizontalResolution verticalResolution : U32}

theorem toNat_div_glyphWidth (pixels : U32) : (pixels / EFI_GLYPH_WIDTH).toNat = pixels.toNat / 8 :=
  BitVec.toNat_udiv

theorem toNat_div_glyphHeight (pixels : U32) :
    (pixels / EFI_GLYPH_HEIGHT).toNat = pixels.toNat / 19 :=
  BitVec.toNat_udiv

/-- The margin on one side, where the text is not larger than the screen. -/
theorem toNat_margin {pixels cells glyph : U32} (fits : cells.toNat * glyph.toNat ≤ pixels.toNat) :
    ((pixels - cells * glyph) >>> 1).toNat = (pixels.toNat - cells.toNat * glyph.toNat) / 2 := by
  have bound := pixels.isLt
  have product : (cells * glyph).toNat = cells.toNat * glyph.toNat := by
    rw [BitVec.toNat_mul, Nat.mod_eq_of_lt (by omega)]
  have difference : (pixels - cells * glyph).toNat = pixels.toNat - cells.toNat * glyph.toNat := by
    rw [BitVec.toNat_sub_of_le (BitVec.le_def.mpr (by omega)), product]
  rw [BitVec.toNat_ushiftRight, difference, Nat.shiftRight_eq_div_pow, Nat.pow_one]

theorem centredMode_centred {columns rows : U32} (gopModeNumber : U32)
    (fitsColumns : columns.toNat * 8 ≤ horizontalResolution.toNat)
    (fitsRows : rows.toNat * 19 ≤ verticalResolution.toNat) :
    (centredMode horizontalResolution verticalResolution gopModeNumber columns rows).Centred
      horizontalResolution verticalResolution := by
  have across : ((horizontalResolution - columns * EFI_GLYPH_WIDTH) >>> 1).toNat =
      (horizontalResolution.toNat - columns.toNat * 8) / 2 := toNat_margin fitsColumns
  have down : ((verticalResolution - rows * EFI_GLYPH_HEIGHT) >>> 1).toNat =
      (verticalResolution.toNat - rows.toNat * 19) / 2 := toNat_margin fitsRows
  constructor <;> simp only [centredMode] <;> omega

theorem fits_columns {columns : U32} (fits : columns ≤ horizontalResolution / EFI_GLYPH_WIDTH) :
    columns.toNat * 8 ≤ horizontalResolution.toNat := by
  have bound := BitVec.le_def.mp fits
  rw [toNat_div_glyphWidth] at bound
  omega

theorem fits_rows {rows : U32} (fits : rows ≤ verticalResolution / EFI_GLYPH_HEIGHT) :
    rows.toNat * 19 ≤ verticalResolution.toNat := by
  have bound := BitVec.le_def.mp fits
  rw [toNat_div_glyphHeight] at bound
  omega

end Sizes

section Initialized

variable (horizontalResolution verticalResolution gopModeNumber : U32)

/-- Where 40x12 fits, every text mode is on the screen and in the middle of it. -/
theorem forall_centred (columns : 40 * 8 ≤ horizontalResolution.toNat)
    (rows : 12 * 19 ≤ verticalResolution.toNat) :
    ∀ mode ∈ initializeGraphicsConsoleTextMode horizontalResolution verticalResolution
        gopModeNumber,
      mode.Usable → mode.Centred horizontalResolution verticalResolution := by
  apply forall_mem_foldl_addMode
  · simp only [reservedModes, List.forall_mem_cons]
    refine ⟨fun _ => centredMode_centred gopModeNumber columns rows, ?_,
      fun _ member => absurd member List.not_mem_nil⟩
    split
    · next fits =>
        exact fun _ => centredMode_centred gopModeNumber (fits_columns fits.1) (fits_rows fits.2)
    · exact fun usable => absurd rfl usable.1
  · exact fun _ _ _ _ fitsColumns fitsRows _ =>
      centredMode_centred gopModeNumber (fits_columns fitsColumns) (fits_rows fitsRows)

/-- Every text mode is on the screen and in the middle of it exactly when 40x12 fits. -/
theorem forall_centred_iff :
    (∀ mode ∈ initializeGraphicsConsoleTextMode horizontalResolution verticalResolution
        gopModeNumber,
      mode.Usable → mode.Centred horizontalResolution verticalResolution) ↔
      320 ≤ horizontalResolution ∧ 228 ≤ verticalResolution := by
  rw [BitVec.le_def, BitVec.le_def]
  have wide : (320 : U32).toNat = 320 := rfl
  have high : (228 : U32).toNat = 228 := rfl
  constructor
  · intro centred
    have first := centred
      (centredMode horizontalResolution verticalResolution gopModeNumber 40 12)
      (subset_foldl_addMode List.mem_cons_self)
      ⟨(by decide : (40 : U32) ≠ 0), (by decide : (12 : U32) ≠ 0)⟩
    have columns : 40 * 8 ≤ horizontalResolution.toNat :=
      Nat.le_trans (Nat.le_add_left _ _) first.right
    have rows : 12 * 19 ≤ verticalResolution.toNat :=
      Nat.le_trans (Nat.le_add_left _ _) first.bottom
    omega
  · rintro ⟨columns, rows⟩
    exact forall_centred horizontalResolution verticalResolution gopModeNumber columns rows

/-- The sizes that the console offers where they fit; 40x12 is always there. -/
def offeredSizes : List (U32 × U32) :=
  (80, 50) :: mGraphicsConsoleModeData (horizontalResolution / EFI_GLYPH_WIDTH)
    (verticalResolution / EFI_GLYPH_HEIGHT)

theorem distinct_reservedModes :
    Distinct (reservedModes horizontalResolution verticalResolution gopModeNumber) := by
  rw [Distinct, reservedModes, List.pairwise_pair]
  split
  · exact fun same => absurd same.1 (by decide : (40 : U32) ≠ 80)
  · exact fun same => absurd same.1 (by decide : (40 : U32) ≠ 0)

/-- The table has the sizes that fit, each once. -/
theorem table_eq_sizes_that_fit :
    Distinct (initializeGraphicsConsoleTextMode horizontalResolution verticalResolution
        gopModeNumber) ∧
      ∀ columns rows : U32, columns ≠ 0 → rows ≠ 0 →
        ((∃ mode ∈ initializeGraphicsConsoleTextMode horizontalResolution verticalResolution
            gopModeNumber, mode.columns = columns ∧ mode.rows = rows) ↔
          (columns, rows) = (40, 12) ∨
            (columns, rows) ∈ offeredSizes horizontalResolution verticalResolution ∧
              columns ≤ horizontalResolution / EFI_GLYPH_WIDTH ∧
              rows ≤ verticalResolution / EFI_GLYPH_HEIGHT) := by
  refine ⟨(distinct_reservedModes _ _ _).foldl_addMode, fun columns rows someColumns someRows => ?_⟩
  constructor
  · rintro ⟨mode, member, rfl, rfl⟩
    revert mode
    apply forall_mem_foldl_addMode
    · simp only [reservedModes, List.forall_mem_cons]
      refine ⟨fun _ _ => .inl rfl, ?_, fun _ member => absurd member List.not_mem_nil⟩
      split
      · next fits => exact fun _ _ => .inr ⟨List.mem_cons_self, fits⟩
      · exact fun nonzero => absurd rfl nonzero
    · exact fun mode member _ _ fitsColumns fitsRows _ _ =>
        .inr ⟨List.mem_cons_of_mem _ member, fitsColumns, fitsRows⟩
  · rintro (first | ⟨offered, fitsColumns, fitsRows⟩)
    · obtain ⟨rfl, rfl⟩ := Prod.mk.inj first
      exact ⟨centredMode horizontalResolution verticalResolution gopModeNumber 40 12,
        subset_foldl_addMode List.mem_cons_self, rfl, rfl⟩
    · rcases List.mem_cons.mp offered with second | listed
      · obtain ⟨rfl, rfl⟩ := Prod.mk.inj second
        refine ⟨centredMode horizontalResolution verticalResolution gopModeNumber 80 50,
          subset_foldl_addMode (List.mem_cons_of_mem _ ?_), rfl, rfl⟩
        rw [if_pos ⟨fitsColumns, fitsRows⟩]
        exact List.mem_singleton_self _
      · exact exists_mem_foldl_addMode listed someColumns someRows fitsColumns fitsRows

end Initialized

end HtcLeo.GraphicsConsole
