import HtcLeo.Grid.Collapse
import HtcLeo.Tetris.Board

/-!
# What marking, drawing and removing does to the fields

Marking and drawing paint the cells of a piece.  Removing a row brings every visible row
above it down by one, and the scan of the rows collapses them.
-/

namespace HtcLeo.Tetris

open Grid Fields

/-! ## Painting -/

/-- All cells of the piece are on the board. -/
def Piece.OnBoard (piece : Piece) : Prop := ∀ p ∈ piece.cells, p.Inside

/-- A grid with the cells of a piece in its color. -/
def place (grid : Grid) (piece : Piece) : Grid :=
  fun y x => if ⟨x, y⟩ ∈ piece.cells then piece.color else grid y x

theorem point_eq_iff {x y : Int} {p : Point} : (⟨x, y⟩ : Point) = p ↔ y = p.y ∧ x = p.x := by
  cases p
  rw [Point.mk.injEq, and_comm]

section Painting

variable {fields : Fields} {piece : Piece} {points : List Point} {p q : Point} {color : U8}

theorem set_inside (inside : p.Inside) :
    fields.set p color =
      { fields with cells := fun y x => if y = p.y ∧ x = p.x then color else fields.cells y x } :=
  if_pos inside

theorem foldl_set (inside : ∀ p ∈ points, p.Inside) :
    points.foldl (fun fields p => fields.set p color) fields =
      { fields with
        cells := fun y x => if ⟨x, y⟩ ∈ points then color else fields.cells y x } := by
  induction points generalizing fields with
  | nil => simp
  | cons first rest ih =>
      obtain ⟨here, others⟩ := List.forall_mem_cons.mp inside
      rw [List.foldl_cons, ih others, set_inside here]
      congr 1
      funext y x
      by_cases later : (⟨x, y⟩ : Point) ∈ rest
      · rw [if_pos later, if_pos (List.mem_cons_of_mem _ later)]
      · rw [if_neg later]
        refine if_congr ?_ rfl rfl
        rw [List.mem_cons, or_iff_left later, point_eq_iff]

theorem markFieldsOccupiedByPiece_eq (onBoard : piece.OnBoard) :
    fields.markFieldsOccupiedByPiece piece color =
      { fields with
        cells := fun y x => if ⟨x, y⟩ ∈ piece.cells then color else fields.cells y x } :=
  foldl_set onBoard

/-- The invisible rows are left out. -/
theorem redrawField_inside (inside : p.Inside) :
    fields.redrawField p color =
      { fields with
        cells := fun y x => if (y = p.y ∧ x = p.x) ∧ y ≥ INVISIBLE_ROWS_COUNT then color
          else fields.cells y x } := by
  rw [redrawField, if_pos inside]
  split
  · rename_i visible
    rw [set_inside inside]
    congr 1
    funext y x
    refine if_congr ⟨fun same => ⟨same, ?_⟩, And.left⟩ rfl rfl
    rw [same.1]
    exact visible
  · rename_i hidden
    have none (y x : Int) : ¬ ((y = p.y ∧ x = p.x) ∧ y ≥ INVISIBLE_ROWS_COUNT) := by
      rintro ⟨⟨rfl, -⟩, visible⟩
      exact hidden visible
    simp only [none, if_false]

theorem foldl_redrawField (inside : ∀ p ∈ points, p.Inside) :
    points.foldl (fun fields p => fields.redrawField p color) fields =
      { fields with
        cells := fun y x => if ⟨x, y⟩ ∈ points ∧ y ≥ INVISIBLE_ROWS_COUNT then color
          else fields.cells y x } := by
  induction points generalizing fields with
  | nil => simp
  | cons first rest ih =>
      obtain ⟨here, others⟩ := List.forall_mem_cons.mp inside
      rw [List.foldl_cons, ih others, redrawField_inside here]
      congr 1
      funext y x
      have painted : (⟨x, y⟩ : Point) ∈ first :: rest ↔
          (y = first.y ∧ x = first.x) ∨ ⟨x, y⟩ ∈ rest := by
        rw [List.mem_cons, point_eq_iff]
      simp only [painted]
      by_cases later : (⟨x, y⟩ : Point) ∈ rest
      · by_cases visible : y ≥ INVISIBLE_ROWS_COUNT <;> simp [later, visible]
      · simp only [later, false_and, if_false, or_false]

theorem drawFieldsOccupiedByPiece_eq (onBoard : piece.OnBoard) :
    fields.drawFieldsOccupiedByPiece piece color =
      { fields with
        cells := fun y x => if ⟨x, y⟩ ∈ piece.cells ∧ y ≥ INVISIBLE_ROWS_COUNT then color
          else fields.cells y x } :=
  foldl_redrawField onBoard

end Painting

/-! ## Rows -/

section Rows

variable {fields : Fields} {i j : Nat} {x y : Int} {color : U8}

theorem mem_columns : x ∈ columns ↔ 0 ≤ x ∧ x < BOARD_WIDTH := by
  simp only [columns, List.mem_map, List.mem_range, BOARD_WIDTH]
  constructor
  · rintro ⟨j, below, rfl⟩
    exact ⟨Int.natCast_nonneg j, by omega⟩
  · rintro ⟨above, below⟩
    exact ⟨x.toNat, by omega, by omega⟩

theorem row_inside (inside : (j : Int) < BOARD_HEIGHT) {k : Int} (column : k ∈ columns) :
    (⟨k, j⟩ : Point).Inside :=
  ⟨mem_columns.mp column, Int.natCast_nonneg j, inside⟩

/-- A row that is drawn column by column, each from what the row above has there. -/
theorem foldl_copy (inside : (j : Int) < BOARD_HEIGHT) {ks : List Int} (known : ks ⊆ columns) :
    ks.foldl (fun fields k => fields.redrawField ⟨k, j⟩ (fields.cells (j - 1) k)) fields =
      { fields with
        cells := fun y x => if (y = j ∧ x ∈ ks) ∧ y ≥ INVISIBLE_ROWS_COUNT
          then fields.cells (y - 1) x else fields.cells y x } := by
  induction ks generalizing fields with
  | nil => simp
  | cons first rest ih =>
      obtain ⟨here, others⟩ := List.cons_subset.mp known
      rw [List.foldl_cons, ih others, redrawField_inside (row_inside inside here)]
      congr 1
      funext y x
      by_cases row : y = (j : Int)
      · subst row
        have above : ¬ (j : Int) - 1 = j := by omega
        by_cases visible : INVISIBLE_ROWS_COUNT ≤ (j : Int)
        · by_cases later : x ∈ rest
          · simp [later, above, visible]
          · by_cases now : x = first
            · subst now
              simp [later, visible]
            · simp [later, now]
        · simp [visible]
      · simp only [row, false_and, if_false]

theorem copyRow_eq (inside : (j : Int) < BOARD_HEIGHT) :
    copyRow j fields =
      { fields with
        cells := fun y x => if (y = j ∧ x ∈ columns) ∧ y ≥ INVISIBLE_ROWS_COUNT
          then fields.cells (y - 1) x else fields.cells y x } :=
  foldl_copy inside fun _ member => member

theorem blackenRow_eq (inside : (i : Int) < BOARD_HEIGHT) :
    blackenRow i fields =
      { fields with
        cells := fun y x => if (y = i ∧ x ∈ columns) ∧ y ≥ INVISIBLE_ROWS_COUNT
          then EFI_BLACK else fields.cells y x } := by
  have points : ∀ p ∈ columns.map fun (k : Int) => (⟨k, i⟩ : Point), p.Inside := by
    intro p member
    obtain ⟨k, column, rfl⟩ := List.mem_map.mp member
    exact row_inside inside column
  have painted := @foldl_redrawField fields _ EFI_BLACK points
  rw [List.foldl_map] at painted
  refine painted.trans ?_
  congr 1
  funext y x
  refine if_congr (and_congr_left fun _ => ?_) rfl rfl
  simp only [List.mem_map, Point.mk.injEq]
  constructor
  · rintro ⟨k, column, rfl, rfl⟩
    exact ⟨rfl, column⟩
  · rintro ⟨rfl, column⟩
    exact ⟨x, column, rfl, rfl⟩

/-- The visible rows up to row `i` move down. -/
theorem shiftRows_eq (inside : (i : Int) < BOARD_HEIGHT) :
    shiftRows i fields =
      { fields with
        cells := fun y x => if (y ≤ i ∧ x ∈ columns) ∧ y ≥ INVISIBLE_ROWS_COUNT
          then fields.cells (y - 1) x else fields.cells y x } := by
  induction i generalizing fields with
  | zero =>
      have none (y x : Int) :
          ¬ ((y ≤ (0 : Nat) ∧ x ∈ columns) ∧ y ≥ INVISIBLE_ROWS_COUNT) := by
        rintro ⟨⟨low, -⟩, visible⟩
        exact absurd (Int.le_trans visible low) (by decide)
      simp only [none, if_false, shiftRows]
  | succ i ih =>
      rw [shiftRows, ih (by omega), copyRow_eq inside]
      congr 1
      funext y x
      by_cases row : y = (i + 1 : Nat)
      · subst row
        have above : ¬ ((i + 1 : Nat) : Int) ≤ i := by omega
        simp only [above, false_and, if_false, Int.le_refl, true_and]
      · simp only [row, false_and, if_false]
        split
        · rename_i moved
          have above : ¬ y - 1 = (i + 1 : Nat) := by omega
          have lower : y ≤ (i + 1 : Nat) := by omega
          simp only [above, false_and, if_false, lower, moved, and_self, if_true]
        · rename_i still
          refine (if_neg fun moved => still ?_).symm
          have lower := moved.1.1
          exact ⟨⟨by omega, moved.1.2⟩, moved.2⟩

theorem shiftRows_blackenRow (inside : (i : Int) < BOARD_HEIGHT) :
    shiftRows i (blackenRow i fields) =
      { fields with
        cells := fun y x => if (y ≤ i ∧ x ∈ columns) ∧ y ≥ INVISIBLE_ROWS_COUNT
          then fields.cells (y - 1) x else fields.cells y x } := by
  rw [shiftRows_eq inside, blackenRow_eq inside]
  congr 1
  funext y x
  split
  · rename_i moved
    have above : ¬ y - 1 = (i : Int) := by omega
    simp only [above, false_and, if_false]
  · rename_i still
    refine if_neg fun black => still ⟨⟨Int.le_of_eq black.1.1, black.1.2⟩, black.2⟩

end Rows

end HtcLeo.Tetris
