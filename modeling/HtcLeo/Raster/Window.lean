import HtcLeo.Raster.Core

/-!
# Cells of a window

What the operations on a raster do to the page that a window shows: a stamp into some
cells changes these cells, moving all rows but the first up and filling the last one
scrolls the page, and filling a rectangle around the window makes all cells alike.
-/

namespace HtcLeo.Raster

universe u

variable {π : Type u}

/-- A page: an image for each column and row. -/
abbrev Page (π : Type u) : Type u :=
  Nat → Nat → Nat → Nat → π

/-- Change the image in one cell. -/
def Page.set (page : Page π) (column row : Nat) (image : Nat → Nat → π) : Page π :=
  fun c r => if c = column ∧ r = row then image else page c r

/-- Move all rows up by one, and leave the last one in one color. -/
def Page.scroll (rows : Nat) (value : π) (page : Page π) : Page π :=
  fun c r => if r + 1 < rows then page c (r + 1) else fun _ _ => value

namespace Window

/-- The part of an image that is in its `index`-th cell. -/
def slice (window : Window) (index : Nat) (image : Nat → Nat → π) : Nat → Nat → π :=
  fun x y => image (index * window.cellWidth + x) y

section Cells

variable {window : Window} {page : Page π} {raster image : Nat → Nat → π}
  {column row count c r x y : Nat}

theorem cells_contains_iff (column row count c r : Nat) (insideX : x < window.cellWidth)
    (insideY : y < window.cellHeight) :
    (window.cells column row count).Contains (window.x c x) (window.y r y) ↔
      r = row ∧ column ≤ c ∧ c < column + count := by
  have across := cell_mem_iff c column count insideX
  have down := cell_mem_iff r row 1 insideY
  rw [Nat.one_mul] at down
  rw [Rect.contains_iff]
  simp only [cells, Window.x, Window.y, Nat.add_zero, Nat.add_assoc, Nat.add_le_add_iff_left,
    Nat.add_lt_add_iff_left]
  rw [across, down]
  omega

theorem band_contains_iff (row count r : Nat) (insideColumn : c < window.columns)
    (insideX : x < window.cellWidth) (insideY : y < window.cellHeight) :
    (window.band row count).Contains (window.x c x) (window.y r y) ↔
      row ≤ r ∧ r < row + count := by
  have down := cell_mem_iff r row count insideY
  rw [Rect.contains_iff]
  simp only [band, Window.x, Window.y, Nat.add_zero, Nat.add_assoc, Nat.add_le_add_iff_left,
    Nat.add_lt_add_iff_left]
  rw [down]
  have across := tile_lt insideColumn insideX
  omega

theorem cells_inside (insideColumns : column + count ≤ window.columns)
    (insideRow : row < window.rows) : (window.cells column row count).Inside window.rect where
  left := Nat.le_add_right _ _
  right := by
    have within := Nat.mul_le_mul_right window.cellWidth insideColumns
    rw [Nat.add_mul] at within
    simp only [cells, rect, Window.x]
    omega
  top := Nat.le_add_right _ _
  bottom := by
    have within := Nat.mul_le_mul_right window.cellHeight (Nat.succ_le_of_lt insideRow)
    rw [Nat.succ_mul] at within
    simp only [cells, rect, Window.y]
    omega

theorem band_inside (insideRows : row + count ≤ window.rows) :
    (window.band row count).Inside window.rect where
  left := Nat.le_refl _
  right := Nat.le_refl _
  top := Nat.le_add_right _ _
  bottom := by
    have within := Nat.mul_le_mul_right window.cellHeight insideRows
    rw [Nat.add_mul] at within
    simp only [band, rect, Window.y]
    omega

/-- The offsets of a pixel of a range of cells from the first of them. -/
theorem sub_cells (row count x y : Nat) (from_le : column ≤ c) :
    window.x c x - (window.cells column row count).left =
        (c - column) * window.cellWidth + x ∧
      window.y row y - (window.cells column row count).top = y := by
  have before := Nat.mul_le_mul_right window.cellWidth from_le
  simp only [cells, Window.x, Window.y, Nat.sub_mul]
  omega

/-- An image that is stamped into cells of a row is put on the page slice by slice. -/
theorem stamp_cells (insideColumns : column + count ≤ window.columns)
    (insideRow : row < window.rows) :
    stamp (window.cells column row count) image (window.paint page raster) =
      window.paint
        (fun c r => if r = row ∧ column ≤ c ∧ c < column + count then
          window.slice (c - column) image else page c r) raster := by
  apply eq_paint
  · intro c insideColumn r insideRow x insideX y insideY
    have contains_iff := cells_contains_iff column row count c r insideX insideY
    split
    · next within =>
        rw [stamp_of_contains (contains_iff.mpr within)]
        obtain ⟨rfl, from_le, -⟩ := within
        have offsets := @sub_cells window _ _ r count x y from_le
        rw [offsets.1, offsets.2]
        rfl
    · next without =>
        rw [stamp_of_not_contains fun contains => without (contains_iff.mp contains),
          paint_cell insideColumn insideRow insideX insideY]
  · intro x y outside
    rw [stamp_of_not_contains fun contains =>
      outside ((cells_inside insideColumns insideRow).contains contains),
      paint_of_not_contains outside]

theorem slice_zero (image : Nat → Nat → π) : window.slice 0 image = image := by
  funext x y
  rw [slice, Nat.zero_mul, Nat.zero_add]

theorem stamp_cell (insideColumn : column < window.columns) (insideRow : row < window.rows) :
    stamp (window.cells column row 1) image (window.paint page raster) =
      window.paint (page.set column row image) raster := by
  rw [stamp_cells insideColumn insideRow]
  congr 1
  funext c r
  have only : r = row ∧ column ≤ c ∧ c < column + 1 ↔ c = column ∧ r = row := by omega
  simp only [only, Page.set]
  split
  · next here => rw [here.1, Nat.sub_self, slice_zero]
  · rfl

theorem stamp_two_cells (insideColumn : column + 1 < window.columns)
    (insideRow : row < window.rows) :
    stamp (window.cells column row 2) image (window.paint page raster) =
      window.paint ((page.set column row image).set (column + 1) row (window.slice 1 image))
        raster := by
  rw [stamp_cells insideColumn insideRow]
  congr 1
  funext c r
  simp only [Page.set]
  by_cases second : c = column + 1 ∧ r = row
  · have within : r = row ∧ column ≤ c ∧ c < column + 2 := by omega
    rw [if_pos within, if_pos second, second.1, Nat.add_sub_cancel_left]
  · rw [if_neg second]
    by_cases first : c = column ∧ r = row
    · have within : r = row ∧ column ≤ c ∧ c < column + 2 := by omega
      rw [if_pos within, if_pos first, first.1, Nat.sub_self, slice_zero]
    · have without : ¬ (r = row ∧ column ≤ c ∧ c < column + 2) := by omega
      rw [if_neg without, if_neg first]

/-- An image that is cut out of a cell is what the page has there. -/
theorem cut_cell (insideColumn : column < window.columns) (insideRow : row < window.rows)
    (insideX : x < window.cellWidth) (insideY : y < window.cellHeight) :
    cut (window.cells column row 1) (window.paint page raster) x y = page column row x y := by
  have at_cell : cut (window.cells column row 1) (window.paint page raster) x y =
      window.paint page raster (window.x column x) (window.y row y) := by
    simp only [cut, cells, Window.x, Window.y, Nat.add_zero, Nat.add_assoc]
  rw [at_cell, paint_cell insideColumn insideRow insideX insideY]

/-- Pages that agree where a window looks are shown alike. -/
theorem paint_congr {other : Page π}
    (same : ∀ column < window.columns, ∀ row < window.rows, ∀ x < window.cellWidth,
      ∀ y < window.cellHeight, page column row x y = other column row x y) :
    window.paint page raster = window.paint other raster := by
  apply eq_paint
  · intro column insideColumn row insideRow x insideX y insideY
    rw [paint_cell insideColumn insideRow insideX insideY]
    exact same column insideColumn row insideRow x insideX y insideY
  · intro x y outside
    exact paint_of_not_contains outside

theorem recolor_cell {change : Nat → Nat → π → π} (insideColumn : column < window.columns)
    (insideRow : row < window.rows) :
    stamp (window.cells column row 1)
        (recolor change (cut (window.cells column row 1) (window.paint page raster)))
        (window.paint page raster) =
      window.paint (page.set column row (recolor change (page column row))) raster := by
  rw [stamp_cell insideColumn insideRow]
  apply paint_congr
  intro c _ r _ x insideX y insideY
  simp only [Page.set]
  split
  · rw [recolor, recolor, cut_cell insideColumn insideRow insideX insideY]
  · rfl

/-- Moving the rows from the second on up and filling the last one scrolls the page. -/
theorem scroll_eq (some_row : 0 < window.rows) (value : π) :
    fill (window.band (window.rows - 1) 1) value
        (stamp (window.band 0 (window.rows - 1))
          (cut (window.band 1 (window.rows - 1)) (window.paint page raster))
          (window.paint page raster)) =
      window.paint (page.scroll window.rows value) raster := by
  apply eq_paint
  · intro c insideColumn r insideRow x insideX y insideY
    have last := band_contains_iff (window.rows - 1) 1 r insideColumn insideX insideY
    have moved := band_contains_iff 0 (window.rows - 1) r insideColumn insideX insideY
    simp only [Page.scroll]
    split
    · next before =>
        have contains := moved.mpr ⟨Nat.zero_le r, by omega⟩
        rw [fill, stamp_of_not_contains fun contains => by
            have bounds := last.mp contains
            omega,
          stamp_of_contains contains]
        have next_row : cut (window.band 1 (window.rows - 1)) (window.paint page raster)
            (window.x c x - (window.band 0 (window.rows - 1)).left)
            (window.y r y - (window.band 0 (window.rows - 1)).top) =
            window.paint page raster (window.x c x) (window.y (r + 1) y) := by
          simp only [cut, band, Window.x, Window.y, Nat.zero_mul, Nat.succ_mul]
          congr 1 <;> omega
        rw [next_row, paint_cell insideColumn before insideX insideY]
    · next after =>
        rw [fill, stamp_of_contains (last.mpr ⟨by omega, by omega⟩)]
  · intro x y outside
    have lastInside : window.rows - 1 + 1 ≤ window.rows := by omega
    have movedInside : 0 + (window.rows - 1) ≤ window.rows := by omega
    rw [fill, stamp_of_not_contains fun contains =>
        outside ((band_inside lastInside).contains contains),
      stamp_of_not_contains fun contains => outside ((band_inside movedInside).contains contains),
      paint_of_not_contains outside]

/-- After a rectangle around the window is filled, all cells have one color. -/
theorem fill_eq_paint {rect : Rect} (around : window.rect.Inside rect) (value : π) :
    fill rect value raster = window.paint (fun _ _ _ _ => value) (fill rect value raster) := by
  apply eq_paint
  · intro column insideColumn row insideRow x insideX y insideY
    have contains := Window.contains_iff.mpr
      ⟨column, row, x, y, insideColumn, insideRow, insideX, insideY, rfl, rfl⟩
    rw [fill, stamp_of_contains (around.contains contains)]
  · exact fun _ _ _ => rfl

end Cells

end Window

end HtcLeo.Raster
