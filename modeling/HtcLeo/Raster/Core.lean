import Mathlib.Algebra.Group.Nat.Defs

/-!
# Rasters

A raster is what a screen shows: a value for every column and row.  An image is stamped
into a rectangle of it, or cut out of one; filling and moving a rectangle are special
cases.  A window divides a part of a raster into cells of one size, and a page gives an
image to every cell: what is stamped into a cell is a change of that cell on the page.
-/

namespace HtcLeo.Raster

universe u

variable {π : Type u}

/-! ## Rectangles -/

/-- A rectangle of pixels. -/
structure Rect where
  left : Nat
  top : Nat
  width : Nat
  height : Nat
  deriving DecidableEq, Repr

/-- The pixel is inside the rectangle. -/
structure Rect.Contains (rect : Rect) (x y : Nat) : Prop where
  left : rect.left ≤ x
  right : x < rect.left + rect.width
  top : rect.top ≤ y
  bottom : y < rect.top + rect.height

theorem Rect.contains_iff {rect : Rect} {x y : Nat} :
    rect.Contains x y ↔ (rect.left ≤ x ∧ x < rect.left + rect.width) ∧
      rect.top ≤ y ∧ y < rect.top + rect.height :=
  ⟨fun ⟨left, right, top, bottom⟩ => ⟨⟨left, right⟩, top, bottom⟩,
    fun ⟨⟨left, right⟩, top, bottom⟩ => ⟨left, right, top, bottom⟩⟩

instance (rect : Rect) (x y : Nat) : Decidable (rect.Contains x y) :=
  decidable_of_iff _ Rect.contains_iff.symm

/-- One rectangle lies in another. -/
structure Rect.Inside (rect other : Rect) : Prop where
  left : other.left ≤ rect.left
  right : rect.left + rect.width ≤ other.left + other.width
  top : other.top ≤ rect.top
  bottom : rect.top + rect.height ≤ other.top + other.height

theorem Rect.inside_iff {rect other : Rect} :
    rect.Inside other ↔ (other.left ≤ rect.left ∧
      rect.left + rect.width ≤ other.left + other.width) ∧
      other.top ≤ rect.top ∧ rect.top + rect.height ≤ other.top + other.height :=
  ⟨fun ⟨left, right, top, bottom⟩ => ⟨⟨left, right⟩, top, bottom⟩,
    fun ⟨⟨left, right⟩, top, bottom⟩ => ⟨left, right, top, bottom⟩⟩

instance (rect other : Rect) : Decidable (rect.Inside other) :=
  decidable_of_iff _ Rect.inside_iff.symm

theorem Rect.Inside.contains {rect other : Rect} {x y : Nat} (inside : rect.Inside other)
    (contains : rect.Contains x y) : other.Contains x y where
  left := Nat.le_trans inside.left contains.left
  right := Nat.lt_of_lt_of_le contains.right inside.right
  top := Nat.le_trans inside.top contains.top
  bottom := Nat.lt_of_lt_of_le contains.bottom inside.bottom

theorem Rect.Inside.trans {rect other third : Rect} (first : rect.Inside other)
    (second : other.Inside third) : rect.Inside third where
  left := Nat.le_trans second.left first.left
  right := Nat.le_trans first.right second.right
  top := Nat.le_trans second.top first.top
  bottom := Nat.le_trans first.bottom second.bottom

/-! ## Stamping and cutting -/

/-- Put an image into a rectangle. -/
def stamp (rect : Rect) (image raster : Nat → Nat → π) : Nat → Nat → π :=
  fun x y => if rect.Contains x y then image (x - rect.left) (y - rect.top) else raster x y

/-- The image in a rectangle, moved to the origin. -/
def cut (rect : Rect) (raster : Nat → Nat → π) : Nat → Nat → π :=
  fun x y => raster (rect.left + x) (rect.top + y)

/-- Fill a rectangle with one value. -/
def fill (rect : Rect) (value : π) : (Nat → Nat → π) → Nat → Nat → π :=
  stamp rect fun _ _ => value

/-- Change an image pixel by pixel. -/
def recolor (change : Nat → Nat → π → π) (image : Nat → Nat → π) : Nat → Nat → π :=
  fun x y => change x y (image x y)

section Stamp

variable {rect other : Rect} {image second raster : Nat → Nat → π} {x y : Nat}

theorem stamp_of_contains (contains : rect.Contains x y) :
    stamp rect image raster x y = image (x - rect.left) (y - rect.top) :=
  if_pos contains

theorem stamp_of_not_contains (outside : ¬ rect.Contains x y) :
    stamp rect image raster x y = raster x y :=
  if_neg outside

theorem cut_sub (contains : rect.Contains x y) :
    cut rect raster (x - rect.left) (y - rect.top) = raster x y := by
  rw [cut, Nat.add_sub_cancel' contains.left, Nat.add_sub_cancel' contains.top]

/-- A stamp covers what was stamped into a part of its rectangle. -/
theorem stamp_stamp_of_inside (inside : other.Inside rect) :
    stamp rect image (stamp other second raster) = stamp rect image raster := by
  funext x y
  by_cases contains : rect.Contains x y
  · rw [stamp_of_contains contains, stamp_of_contains contains]
  · have apart : ¬ other.Contains x y := fun within => contains (inside.contains within)
    rw [stamp_of_not_contains contains, stamp_of_not_contains contains,
      stamp_of_not_contains apart]

/-- Two changes of a rectangle that cancel pixel by pixel. -/
theorem stamp_recolor_twice {change : Nat → Nat → π → π}
    (cancels : ∀ x y value, change x y (change x y value) = value) :
    stamp rect (recolor change (cut rect (stamp rect (recolor change (cut rect raster)) raster)))
      (stamp rect (recolor change (cut rect raster)) raster) = raster := by
  funext x y
  by_cases contains : rect.Contains x y
  · rw [stamp_of_contains contains, recolor, cut_sub contains, stamp_of_contains contains, recolor,
      cut_sub contains, cancels]
  · rw [stamp_of_not_contains contains, stamp_of_not_contains contains]

end Stamp

/-! ## Windows -/

/-- A part of a raster that is divided into cells. -/
structure Window where
  left : Nat
  top : Nat
  columns : Nat
  rows : Nat
  cellWidth : Nat
  cellHeight : Nat
  width_pos : 0 < cellWidth
  height_pos : 0 < cellHeight

/-- Where a pixel of a column is. -/
def Window.x (window : Window) (column x : Nat) : Nat :=
  window.left + (column * window.cellWidth + x)

/-- The pixel row of row `y` of a row of cells. -/
def Window.y (window : Window) (row y : Nat) : Nat :=
  window.top + (row * window.cellHeight + y)

/-- The rectangle of all cells. -/
def Window.rect (window : Window) : Rect :=
  ⟨window.left, window.top, window.columns * window.cellWidth, window.rows * window.cellHeight⟩

/-- Some neighbouring cells of a row. -/
def Window.cells (window : Window) (column row count : Nat) : Rect :=
  ⟨window.x column 0, window.y row 0, count * window.cellWidth, window.cellHeight⟩

/-- Some rows from a row on. -/
def Window.band (window : Window) (row count : Nat) : Rect :=
  ⟨window.left, window.y row 0, window.columns * window.cellWidth, count * window.cellHeight⟩

/-- Show a page in a window, and the raster around it. -/
def Window.paint (window : Window) (page : Nat → Nat → Nat → Nat → π)
    (raster : Nat → Nat → π) : Nat → Nat → π :=
  fun x y =>
    if window.rect.Contains x y then
      page ((x - window.left) / window.cellWidth) ((y - window.top) / window.cellHeight)
        ((x - window.left) % window.cellWidth) ((y - window.top) % window.cellHeight)
    else raster x y

theorem div_mod_of_lt {cell size rest : Nat} (inside : rest < size) :
    (cell * size + rest) / size = cell ∧ (cell * size + rest) % size = rest := by
  constructor
  · rw [Nat.add_comm, Nat.add_mul_div_right _ _ (Nat.zero_lt_of_lt inside),
      Nat.div_eq_of_lt inside, Nat.zero_add]
  · rw [Nat.add_comm, Nat.add_mul_mod_self_right, Nat.mod_eq_of_lt inside]

/-- A pixel of a cell is in a range of cells when the cell is. -/
theorem cell_mem_iff (cell first count : Nat) {size rest : Nat} (inside : rest < size) :
    first * size ≤ cell * size + rest ∧ cell * size + rest < first * size + count * size ↔
      first ≤ cell ∧ cell < first + count := by
  have positive := Nat.zero_lt_of_lt inside
  rw [← Nat.add_mul]
  constructor
  · rintro ⟨above, below⟩
    constructor
    · rcases Nat.lt_or_ge cell first with before | notBefore
      · have behind := Nat.mul_le_mul_right size (Nat.succ_le_of_lt before)
        rw [Nat.succ_mul] at behind
        omega
      · exact notBefore
    · rcases Nat.lt_or_ge cell (first + count) with before | after
      · exact before
      · have beyond := Nat.mul_le_mul_right size after
        omega
  · rintro ⟨above, below⟩
    have one := Nat.mul_le_mul_right size above
    have two := Nat.mul_le_mul_right size (Nat.succ_le_of_lt below)
    rw [Nat.succ_mul] at two
    omega

/-- The pixels of a cell are among those of the cells. -/
theorem tile_lt {cell count size rest : Nat} (inside : cell < count) (within : rest < size) :
    cell * size + rest < count * size := by
  have further := Nat.mul_le_mul_right size (Nat.succ_le_of_lt inside)
  rw [Nat.succ_mul] at further
  omega

section Window

variable {window : Window} {page : Nat → Nat → Nat → Nat → π} {raster other : Nat → Nat → π}
  {column row x y : Nat}

/-- A pixel of the window, by the cell that it is in. -/
theorem Window.contains_iff :
    window.rect.Contains x y ↔ ∃ column row dx dy, column < window.columns ∧ row < window.rows ∧
      dx < window.cellWidth ∧ dy < window.cellHeight ∧ x = window.x column dx ∧
        y = window.y row dy := by
  constructor
  · intro contains
    have left : window.left ≤ x := contains.left
    have top : window.top ≤ y := contains.top
    have right : x < window.left + window.columns * window.cellWidth := contains.right
    have bottom : y < window.top + window.rows * window.cellHeight := contains.bottom
    have across := Nat.div_add_mod' (x - window.left) window.cellWidth
    have down := Nat.div_add_mod' (y - window.top) window.cellHeight
    refine ⟨(x - window.left) / window.cellWidth, (y - window.top) / window.cellHeight,
      (x - window.left) % window.cellWidth, (y - window.top) % window.cellHeight, ?_, ?_,
      Nat.mod_lt _ window.width_pos, Nat.mod_lt _ window.height_pos, ?_, ?_⟩
    · exact (Nat.div_lt_iff_lt_mul window.width_pos).mpr (by omega)
    · exact (Nat.div_lt_iff_lt_mul window.height_pos).mpr (by omega)
    · rw [Window.x]
      omega
    · rw [Window.y]
      omega
  · rintro ⟨column, row, dx, dy, insideColumn, insideRow, insideX, insideY, rfl, rfl⟩
    exact ⟨Nat.le_add_right _ _, Nat.add_lt_add_left (tile_lt insideColumn insideX) _,
      Nat.le_add_right _ _, Nat.add_lt_add_left (tile_lt insideRow insideY) _⟩

theorem Window.paint_cell (insideColumn : column < window.columns) (insideRow : row < window.rows)
    (insideX : x < window.cellWidth) (insideY : y < window.cellHeight) :
    window.paint page raster (window.x column x) (window.y row y) = page column row x y := by
  have contains : window.rect.Contains (window.x column x) (window.y row y) :=
    Window.contains_iff.mpr
      ⟨column, row, x, y, insideColumn, insideRow, insideX, insideY, rfl, rfl⟩
  rw [paint, if_pos contains, Window.x, Window.y, Nat.add_sub_cancel_left, Nat.add_sub_cancel_left,
    (div_mod_of_lt insideX).1, (div_mod_of_lt insideX).2, (div_mod_of_lt insideY).1,
    (div_mod_of_lt insideY).2]

theorem Window.paint_of_not_contains (outside : ¬ window.rect.Contains x y) :
    window.paint page raster x y = raster x y :=
  if_neg outside

/-- A raster shows a page when it does so in every cell. -/
theorem Window.eq_paint
    (inside : ∀ column < window.columns, ∀ row < window.rows, ∀ x < window.cellWidth,
      ∀ y < window.cellHeight, other (window.x column x) (window.y row y) = page column row x y)
    (outside : ∀ x y, ¬ window.rect.Contains x y → other x y = raster x y) :
    other = window.paint page raster := by
  funext x y
  by_cases contains : window.rect.Contains x y
  · obtain ⟨column, row, dx, dy, insideColumn, insideRow, insideX, insideY, rfl, rfl⟩ :=
      Window.contains_iff.mp contains
    rw [Window.paint_cell insideColumn insideRow insideX insideY]
    exact inside column insideColumn row insideRow dx insideX dy insideY
  · rw [Window.paint_of_not_contains contains]
    exact outside x y contains

end Window

end HtcLeo.Raster
