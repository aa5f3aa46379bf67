import HtcLeo.Tetris.Fields

/-!
# Removing lines

The scan of `checkAndRemoveLines` goes through the rows of the board as they were, one in
every round, although its index stays where a row is removed.  It ends above the first
visible row, and leaves the rows collapsed.
-/

namespace HtcLeo.Tetris

open Grid Fields

/-- No field of the row is empty. -/
abbrev FullRow (row : Int → U8) : Prop := lineWasFull row = true

/-- The last row of the board. -/
def lastRow : Int := BOARD_HEIGHT - 1

/-- The number of full rows below a row. -/
abbrev linesBelow (grid : Grid) (y : Int) : Nat := fullBelow FullRow lastRow grid y

/-- The full rows of the board are taken out. -/
abbrev LinesRemoved (grid after : Grid) : Prop :=
  Collapsed FullRow lastRow INVISIBLE_ROWS_COUNT grid after

/-- The number of full rows of the board. -/
def lineCount (grid : Grid) : Nat := linesBelow grid (INVISIBLE_ROWS_COUNT - 1)

/-- Nothing but visible fields are in use. -/
def OnlyVisible (grid : Grid) : Prop :=
  ∀ y x, grid y x ≠ EMPTY_FIELD →
    (⟨x, y⟩ : Point).Inside ∧ y ≥ INVISIBLE_ROWS_COUNT

section Removal

variable {grid : Grid} {fields : Fields} {s y : Int} {rounds i counter : Nat}

theorem OnlyVisible.row_eq (visible : OnlyVisible grid) (above : y < INVISIBLE_ROWS_COUNT) :
    grid y = fun _ => EMPTY_FIELD := by
  funext x
  by_contra used
  exact absurd (visible y x used).2 (Int.not_le.mpr above)

theorem blank_not_full : ¬ FullRow fun _ => EMPTY_FIELD := by
  decide

theorem OnlyVisible.visible_of_full (visible : OnlyVisible grid) (taken : FullRow (grid y)) :
    y ≥ INVISIBLE_ROWS_COUNT := by
  by_contra above
  rw [visible.row_eq (Int.not_le.mp above)] at taken
  exact blank_not_full taken

/-- Above the visible rows there is none to count. -/
theorem OnlyVisible.linesBelow_eq (visible : OnlyVisible grid) (y : Int)
    (above : y < INVISIBLE_ROWS_COUNT) : linesBelow grid y = lineCount grid := by
  have two : y < (2 : Int) := above
  have last : lastRow = 21 := rfl
  have rows : (lastRow - y).toNat = 20 + (1 - y).toNat := by omega
  have none : Nat.count (fun k => FullRow (grid (lastRow - (20 + k : Nat)))) (1 - y).toNat = 0 := by
    rw [Nat.count_iff_forall_not]
    intro k _ taken
    have low : (2 : Int) ≤ lastRow - (20 + k : Nat) := visible.visible_of_full taken
    omega
  rw [linesBelow, fullBelow, rows, Nat.count_add, none, Nat.add_zero]
  rfl

/-- Only visible rows are full. -/
theorem OnlyVisible.linesBelow_le (visible : OnlyVisible grid) (y : Int) :
    linesBelow grid y ≤ 20 := by
  have last : lastRow = 21 := rfl
  by_cases above : y < INVISIBLE_ROWS_COUNT
  · rw [visible.linesBelow_eq y above]
    exact Nat.count_le _
  · have low : (2 : Int) ≤ y := Int.not_lt.mp above
    have few : linesBelow grid y ≤ (lastRow - y).toNat := Nat.count_le _
    omega

/-- A removal keeps the fields that are not visible empty. -/
theorem OnlyVisible.shifted (visible : OnlyVisible fields.cells)
    (inside : (i : Int) < BOARD_HEIGHT) :
    OnlyVisible (shiftRows i (blackenRow i fields)).cells := by
  intro y x used
  rw [shiftRows_blackenRow inside] at used
  dsimp only at used
  split at used
  · rename_i moved
    have column := mem_columns.mp moved.1.2
    have low : (2 : Int) ≤ y := moved.2
    exact ⟨⟨column, (by omega : 0 ≤ y), Int.lt_of_le_of_lt moved.1.1 inside⟩, moved.2⟩
  · exact visible y x used

/-- The rows up to `i` move down by one. -/
theorem shifted_row (visible : OnlyVisible fields.cells) (inside : (i : Int) < BOARD_HEIGHT)
    (low : INVISIBLE_ROWS_COUNT ≤ y) (high : y ≤ i) :
    (shiftRows i (blackenRow i fields)).cells y = fields.cells (y - 1) := by
  funext x
  rw [shiftRows_blackenRow inside]
  dsimp only
  split
  · rfl
  · rename_i still
    have out : x ∉ columns := fun column => still ⟨⟨high, column⟩, low⟩
    have empty (r : Int) : fields.cells r x = EMPTY_FIELD := by
      by_contra used
      exact out (mem_columns.mpr (visible r x used).1.1)
    rw [empty, empty]

theorem shifted_row_of_out (inside : (i : Int) < BOARD_HEIGHT)
    (out : y < INVISIBLE_ROWS_COUNT ∨ (i : Int) < y) :
    (shiftRows i (blackenRow i fields)).cells y = fields.cells y := by
  funext x
  rw [shiftRows_blackenRow inside]
  refine if_neg fun moved => ?_
  have low := moved.2
  have high := moved.1.1
  omega

/-- The place of row `s` in the middle of the scan. -/
theorem index_lt (inside : s ≤ lastRow) (index : (i : Int) = s + linesBelow grid s) :
    (i : Int) < BOARD_HEIGHT := by
  have within : s + linesBelow grid s ≤ lastRow := add_fullBelow_le inside
  exact Int.lt_of_le_sub_one (index.trans_le within)

/-- One full row is removed. -/
theorem remove_shifted (visible : OnlyVisible grid) (now : OnlyVisible fields.cells)
    (scan : Collapsing FullRow lastRow INVISIBLE_ROWS_COUNT grid fields.cells s)
    (inside : s ≤ lastRow) (index : (i : Int) = s + linesBelow grid s)
    (taken : FullRow (grid s)) :
    Collapsing FullRow lastRow INVISIBLE_ROWS_COUNT grid
      (shiftRows i (blackenRow i fields)).cells (s - 1) := by
  have high := index_lt inside index
  have hidden : ∀ r < INVISIBLE_ROWS_COUNT, ∀ r' < INVISIBLE_ROWS_COUNT, grid r = grid r' := by
    intro r above r' above'
    rw [visible.row_eq above, visible.row_eq above']
  have moved : ∀ r, INVISIBLE_ROWS_COUNT ≤ r → r ≤ s + linesBelow grid s →
      (shiftRows i (blackenRow i fields)).cells r = fields.cells (r - 1) :=
    fun r above below => shifted_row now high above (Int.le_trans below index.ge)
  have others : ∀ r, r < INVISIBLE_ROWS_COUNT ∨ s + linesBelow grid s < r →
      (shiftRows i (blackenRow i fields)).cells r = fields.cells r :=
    fun r out => shifted_row_of_out high (out.imp_right fun below => index.trans_lt below)
  exact scan.remove inside taken hidden moved others

/-- From any row on, the loop ends with the rows collapsed, and counts the full rows. -/
theorem removeLoop_spec (visible : OnlyVisible grid) (now : OnlyVisible fields.cells)
    (scan : Collapsing FullRow lastRow INVISIBLE_ROWS_COUNT grid fields.cells s)
    (inside : s ≤ lastRow) (index : (i : Int) = s + linesBelow grid s) (reached : 1 ≤ i)
    (counted : counter = linesBelow grid s) (enough : s + 20 ≤ rounds) :
    ∃ after, removeLoop rounds i counter fields = some (after, lineCount grid) ∧
      LinesRemoved grid after.cells ∧ OnlyVisible after.cells ∧ after.fault = fields.fault := by
  induction rounds generalizing s i counter fields with
  | zero =>
      have few := visible.linesBelow_le s
      omega
  | succ rounds ih =>
      rw [removeLoop]
      split
      · rename_i low
        have high := index_lt inside index
        have row : fields.cells i = grid s := by
          rw [scan.waiting i low (Int.le_of_eq index), index, Int.add_sub_cancel]
        rw [row]
        split
        · -- the index stays, and the row above has come down to it
          rename_i taken
          have more : linesBelow grid (s - 1) = linesBelow grid s + 1 := by
            rw [linesBelow, fullBelow_pred inside, if_pos taken]
          have counted' : counter + 1 = linesBelow grid (s - 1) := by omega
          obtain ⟨after, returned, removed⟩ := ih (now.shifted high)
            (remove_shifted visible now scan inside index taken) (by omega) (by omega) reached
            counted' (by omega)
          rw [shiftRows_blackenRow high] at removed
          exact ⟨after, returned, removed⟩
        · rename_i room
          have same : linesBelow grid (s - 1) = linesBelow grid s := by
            rw [linesBelow, fullBelow_pred inside, if_neg room, Nat.add_zero]
          have two : (2 : Int) ≤ i := low
          have placed : INVISIBLE_ROWS_COUNT ≤ s + linesBelow grid s := Int.le_trans low index.le
          exact ih now (scan.keep inside placed room) (by omega) (by omega) (by omega)
            (by omega) (by omega)
      · rename_i high
        have past : s + linesBelow grid s < INVISIBLE_ROWS_COUNT := by omega
        refine ⟨fields, ?_, scan.collapsed past, now, rfl⟩
        rw [counted, visible.linesBelow_eq s (by omega)]

theorem removeLoop_eq (visible : OnlyVisible fields.cells) :
    ∃ after, removeLoop (2 * BOARD_HEIGHT.toNat) (BOARD_HEIGHT.toNat - 1) 0 fields =
        some (after, lineCount fields.cells) ∧
      LinesRemoved fields.cells after.cells ∧ OnlyVisible after.cells ∧
      after.fault = fields.fault := by
  have none : linesBelow fields.cells lastRow = 0 := fullBelow_bottom
  refine removeLoop_spec visible visible (.start fields.cells) (Int.le_refl _) ?_ (by decide)
    none.symm (by decide)
  rw [none]
  rfl

end Removal

end HtcLeo.Tetris
