import Mathlib.Data.Nat.Count
import HtcLeo.Raster.Core

/-!
# Rows that move together

A table of rows is kept in one array, with the entries of a row side by side.  When some
rows are taken out, each row that stays moves to the place behind the ones before it that
stay.  A pass does so in place: whether a row stays is read off the array itself, while the
rows in front of it are overwritten.
-/

namespace HtcLeo.Grid

universe u v

variable {α : Type u}

/-- An entry of a row and a column. -/
def entry (step : Nat) (table : Nat → α) (row column : Nat) : α :=
  table (row * step + column)

/-- Copy so many entries to another place, which may be in the same array. -/
def copyEntries (count target source : Nat) (table other : Nat → α) : Nat → α :=
  fun place =>
    if target ≤ place ∧ place < target + count then table (source + (place - target))
    else other place

/-- Copy a row to another place. -/
def copyRow (step target source : Nat) (table : Nat → α) : Nat → α :=
  copyEntries step (target * step) (source * step) table table

/-- What is asked about a row depends on no other row. -/
def RowWise {β : Type v} (step : Nat) (ask : (Nat → α) → Nat → β) : Prop :=
  ∀ row table other, (∀ column < step, entry step table row column = entry step other row column) →
    ask table row = ask other row

/-- Each of the first `rows` rows that stays is where the rows before it that stay leave it. -/
def Compacted (step rows : Nat) (kept : Nat → Prop) [DecidablePred kept] (table after : Nat → α) :
    Prop :=
  ∀ row < rows, kept row → ∀ column < step,
    entry step after (Nat.count kept row) column = entry step table row column

section Compact

variable {step row target source column first : Nat} {table now : Nat → α}

theorem entry_copyRow (inside : column < step) :
    entry step (copyRow step target source table) row column =
      if row = target then entry step table source column else entry step table row column := by
  have here := Raster.cell_mem_iff row target 1 inside
  rw [Nat.one_mul] at here
  rw [entry, copyRow, copyEntries]
  by_cases same : row = target
  · rw [if_pos (here.mpr (by omega)), if_pos same, same, Nat.add_sub_cancel_left, entry]
  · rw [if_neg fun within => same (by have bounds := here.mp within; omega), if_neg same, entry]

/-- An array that is changed in one place. -/
theorem entry_update {value : α} {width : Nat} (inside : column < step) (within : width < step) :
    entry step (Function.update table (target * step + width) value) row column =
      if row = target ∧ column = width then value else entry step table row column := by
  rw [entry]
  by_cases same : row = target ∧ column = width
  · rw [if_pos same, same.1, same.2, Function.update_self]
  · rw [if_neg same, Function.update_of_ne, entry]
    intro equal
    have places := @Raster.div_mod_of_lt row step column inside
    have others := @Raster.div_mod_of_lt target step width within
    rw [equal] at places
    exact same ⟨places.1.symm.trans others.1, places.2.symm.trans others.2⟩

/-- The first entries of the first rows come from a table with another length of rows. -/
theorem entry_foldl_copyEntries {count old rows : Nat} {other : Nat → α} (short : count ≤ step)
    (inside : column < step) :
    entry step ((List.range rows).foldl
        (fun table index => copyEntries count (index * step) (index * old) other table) table)
        row column =
      if row < rows ∧ column < count then entry old other row column
      else entry step table row column := by
  induction rows with
  | zero => exact (if_neg fun both => Nat.not_lt_zero _ both.1).symm
  | succ rows ih =>
      rw [List.range_succ, List.foldl_append, List.foldl_cons, List.foldl_nil, entry, copyEntries]
      have bounds : rows * step ≤ row * step + column ∧ row * step + column < rows * step + count ↔
          row = rows ∧ column < count := by
        constructor
        · rintro ⟨low, high⟩
          have here := Raster.cell_mem_iff row rows 1 inside
          rw [Nat.one_mul] at here
          have same := here.mp ⟨low, by omega⟩
          obtain rfl : row = rows := by omega
          exact ⟨rfl, by omega⟩
        · rintro ⟨rfl, low⟩
          omega
      by_cases last : row = rows ∧ column < count
      · rw [if_pos (bounds.mpr last), if_pos ⟨by omega, last.2⟩, last.1, Nat.add_sub_cancel_left,
          entry]
      · rw [if_neg fun within => last (bounds.mp within)]
        refine Eq.trans ih ?_
        have same : row < rows + 1 ∧ column < count ↔ row < rows ∧ column < count := by omega
        simp only [same]

section Count

variable (kept : Nat → Prop) [DecidablePred kept]

/-- Every place is taken by one of the rows that stay. -/
theorem exists_count_eq {rows index : Nat} (inside : index < Nat.count kept rows) :
    ∃ row < rows, kept row ∧ Nat.count kept row = index := by
  induction rows with
  | zero =>
      rw [Nat.count_zero] at inside
      exact absurd inside (Nat.not_lt_zero _)
  | succ rows ih =>
      by_cases before : index < Nat.count kept rows
      · obtain ⟨row, bound, found⟩ := ih before
        exact ⟨row, Nat.lt_succ_of_lt bound, found⟩
      · rw [Nat.count_succ] at inside
        split at inside
        · next last => exact ⟨rows, Nat.lt_succ_self _, last, by omega⟩
        · exact absurd inside before

end Count

/-- The table in the middle of a pass: the rows before `row` that stay are where they belong,
and the others have not been touched. -/
structure Compacting (step row : Nat) (kept : Nat → Prop) [DecidablePred kept]
    (table now : Nat → α) : Prop where
  moved : Compacted step row kept table now
  waiting : ∀ later, row ≤ later → ∀ column < step,
    entry step now later column = entry step table later column

section Pass

variable {kept : Nat → Prop} [DecidablePred kept]

theorem Compacting.drop (pass : Compacting step row kept table now) (gone : ¬ kept row) :
    Compacting step (row + 1) kept table now where
  moved other before stay := by
    rcases Nat.lt_succ_iff_lt_or_eq.mp before with earlier | rfl
    · exact pass.moved other earlier stay
    · exact absurd stay gone
  waiting later beyond := pass.waiting later (Nat.le_of_succ_le beyond)

theorem Compacting.keep (pass : Compacting step row kept table now) (stay : kept row) :
    Compacting step (row + 1) kept table
      (if Nat.count kept row ≠ row then copyRow step (Nat.count kept row) row now else now) := by
  have place : Nat.count kept row ≤ row := Nat.count_le _
  split
  · constructor
    · intro other before staysOther column inside
      rw [entry_copyRow inside]
      rcases Nat.lt_succ_iff_lt_or_eq.mp before with earlier | rfl
      · rw [if_neg (Nat.ne_of_lt (Nat.count_strict_mono staysOther earlier))]
        exact pass.moved other earlier staysOther column inside
      · rw [if_pos rfl]
        exact pass.waiting other (Nat.le_refl _) column inside
    · intro later beyond column inside
      rw [entry_copyRow inside, if_neg (by omega)]
      exact pass.waiting later (Nat.le_of_succ_le beyond) column inside
  · next same =>
      rw [not_not] at same
      constructor
      · intro other before staysOther column inside
        rcases Nat.lt_succ_iff_lt_or_eq.mp before with earlier | rfl
        · exact pass.moved other earlier staysOther column inside
        · rw [same]
          exact pass.waiting other (Nat.le_refl _) column inside
      · exact fun later beyond => pass.waiting later (Nat.le_of_succ_le beyond)

/-- Before the first row that can be taken out, every row is where it belongs. -/
theorem Compacting.start (stay : ∀ row < first, kept row) :
    Compacting step first kept table table where
  moved row before _ column _ := by
    have all : ∀ other < row, kept other := fun other earlier => stay other (by omega)
    rw [Nat.count_of_forall all]
  waiting _ _ _ _ := rfl

/-- A row is asked while it is as it was. -/
theorem Compacting.asks {β : Type v} {ask : (Nat → α) → Nat → β} (rowWise : RowWise step ask)
    (pass : Compacting step row kept table now) : ask now row = ask table row :=
  rowWise row now table (pass.waiting row (Nat.le_refl _))

end Pass

end Compact

end HtcLeo.Grid
