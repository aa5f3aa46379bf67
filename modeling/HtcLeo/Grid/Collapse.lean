import Mathlib.Data.Nat.Count

/-!
# Rows that collapse

Rows are numbered downwards.  When the full rows are taken out of a stack of rows, every
other row sinks by the number of full rows below it.  A scan does so from the bottom: it
takes out a row by moving the rows above it down by one, and then looks at the same place
again.
-/

namespace HtcLeo.Grid

universe u

variable {ρ : Type u} (full : ρ → Prop) [DecidablePred full] (bottom : Int)

/-- The number of full rows below a row, counted from the bottom. -/
def fullBelow (rows : Int → ρ) (r : Int) : Nat :=
  Nat.count (fun k => full (rows (bottom - k))) (bottom - r).toNat

/-- What is left of `rows` after the full ones from `top` on are taken out. -/
structure Collapsed (top : Int) (rows after : Int → ρ) : Prop where
  sunk : ∀ r, top ≤ r → r ≤ bottom → ¬ full (rows r) →
    after (r + fullBelow full bottom rows r) = rows r
  only : ∀ r, top ≤ r → r ≤ bottom → ∃ s ≤ bottom, ¬ full (rows s) ∧
    r = s + fullBelow full bottom rows s ∧ after r = rows s
  outside : ∀ r, r < top ∨ bottom < r → after r = rows r

/-- The rows in the middle of a scan: those behind `s` are where they belong, and those up
to `s` have moved down by the number of full rows that were taken out. -/
structure Collapsing (top : Int) (rows now : Int → ρ) (s : Int) : Prop where
  waiting : ∀ r, top ≤ r → r ≤ s + fullBelow full bottom rows s →
    now r = rows (r - fullBelow full bottom rows s)
  sunk : ∀ r, s < r → r ≤ bottom → ¬ full (rows r) →
    now (r + fullBelow full bottom rows r) = rows r
  only : ∀ r, s + fullBelow full bottom rows s < r → r ≤ bottom → ∃ source, s < source ∧
    source ≤ bottom ∧ ¬ full (rows source) ∧ r = source + fullBelow full bottom rows source
  outside : ∀ r, r < top ∨ bottom < r → now r = rows r

section Scan

variable {full bottom} {top s : Int} {rows now next : Int → ρ}

theorem fullBelow_bottom : fullBelow full bottom rows bottom = 0 := by
  rw [fullBelow, Int.sub_self, Int.toNat_zero, Nat.count_zero]

/-- One row further up. -/
theorem fullBelow_pred (inside : s ≤ bottom) :
    fullBelow full bottom rows (s - 1) =
      fullBelow full bottom rows s + if full (rows s) then 1 else 0 := by
  have further : (bottom - (s - 1)).toNat = (bottom - s).toNat + 1 := by omega
  have here : bottom - ((bottom - s).toNat : Int) = s := by omega
  rw [fullBelow, further, Nat.count_succ, here, fullBelow]

/-- Rows do not sink below the bottom. -/
theorem add_fullBelow_le (inside : s ≤ bottom) : s + fullBelow full bottom rows s ≤ bottom := by
  have few : fullBelow full bottom rows s ≤ (bottom - s).toNat := Nat.count_le _
  omega

theorem Collapsing.start (rows : Int → ρ) : Collapsing full bottom top rows rows bottom where
  waiting r _ _ := by rw [fullBelow_bottom, Int.natCast_zero, Int.sub_zero]
  sunk r below inside := absurd below (Int.not_lt.mpr inside)
  only r below inside := by
    rw [fullBelow_bottom] at below
    omega
  outside _ _ := rfl

/-- A row that is not full is where it belongs. -/
theorem Collapsing.keep (scan : Collapsing full bottom top rows now s) (inside : s ≤ bottom)
    (placed : top ≤ s + fullBelow full bottom rows s) (room : ¬ full (rows s)) :
    Collapsing full bottom top rows now (s - 1) := by
  have same : fullBelow full bottom rows (s - 1) = fullBelow full bottom rows s := by
    rw [fullBelow_pred inside, if_neg room, Nat.add_zero]
  constructor
  · intro r above below
    rw [same] at below ⊢
    exact scan.waiting r above (by omega)
  · intro r below within partly
    rcases Int.lt_or_eq_of_le (Int.le_of_sub_one_lt below) with further | rfl
    · exact scan.sunk r further within partly
    · rw [scan.waiting _ placed (Int.le_refl _), Int.add_sub_cancel]
  · intro r below within
    rw [same] at below
    by_cases further : s + fullBelow full bottom rows s < r
    · obtain ⟨source, past, found⟩ := scan.only r further within
      exact ⟨source, by omega, found⟩
    · exact ⟨s, by omega, inside, room, by omega⟩
  · exact scan.outside

/-- A row that is not full ends up below all that was above it. -/
theorem add_fullBelow_lt {r : Int} (above : s < r) (inside : r ≤ bottom) (room : ¬ full (rows r)) :
    s + fullBelow full bottom rows s < r + fullBelow full bottom rows r := by
  obtain ⟨distance, rfl⟩ : ∃ distance : Nat, s = r - 1 - distance := ⟨(r - 1 - s).toNat, by omega⟩
  clear above
  induction distance with
  | zero =>
      rw [Int.natCast_zero, Int.sub_zero, fullBelow_pred inside, if_neg room]
      omega
  | succ distance ih =>
      have step : r - 1 - (distance + 1 : Nat) = r - 1 - distance - 1 := by omega
      rw [step, fullBelow_pred (by omega)]
      split <;> omega

/-- A full row is taken out: the rows above it move down, and the scan stays. -/
theorem Collapsing.remove (scan : Collapsing full bottom top rows now s) (inside : s ≤ bottom)
    (taken : full (rows s)) (hidden : ∀ r < top, ∀ r' < top, rows r = rows r')
    (moved : ∀ r, top ≤ r → r ≤ s + fullBelow full bottom rows s → next r = now (r - 1))
    (others : ∀ r, r < top ∨ s + fullBelow full bottom rows s < r → next r = now r) :
    Collapsing full bottom top rows next (s - 1) := by
  have more : (fullBelow full bottom rows (s - 1) : Int) = fullBelow full bottom rows s + 1 := by
    rw [fullBelow_pred inside, if_pos taken, Int.natCast_add, Int.natCast_one]
  have place : s - 1 + fullBelow full bottom rows (s - 1) = s + fullBelow full bottom rows s := by
    omega
  constructor
  · intro r above below
    rw [place] at below
    rw [moved r above below, more]
    by_cases higher : top ≤ r - 1
    · rw [scan.waiting (r - 1) higher (by omega)]
      exact congrArg rows (by omega)
    · rw [scan.outside (r - 1) (.inl (Int.not_le.mp higher))]
      exact hidden _ (by omega) _ (by omega)
  · intro r below within partly
    rcases Int.lt_or_eq_of_le (Int.le_of_sub_one_lt below) with further | rfl
    · rw [others _ (.inr (add_fullBelow_lt further within partly))]
      exact scan.sunk r further within partly
    · exact absurd taken partly
  · intro r below within
    rw [place] at below
    obtain ⟨source, past, found⟩ := scan.only r below within
    exact ⟨source, by omega, found⟩
  · intro r out
    have inBottom := @add_fullBelow_le ρ full _ bottom s rows inside
    rw [others r (by omega)]
    exact scan.outside r out

/-- When the scan has passed the top, the rows have collapsed. -/
theorem Collapsing.collapsed (scan : Collapsing full bottom top rows now s)
    (past : s + fullBelow full bottom rows s < top) : Collapsed full bottom top rows now := by
  constructor
  · intro r above within partly
    exact scan.sunk r (by omega) within partly
  · intro r above within
    obtain ⟨source, past, reaches, partly, rfl⟩ := scan.only r (by omega) within
    exact ⟨source, reaches, partly, rfl, scan.sunk source past reaches partly⟩
  · exact scan.outside

end Scan

end HtcLeo.Grid
