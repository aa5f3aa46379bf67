import Mathlib.Data.List.Induction

/-!
# Runs of a labelled transition relation

A run is the list of its steps, each with the states on both sides, so that a
property of a step can speak about what the step changed.
-/

namespace HtcLeo.Transition

universe u v

variable {σ : Type u} {ι : Type v}

/-- One step: what happened, and the states before and after it. -/
structure Step (σ : Type u) (ι : Type v) where
  before : σ
  label : ι
  after : σ
  deriving DecidableEq, Repr

/-- `Run R start steps`: the steps follow each other from `start`. -/
inductive Run (R : σ → ι → σ → Prop) : σ → List (Step σ ι) → Prop
  | nil (start : σ) : Run R start []
  | cons {start after : σ} {label : ι} {rest : List (Step σ ι)} :
      R start label after → Run R after rest → Run R start (⟨start, label, after⟩ :: rest)

variable {R : σ → ι → σ → Prop} {start : σ} {steps : List (Step σ ι)}

/-- A run is good exactly when it is fine: from an invariant state the two agree
on one step, and a good step keeps the invariant. -/
theorem Run.forall_iff {I : σ → Prop} {good fine : Step σ ι → Prop}
    (run : Run R start steps) (initial : I start)
    (agree : ∀ before label after, I before → R before label after →
      (good ⟨before, label, after⟩ ↔ fine ⟨before, label, after⟩))
    (kept : ∀ before label after, I before → R before label after →
      good ⟨before, label, after⟩ → I after) :
    (∀ t ∈ steps, good t) ↔ ∀ t ∈ steps, fine t := by
  induction run with
  | nil => simp
  | cons moved _ ih =>
      rw [List.forall_mem_cons, List.forall_mem_cons, ← agree _ _ _ initial moved]
      exact and_congr_right fun holds => ih (kept _ _ _ initial moved holds)

/-- What every step from an invariant state does, every step of a run does. -/
theorem Run.forall_of_kept {I : σ → Prop} {good : Step σ ι → Prop}
    (run : Run R start steps) (initial : I start)
    (kept : ∀ before label after, I before → R before label after →
      good ⟨before, label, after⟩ ∧ I after) : ∀ t ∈ steps, good t := by
  induction run with
  | nil => exact fun _ member => absurd member List.not_mem_nil
  | cons moved _ ih =>
      have moves := kept _ _ _ initial moved
      exact List.forall_mem_cons.mpr ⟨moves.1, ih moves.2⟩

/-! ## Runs of a function -/

/-- The steps that a function takes from a start, label by label. -/
def trace (next : σ → ι → σ) : σ → List ι → List (Step σ ι)
  | _, [] => []
  | start, label :: rest =>
      ⟨start, label, next start label⟩ :: trace next (next start label) rest

theorem run_trace {next : σ → ι → σ} {labels : List ι}
    (allowed : ∀ t ∈ trace next start labels, R t.before t.label t.after) :
    Run R start (trace next start labels) := by
  induction labels generalizing start with
  | nil => exact .nil start
  | cons label rest ih =>
      rw [trace, List.forall_mem_cons] at allowed
      exact .cons allowed.1 (ih allowed.2)

/-- A function takes its own steps. -/
theorem run_trace_self (next : σ → ι → σ) (start : σ) (labels : List ι) :
    Run (fun before label after => after = next before label) start
      (trace next start labels) := by
  induction labels generalizing start with
  | nil => exact .nil start
  | cons label rest ih => exact .cons rfl (ih _)

/-! ## What the last step left -/

/-- Where every step sets what is observed or leaves it alone, the last one that sets it
decides. -/
theorem observe_foldl {α : Type u} {next : σ → ι → σ} {observe : σ → α} {set? : ι → Option α}
    (each : ∀ state label, observe (next state label) = (set? label).getD (observe state))
    (labels : List ι) (start : σ) :
    observe (labels.foldl next start) =
      (labels.filterMap set?).getLast?.getD (observe start) := by
  induction labels using List.reverseRecOn with
  | nil => rfl
  | append_singleton labels label ih =>
      rw [List.foldl_append, List.foldl_cons, List.foldl_nil, each, ih, List.filterMap_append]
      cases set : set? label with
      | none => simp [set]
      | some value => simp [set]

end HtcLeo.Transition
