import Mathlib.Data.List.Basic

/-!
# Polling computations

A driver that waits for its device reads inputs it cannot choose, and may wait
for ever.  `Poll ι σ α` is a computation on a state `σ` that draws its inputs
from a finite tape of type `List ι`; the result is `none` exactly when the
computation is still waiting at the end of the tape.  A run that returns has
used a finite prefix of its inputs, so quantifying over finite tapes loses no
terminating run.

Nothing here depends on a particular device.
-/

namespace HtcLeo

universe u v w x

/-- A computation with state `σ` that polls inputs of type `ι`. -/
def Poll (ι : Type u) (σ : Type v) (α : Type w) : Type (max u v w) :=
  σ → List ι → Option (α × σ × List ι)

namespace Poll

variable {ι : Type u} {σ : Type v} {α β γ : Type w}

/-- Return a value without touching the state or the tape. -/
protected def pure (value : α) : Poll ι σ α :=
  fun state tape => some (value, state, tape)

/-- Run the first computation, then continue where it left the state and tape. -/
protected def bind (first : Poll ι σ α) (next : α → Poll ι σ β) : Poll ι σ β :=
  fun state tape =>
    (first state tape).bind fun result => next result.1 result.2.1 result.2.2

instance : Monad (Poll ι σ) where
  pure := Poll.pure
  bind := Poll.bind

@[simp]
theorem pure_apply (value : α) (state : σ) (tape : List ι) :
    (pure value : Poll ι σ α) state tape = some (value, state, tape) :=
  rfl

theorem bind_apply (first : Poll ι σ α) (next : α → Poll ι σ β) (state : σ)
    (tape : List ι) :
    (first >>= next) state tape =
      (first state tape).bind fun result => next result.1 result.2.1 result.2.2 :=
  rfl

/-- The computation once its first part is known to have returned. -/
theorem bind_of_eq_some {first : Poll ι σ α} {next : α → Poll ι σ β}
    {state middle : σ} {tape rest : List ι} {value : α}
    (returned : first state tape = some (value, middle, rest)) :
    (first >>= next) state tape = next value middle rest := by
  rw [bind_apply, returned]
  rfl

theorem bind_of_eq_none {first : Poll ι σ α} {next : α → Poll ι σ β}
    {state : σ} {tape : List ι} (waiting : first state tape = none) :
    (first >>= next) state tape = none := by
  rw [bind_apply, waiting]
  rfl

/-- A sequence returns exactly when both of its parts do. -/
theorem bind_eq_some_iff {first : Poll ι σ α} {next : α → Poll ι σ β}
    {state : σ} {tape : List ι} {result : β × σ × List ι} :
    (first >>= next) state tape = some result ↔
      ∃ value middle rest,
        first state tape = some (value, middle, rest) ∧
          next value middle rest = some result := by
  rw [bind_apply, Option.bind_eq_some_iff]
  constructor
  · rintro ⟨⟨value, middle, rest⟩, returned, continued⟩
    exact ⟨value, middle, rest, returned, continued⟩
  · rintro ⟨value, middle, rest, returned, continued⟩
    exact ⟨(value, middle, rest), returned, continued⟩

theorem bind_assoc (first : Poll ι σ α) (next : α → Poll ι σ β)
    (last : β → Poll ι σ γ) :
    first >>= next >>= last = first >>= fun value => next value >>= last := by
  funext state tape
  cases returned : first state tape with
  | none => rw [bind_of_eq_none (bind_of_eq_none returned), bind_of_eq_none returned]
  | some result =>
      rw [bind_of_eq_some returned, bind_apply, bind_of_eq_some returned]
      rfl

@[simp]
theorem pure_bind (value : α) (next : α → Poll ι σ β) :
    (pure value >>= next) = next value :=
  rfl

/-! ## Primitive steps -/

/-- Wait for the next input. -/
def next : Poll ι σ ι
  | _, [] => none
  | state, input :: tape => some (input, state, tape)

/-- The current state. -/
def get : Poll ι σ σ :=
  fun state tape => some (state, state, tape)

/-- Change the state without waiting. -/
def modify (change : σ → σ) : Poll ι σ PUnit :=
  fun state tape => some (⟨⟩, change state, tape)

@[simp]
theorem next_nil (state : σ) : (next : Poll ι σ ι) state [] = none :=
  rfl

@[simp]
theorem next_cons (state : σ) (input : ι) (tape : List ι) :
    next state (input :: tape) = some (input, state, tape) :=
  rfl

@[simp]
theorem get_apply (state : σ) (tape : List ι) :
    (get : Poll ι σ σ) state tape = some (state, state, tape) :=
  rfl

@[simp]
theorem modify_apply (change : σ → σ) (state : σ) (tape : List ι) :
    (modify change : Poll ι σ PUnit) state tape = some (⟨⟩, change state, tape) :=
  rfl

@[simp]
theorem get_bind_apply {σ : Type w} (next : σ → Poll ι σ α) (state : σ) (tape : List ι) :
    (get >>= next) state tape = next state state tape :=
  rfl

@[simp]
theorem modify_bind_apply {ι : Type u} {σ : Type v} {α : Type w} (change : σ → σ)
    (next : PUnit → Poll ι σ α) (state : σ) (tape : List ι) :
    (modify change >>= next) state tape = next ⟨⟩ (change state) tape :=
  rfl

theorem next_eq_some_iff {state : σ} {tape : List ι} {result : ι × σ × List ι} :
    next state tape = some result ↔ ∃ input rest,
      tape = input :: rest ∧ result = (input, state, rest) := by
  cases tape with
  | nil => simp
  | cons input rest =>
      simp only [next_cons, Option.some.injEq, List.cons.injEq]
      constructor
      · rintro rfl
        exact ⟨input, rest, ⟨rfl, rfl⟩, rfl⟩
      · rintro ⟨_, _, ⟨rfl, rfl⟩, rfl⟩
        rfl

/-! ## Running inside a larger state -/

/-- Run a computation on a part of a larger state. -/
def zoom {τ : Type x} (part : τ → σ) (replace : σ → τ → τ) (action : Poll ι σ α) :
    Poll ι τ α :=
  fun state tape =>
    (action (part state) tape).map fun result =>
      (result.1, replace result.2.1 state, result.2.2)

theorem zoom_eq_some_iff {τ : Type x} {part : τ → σ} {replace : σ → τ → τ}
    {action : Poll ι σ α} {state final : τ} {tape rest : List ι} {value : α} :
    zoom part replace action state tape = some (value, final, rest) ↔
      ∃ inner, action (part state) tape = some (value, inner, rest) ∧
        final = replace inner state := by
  simp only [zoom, Option.map_eq_some_iff, Prod.mk.injEq]
  constructor
  · rintro ⟨⟨_, inner, _⟩, returned, rfl, rfl, rfl⟩
    exact ⟨inner, returned, rfl⟩
  · rintro ⟨inner, returned, rfl⟩
    exact ⟨(value, inner, rest), returned, rfl, rfl, rfl⟩

end Poll

end HtcLeo
