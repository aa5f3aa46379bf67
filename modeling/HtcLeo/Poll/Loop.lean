import HtcLeo.Poll.Core

/-!
# Loops that poll

`loop body` repeats `body` until it produces a final value.  The tape bounds
the number of rounds: a body that draws at least one input in every round that
asks for another one (`Consumes`) can never use more rounds than the tape has
inputs.  For such bodies `loop` satisfies the expected unfolding equation, so
the bound is invisible.
-/

namespace HtcLeo.Poll

universe u v w

variable {ι : Type u} {σ : Type v} {α β : Type w}

/-- At most `rounds` rounds of a loop body. -/
def iterate (body : β → Poll ι σ (β ⊕ α)) : Nat → β → Poll ι σ α
  | 0, _ => fun _ _ => none
  | rounds + 1, start => body start >>= Sum.elim (iterate body rounds) pure

/-- Repeat a body until it produces a final value. -/
def loop (body : β → Poll ι σ (β ⊕ α)) (start : β) : Poll ι σ α :=
  fun state tape => iterate body (tape.length + 1) start state tape

/-- A computation never gives inputs back. -/
def Shrinks (action : Poll ι σ α) : Prop :=
  ∀ ⦃state tape value final rest⦄,
    action state tape = some (value, final, rest) → rest.length ≤ tape.length

/-- Every round that asks for another one draws an input. -/
def Consumes (body : β → Poll ι σ (β ⊕ α)) : Prop :=
  ∀ ⦃start state tape again middle rest⦄,
    body start state tape = some (.inl again, middle, rest) →
      rest.length < tape.length

theorem shrinks_pure (value : α) : Shrinks (pure value : Poll ι σ α) := by
  intro state tape _ final rest returned
  cases returned
  exact Nat.le_refl _

theorem shrinks_modify (change : σ → σ) :
    Shrinks (modify change : Poll ι σ PUnit) := by
  intro state tape _ final rest returned
  cases returned
  exact Nat.le_refl _

theorem shrinks_get {σ : Type w} : Shrinks (get : Poll ι σ σ) := by
  intro state tape _ final rest returned
  cases returned
  exact Nat.le_refl _

theorem shrinks_bind {first : Poll ι σ α} {next : α → Poll ι σ β}
    (firstShrinks : Shrinks first) (nextShrinks : ∀ value, Shrinks (next value)) :
    Shrinks (first >>= next) := by
  intro state tape value final rest returned
  rcases bind_eq_some_iff.mp returned with ⟨_, _, _, firstReturned, nextReturned⟩
  exact Nat.le_trans (nextShrinks _ nextReturned) (firstShrinks firstReturned)

theorem shrinks_ite {c : Prop} [Decidable c] {yes no : Poll ι σ α} (yesShrinks : Shrinks yes)
    (noShrinks : Shrinks no) : Shrinks (if c then yes else no) := by
  split
  · exact yesShrinks
  · exact noShrinks

/-- A computation that draws at least one input. -/
def Draws (action : Poll ι σ α) : Prop :=
  ∀ ⦃state tape value final rest⦄,
    action state tape = some (value, final, rest) → rest.length < tape.length

theorem draws_next : Draws (next : Poll ι σ ι) := by
  intro state tape value final rest returned
  rcases next_eq_some_iff.mp returned with ⟨_, _, rfl, result_eq⟩
  cases result_eq
  exact Nat.lt_succ_self _

theorem Draws.bind {first : Poll ι σ α} {next : α → Poll ι σ β} (draws : Draws first)
    (nextShrinks : ∀ value, Shrinks (next value)) : Draws (first >>= next) := by
  intro state tape value final rest returned
  rcases bind_eq_some_iff.mp returned with ⟨_, _, _, firstReturned, nextReturned⟩
  exact Nat.lt_of_le_of_lt (nextShrinks _ nextReturned) (draws firstReturned)

/-- For a consuming body any bound above the tape's length gives the loop. -/
theorem iterate_eq_loop {body : β → Poll ι σ (β ⊕ α)} (consumes : Consumes body)
    {rounds : Nat} {tape : List ι} (enough : tape.length < rounds) (start : β)
    (state : σ) : iterate body rounds start state tape = loop body start state tape := by
  -- Induction on the bound; each further round works on a strictly shorter tape.
  have agree : ∀ (more fewer : Nat) (tape : List ι), tape.length < fewer → fewer ≤ more →
      ∀ (start : β) (state : σ),
        iterate body more start state tape = iterate body fewer start state tape := by
    intro more
    induction more with
    | zero => intro fewer tape below le; omega
    | succ more ih =>
        intro fewer tape below le start state
        cases fewer with
        | zero => omega
        | succ fewer =>
            rw [iterate, iterate]
            cases round : body start state tape with
            | none => rw [bind_of_eq_none round, bind_of_eq_none round]
            | some result =>
                rcases result with ⟨again | value, middle, rest⟩
                · have shorter := consumes round
                  rw [bind_of_eq_some round, bind_of_eq_some round]
                  exact ih fewer rest (by omega) (by omega) again middle
                · rw [bind_of_eq_some round, bind_of_eq_some round]
                  rfl
  exact agree rounds (tape.length + 1) tape (Nat.lt_succ_self _) enough start state

/-- The last round of a loop. -/
theorem loop_of_done {body : β → Poll ι σ (β ⊕ α)} {start : β} {value : α}
    {state final : σ} {tape rest : List ι}
    (round : body start state tape = some (.inr value, final, rest)) :
    loop body start state tape = some (value, final, rest) := by
  rw [loop, iterate, bind_of_eq_some round]
  rfl

/-- A loop whose next round never returns does not return. -/
theorem loop_of_waiting {body : β → Poll ι σ (β ⊕ α)} {start : β} {state : σ}
    {tape : List ι} (round : body start state tape = none) :
    loop body start state tape = none := by
  rw [loop, iterate, bind_of_eq_none round]

/-- Unfolding equation of `loop`. -/
theorem loop_eq {body : β → Poll ι σ (β ⊕ α)} (consumes : Consumes body) (start : β) :
    loop body start = body start >>= Sum.elim (loop body) pure := by
  funext state tape
  cases round : body start state tape with
  | none => rw [loop_of_waiting round, bind_of_eq_none round]
  | some result =>
      rcases result with ⟨again | value, middle, rest⟩
      · rw [loop, iterate, bind_of_eq_some round, bind_of_eq_some round]
        exact iterate_eq_loop consumes (consumes round) again middle
      · rw [loop_of_done round, bind_of_eq_some round]
        rfl

/-- One round of a loop that goes on. -/
theorem loop_of_again {body : β → Poll ι σ (β ⊕ α)} (consumes : Consumes body)
    {start again : β} {state middle : σ} {tape rest : List ι}
    (round : body start state tape = some (.inl again, middle, rest)) :
    loop body start state tape = loop body again middle rest := by
  rw [loop_eq consumes, bind_of_eq_some round]
  rfl

end HtcLeo.Poll
