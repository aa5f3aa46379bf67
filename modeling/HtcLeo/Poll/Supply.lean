import HtcLeo.Poll.Loop

/-!
# Computations that return

How far a computation gets depends on the inputs it is waiting for.  `Within supply n
action` says that `action` returns on every tape whose supply of such inputs is at least
`n`, and uses up at most `n` of it.
-/

namespace HtcLeo.Poll

universe u v w

variable {ι : Type u} {σ : Type v} {α β : Type w} {supply : List ι → Nat} {m n : Nat}

/-- The computation returns if the tape can supply `n`, and leaves the rest. -/
def Within (supply : List ι → Nat) (n : Nat) (action : Poll ι σ α) : Prop :=
  ∀ ⦃state tape⦄, n ≤ supply tape → ∃ value final rest,
    action state tape = some (value, final, rest) ∧ supply tape ≤ supply rest + n

theorem within_pure (value : α) : Within supply 0 (pure value : Poll ι σ α) :=
  fun state tape _ => ⟨value, state, tape, rfl, Nat.le_refl _⟩

theorem within_modify (change : σ → σ) :
    Within supply 0 (modify change : Poll ι σ PUnit) :=
  fun state tape _ => ⟨⟨⟩, change state, tape, rfl, Nat.le_refl _⟩

theorem Within.mono {action : Poll ι σ α} (within : Within supply m action) (le : m ≤ n) :
    Within supply n action := by
  intro state tape enough
  rcases @within state tape (Nat.le_trans le enough) with ⟨value, final, rest, returned, left⟩
  exact ⟨value, final, rest, returned, by omega⟩

theorem Within.bind {first : Poll ι σ α} {next : α → Poll ι σ β}
    (firstWithin : Within supply m first) (nextWithin : ∀ value, Within supply n (next value)) :
    Within supply (m + n) (first >>= next) := by
  intro state tape enough
  rcases @firstWithin state tape (by omega) with
    ⟨value, middle, rest, returned, left⟩
  rcases @nextWithin value middle rest (by omega) with
    ⟨result, final, remaining, continued, leftOver⟩
  exact ⟨result, final, remaining, by rw [bind_of_eq_some returned, continued], by omega⟩

/-- Wait as long as the inputs say so, where the tape supplies inputs that do not. -/
theorem within_wait {ι : Type} {again good : ι → Bool}
    (ends : ∀ input, good input = true → again input = false) :
    Within (List.countP good) 1
      (loop (fun _ => next >>= fun input =>
        pure (if again input then .inl () else .inr ())) () : Poll ι σ Unit) := by
  intro state tape enough
  have consumes : Consumes fun _ : Unit =>
      (next >>= fun input => pure (if again input then .inl () else .inr ()) :
        Poll ι σ (Unit ⊕ Unit)) :=
    fun _ _ _ _ _ _ returned => draws_next.bind (fun _ => shrinks_pure _) returned
  induction tape with
  | nil => exact absurd enough (Nat.not_succ_le_zero 0)
  | cons input rest ih =>
      cases goesOn : again input with
      | false =>
          refine ⟨(), state, rest, loop_of_done ?_, ?_⟩
          · rw [bind_of_eq_some (next_cons _ _ _), goesOn]
            rfl
          · rw [List.countP_cons]
            split <;> omega
      | true =>
          have bad : ¬ good input = true := fun passed =>
            Bool.false_ne_true ((ends input passed).symm.trans goesOn)
          rw [List.countP_cons_of_neg bad] at enough ⊢
          rcases ih enough with ⟨value, final, remaining, returned, left⟩
          refine ⟨value, final, remaining, ?_, left⟩
          have round : (next >>= fun input => pure (if again input then .inl () else .inr ()) :
              Poll ι σ (Unit ⊕ Unit)) state (input :: rest) = some (.inl (), state, rest) := by
            rw [bind_of_eq_some (next_cons _ _ _), goesOn]
            rfl
          rw [loop_of_again consumes round]
          exact returned

end HtcLeo.Poll
