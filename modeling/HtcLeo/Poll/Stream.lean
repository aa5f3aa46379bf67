import HtcLeo.Poll.Loop
import HtcLeo.Word.Memory

/-!
# Computations on endless inputs

A driver that waits for its device returns only if the device lets it.  `Ends inputs
action` says that `action` returns when it is fed from an endless sequence of inputs,
wherever in the sequence it starts.  A loop ends if inputs by which it gets on come
again and again.
-/

namespace HtcLeo.Poll

open Memory

universe u v w

variable {ι : Type u} {σ : Type v} {α β : Type w} {inputs : Nat → ι}

/-- The computation returns after some of the inputs from `first` on. -/
def EndsAt (inputs : Nat → ι) (action : Poll ι σ α) (state : σ) (first : Nat) : Prop :=
  ∃ count value final, ∀ tail,
    action state (cells inputs first count ++ tail) = some (value, final, tail)

/-- The computation returns, wherever in the inputs it starts. -/
def Ends (inputs : Nat → ι) (action : Poll ι σ α) : Prop :=
  ∀ state first, EndsAt inputs action state first

theorem ends_pure (value : α) : Ends inputs (pure value : Poll ι σ α) :=
  fun state _ => ⟨0, value, state, fun _ => rfl⟩

theorem ends_modify (change : σ → σ) : Ends inputs (modify change : Poll ι σ PUnit) :=
  fun state _ => ⟨0, ⟨⟩, change state, fun _ => rfl⟩

theorem ends_get {σ : Type w} : Ends inputs (get : Poll ι σ σ) :=
  fun state _ => ⟨0, state, state, fun _ => rfl⟩

theorem Ends.bind {first : Poll ι σ α} {next : α → Poll ι σ β} (firstEnds : Ends inputs first)
    (nextEnds : ∀ value, Ends inputs (next value)) : Ends inputs (first >>= next) := by
  intro state place
  rcases firstEnds state place with ⟨count, value, middle, returned⟩
  rcases nextEnds value middle (place + count) with ⟨more, result, final, continued⟩
  refine ⟨count + more, result, final, fun tail => ?_⟩
  rw [cells_append, List.append_assoc, bind_of_eq_some (returned _), continued]

theorem ends_ite {c : Prop} [Decidable c] {yes no : Poll ι σ α} (yesEnds : Ends inputs yes)
    (noEnds : Ends inputs no) : Ends inputs (if c then yes else no) := by
  split
  · exact yesEnds
  · exact noEnds

/-! ## Loops -/

/-- A round is the last one without an input, or it takes one input; it never raises the
rank, and lowers it on good inputs. -/
def Advances (rank : β → Nat) (good : ι → Prop) (body : β → Poll ι σ (β ⊕ α)) : Prop :=
  ∀ start state,
    (∃ value, ∀ tape, body start state tape = some (.inr value, state, tape)) ∨
      ∀ input, ∃ result final,
        (∀ tape, body start state (input :: tape) = some (result, final, tape)) ∧
          ∀ again, result = .inl again →
            rank again ≤ rank start ∧ (good input → rank again < rank start)

section Loops

variable {body : β → Poll ι σ (β ⊕ α)} {rank : β → Nat} {good : ι → Prop}

/-- A loop ends if what is left after its next round does. -/
theorem EndsAt.of_round (consumes : Consumes body) (advances : Advances rank good body)
    {start : β} {state : σ} {first : Nat}
    (left : ∀ again middle, rank again ≤ rank start →
      (good (inputs first) → rank again < rank start) →
        EndsAt inputs (loop body again) middle (first + 1)) :
    EndsAt inputs (loop body start) state first := by
  rcases advances start state with ⟨value, last⟩ | takes
  · exact ⟨0, value, state, fun tail => loop_of_done (last tail)⟩
  · rcases takes (inputs first) with ⟨again | value, middle, round, ranks⟩
    · rcases ranks again rfl with ⟨notMore, less⟩
      rcases left again middle notMore less with ⟨count, value, final, returned⟩
      refine ⟨count + 1, value, final, fun tail => ?_⟩
      rw [cells, List.cons_append, loop_of_again consumes (round _), returned]
    · exact ⟨1, value, middle, fun tail => loop_of_done (round tail)⟩

/-- A loop ends if good inputs come again and again. -/
theorem ends_loop (rank : β → Nat) (good : ι → Prop) (consumes : Consumes body)
    (advances : Advances rank good body)
    (often : ∀ first, ∃ offset, good (inputs (first + offset))) (start : β) :
    Ends inputs (loop body start) := by
  intro state first
  -- The rank falls at the latest with the next good input, which comes closer meanwhile.
  induction bound : rank start using Nat.strongRecOn generalizing start state first with
  | _ bound lower =>
      rcases often first with ⟨offset, isGood⟩
      induction offset generalizing start state first with
      | zero =>
          refine EndsAt.of_round consumes advances fun again middle _ less => ?_
          exact lower (rank again) (bound ▸ less isGood) again middle (first + 1) rfl
      | succ offset closer =>
          refine EndsAt.of_round consumes advances fun again middle notMore _ => ?_
          rcases Nat.lt_or_eq_of_le notMore with less | same
          · exact lower (rank again) (bound ▸ less) again middle (first + 1) rfl
          · refine closer again middle (first + 1) (same.trans bound) ?_
            rw [Nat.add_right_comm]
            exact isGood

end Loops

/-! ## Waiting -/

section Waiting

variable {ι : Type w} {inputs : Nat → ι} {choose : ι → PUnit ⊕ α}

/-- Wait until an input gives a value. -/
def await (choose : ι → PUnit ⊕ α) : Poll ι σ α :=
  loop (fun _ => next >>= fun input => pure (choose input)) ⟨⟩

theorem consumes_await :
    Consumes (fun _ : PUnit => (next >>= fun input => pure (choose input) :
      Poll ι σ (PUnit ⊕ α))) :=
  fun _ _ _ _ _ _ returned => draws_next.bind (fun _ => shrinks_pure _) returned

/-- The wait ends if such inputs come again and again. -/
theorem ends_await (often : ∀ first, ∃ offset, (choose (inputs (first + offset))).isRight) :
    Ends inputs (await choose : Poll ι σ α) := by
  refine ends_loop (fun _ => 0) (fun input => (choose input).isRight) consumes_await ?_ often ⟨⟩
  intro start state
  refine .inr fun input => ⟨choose input, state, fun tape => rfl, fun again goesOn => ?_⟩
  refine ⟨Nat.le_refl _, fun (isRight : (choose input).isRight = true) => ?_⟩
  rw [goesOn] at isRight
  cases isRight

/-- It does not end on inputs that give none. -/
theorem await_waiting {tape : List ι} (never : ∀ input ∈ tape, choose input = .inl ⟨⟩)
    (state : σ) : await choose state tape = none := by
  induction tape with
  | nil => exact loop_of_waiting rfl
  | cons input rest ih =>
      rcases List.forall_mem_cons.mp never with ⟨goesOn, never⟩
      have round : (next >>= fun input => pure (choose input) : Poll ι σ (PUnit ⊕ α)) state
          (input :: rest) = some (.inl ⟨⟩, state, rest) := by
        rw [bind_of_eq_some (next_cons ..), goesOn]
        rfl
      rw [await, loop_of_again consumes_await round]
      exact ih never

end Waiting

/-! ## Reading again -/

section Reading

variable {ι : Type w} {inputs : Nat → ι} {again : ι → Bool}

/-- Read the next input for as long as the latest one asks for it. -/
def readWhile (again : ι → Bool) (latest : ι) : Poll ι σ ι :=
  loop (fun latest => if again latest then next >>= fun input => pure (.inl input)
    else pure (.inr latest)) latest

theorem consumes_readWhile :
    Consumes (fun latest => (if again latest then next >>= fun input => pure (.inl input)
      else pure (.inr latest) : Poll ι σ (ι ⊕ ι))) := by
  intro latest state tape result middle rest returned
  cases asks : again latest with
  | true =>
      simp only [asks, if_true] at returned
      exact draws_next.bind (fun _ => shrinks_pure _) returned
  | false =>
      simp only [asks, Bool.false_eq_true, if_false] at returned
      cases returned

theorem readWhile_of_not {latest : ι} (stops : again latest = false) (state : σ)
    (tape : List ι) : readWhile again latest state tape = some (latest, state, tape) :=
  loop_of_done (by simp only [stops, Bool.false_eq_true, if_false, pure_apply])

theorem readWhile_nil {latest : ι} (asks : again latest = true) (state : σ) :
    readWhile again latest state [] = none :=
  loop_of_waiting (by simp only [asks, if_true]; rfl)

theorem readWhile_cons {latest : ι} (asks : again latest = true) (state : σ) (input : ι)
    (tape : List ι) :
    readWhile again latest state (input :: tape) = readWhile again input state tape :=
  loop_of_again consumes_readWhile (by simp only [asks, if_true]; rfl)

/-- Of the inputs from `first` on, `last` is the one that asks for no other. -/
def StopsAt (again : ι → Bool) (inputs : Nat → ι) (first last : Nat) : Prop :=
  first ≤ last ∧ (∀ i, first ≤ i → i < last → again (inputs i) = true) ∧
    again (inputs last) = false

theorem StopsAt.unique {first last other : Nat} (stops : StopsAt again inputs first last)
    (stopsOther : StopsAt again inputs first other) : last = other := by
  obtain ⟨after, before, done⟩ := stops
  obtain ⟨afterOther, beforeOther, doneOther⟩ := stopsOther
  rcases Nat.lt_trichotomy last other with less | same | more
  · rw [beforeOther last after less] at done
    contradiction
  · exact same
  · rw [before other afterOther more] at doneOther
    contradiction

theorem stopsAt_of_not {first last : Nat} (stops : again (inputs first) = false) :
    StopsAt again inputs first last ↔ first = last := by
  constructor
  · rintro ⟨after, before, -⟩
    by_contra differ
    have goesOn := before first (Nat.le_refl _) (by omega)
    rw [stops] at goesOn
    contradiction
  · rintro rfl
    exact ⟨Nat.le_refl _, fun i above below => by omega, stops⟩

theorem stopsAt_of_again {first last : Nat} (asks : again (inputs first) = true) :
    StopsAt again inputs first last ↔ StopsAt again inputs (first + 1) last := by
  constructor
  · rintro ⟨after, before, stops⟩
    have later : first ≠ last := by
      rintro rfl
      rw [stops] at asks
      contradiction
    exact ⟨by omega, fun i above => before i (by omega), stops⟩
  · rintro ⟨after, before, stops⟩
    refine ⟨by omega, fun i above below => ?_, stops⟩
    rcases Nat.eq_or_lt_of_le above with rfl | later
    · exact asks
    · exact before i later below

/-- The reading ends with the input at which it stops, and leaves the inputs after it. -/
theorem readWhile_eq_some_iff {first count : Nat} {state : σ} {result : ι × σ × List ι} :
    readWhile again (inputs first) state (cells inputs (first + 1) count) = some result ↔
      ∃ last ≤ first + count, StopsAt again inputs first last ∧
        result = (inputs last, state, cells inputs (last + 1) (first + count - last)) := by
  cases asks : again (inputs first) with
  | false =>
      simp only [stopsAt_of_not asks, readWhile_of_not asks, Option.some.injEq]
      constructor
      · rintro rfl
        exact ⟨first, Nat.le_add_right _ _, rfl, by rw [Nat.add_sub_cancel_left]⟩
      · rintro ⟨_, -, rfl, rfl⟩
        rw [Nat.add_sub_cancel_left]
  | true =>
      simp only [stopsAt_of_again asks]
      cases count with
      | zero =>
          rw [cells, readWhile_nil asks]
          refine ⟨fun returned => absurd returned.symm (Option.some_ne_none _), ?_⟩
          rintro ⟨last, le, ⟨after, -⟩, -⟩
          omega
      | succ count =>
          rw [cells, readWhile_cons asks, readWhile_eq_some_iff, Nat.add_right_comm first 1,
            Nat.add_assoc first count 1]

end Reading

end HtcLeo.Poll
