import HtcLeo.Poll.Loop

/-!
# Triples for polling computations

`Triple P action Q` is partial correctness: whenever `action` returns from a
state satisfying `P`, its value and final state satisfy `Q`.  `Sim R V first
second` compares two computations on one tape: from `R`-related states both are
still waiting, or both return, with `V`-related values, `R`-related states and
the same inputs left.

The rules follow the structure of a computation, with one rule for `loop`.
-/

namespace HtcLeo.Poll

universe u v w

variable {ι : Type u} {σ : Type v} {α β : Type w}

/-! ## One computation -/

/-- Partial correctness of a polling computation. -/
def Triple (P : σ → Prop) (action : Poll ι σ α) (Q : α → σ → Prop) : Prop :=
  ∀ ⦃state tape value final rest⦄, P state →
    action state tape = some (value, final, rest) → Q value final

theorem Triple.consequence {P P' : σ → Prop} {action : Poll ι σ α}
    {Q Q' : α → σ → Prop} (triple : Triple P action Q)
    (pre : ∀ state, P' state → P state)
    (post : ∀ value state, Q value state → Q' value state) :
    Triple P' action Q' :=
  fun _ _ _ _ _ holds returned => post _ _ (triple (pre _ holds) returned)

theorem triple_pure {value : α} {Q : α → σ → Prop} :
    Triple (Q value) (pure value : Poll ι σ α) Q := by
  intro state tape _ final rest holds returned
  cases returned
  exact holds

theorem triple_modify {change : σ → σ} {Q : PUnit → σ → Prop} :
    Triple (fun state => Q ⟨⟩ (change state)) (modify change : Poll ι σ PUnit) Q := by
  intro state tape value final rest holds returned
  cases returned
  exact holds

theorem triple_next {ι : Type w} {Q : ι → σ → Prop} :
    Triple (fun state => ∀ input, Q input state) (next : Poll ι σ ι) Q := by
  intro state tape value final rest holds returned
  rcases next_eq_some_iff.mp returned with ⟨_, _, rfl, result_eq⟩
  cases result_eq
  exact holds _

theorem triple_bind {P : σ → Prop} {first : Poll ι σ α} {Q : α → σ → Prop}
    {next : α → Poll ι σ β} {S : β → σ → Prop} (firstTriple : Triple P first Q)
    (nextTriple : ∀ value, Triple (Q value) (next value) S) :
    Triple P (first >>= next) S := by
  intro state tape value final rest holds returned
  rcases bind_eq_some_iff.mp returned with ⟨_, _, _, firstReturned, nextReturned⟩
  exact nextTriple _ (firstTriple holds firstReturned) nextReturned

/-- Invariant rule: every round keeps the invariant or establishes the
postcondition. -/
theorem triple_loop {body : β → Poll ι σ (β ⊕ α)} {I : β → σ → Prop}
    {Q : α → σ → Prop}
    (round : ∀ start, Triple (I start) (body start) (Sum.elim I Q)) (start : β) :
    Triple (I start) (loop body start) Q := by
  have bounded : ∀ rounds start, Triple (I start) (iterate body rounds start) Q := by
    intro rounds
    induction rounds with
    | zero => intro start state tape value final rest holds returned; cases returned
    | succ rounds ih =>
        intro start
        refine triple_bind (round start) fun result => ?_
        cases result with
        | inl again => exact ih again
        | inr value => exact triple_pure
  exact fun _ tape _ _ _ holds returned => bounded (tape.length + 1) start holds returned

/-! ## Frames -/

/-- A computation leaves what is observed of the state as it is. -/
def Frames {τ : Type w} (observe : σ → τ) (action : Poll ι σ α) : Prop :=
  ∀ ⦃state tape value final rest⦄,
    action state tape = some (value, final, rest) → observe final = observe state

section Frames

variable {τ : Type w} {observe : σ → τ}

theorem frames_pure (value : α) : Frames observe (pure value : Poll ι σ α) := by
  intro state tape _ final rest returned
  cases returned
  rfl

theorem frames_modify {change : σ → σ} (same : ∀ state, observe (change state) = observe state) :
    Frames observe (modify change : Poll ι σ PUnit) := by
  intro state tape value final rest returned
  cases returned
  exact same state

theorem frames_get {σ : Type w} {observe : σ → τ} : Frames observe (get : Poll ι σ σ) := by
  intro state tape value final rest returned
  cases returned
  rfl

theorem frames_next {ι : Type w} : Frames observe (next : Poll ι σ ι) := by
  intro state tape value final rest returned
  rcases next_eq_some_iff.mp returned with ⟨_, _, rfl, result_eq⟩
  cases result_eq
  rfl

theorem frames_bind {first : Poll ι σ α} {next : α → Poll ι σ β}
    (firstFrames : Frames observe first) (nextFrames : ∀ value, Frames observe (next value)) :
    Frames observe (first >>= next) := by
  intro state tape value final rest returned
  rcases bind_eq_some_iff.mp returned with ⟨_, _, _, firstReturned, nextReturned⟩
  exact (nextFrames _ nextReturned).trans (firstFrames firstReturned)

theorem frames_ite {c : Prop} [Decidable c] {yes no : Poll ι σ α}
    (yesFrames : Frames observe yes) (noFrames : Frames observe no) :
    Frames observe (if c then yes else no) := by
  split
  · exact yesFrames
  · exact noFrames

theorem frames_loop {body : β → Poll ι σ (β ⊕ α)}
    (bodyFrames : ∀ start, Frames observe (body start)) (start : β) :
    Frames observe (loop body start) := by
  intro state tape value final rest returned
  have kept : Triple (fun middle => observe middle = observe state) (loop body start)
      fun _ middle => observe middle = observe state := by
    refine triple_loop (I := fun _ middle => observe middle = observe state) ?_ start
    intro start middle tape value final rest same round
    have same := (bodyFrames start round).trans same
    cases value with
    | inl again => exact same
    | inr done => exact same
  exact kept rfl returned

end Frames

/-! ## Two computations on one tape -/

/-- Two outcomes agree up to a relation on values and one on states. -/
abbrev Agree {σ' : Type v} {α' : Type w} (R : σ → σ' → Prop) (V : α → α' → Prop) :
    Option (α × σ × List ι) → Option (α' × σ' × List ι) → Prop :=
  Option.Rel fun one two => V one.1 two.1 ∧ R one.2.1 two.2.1 ∧ one.2.2 = two.2.2

/-- The two computations move in lock step on every tape. -/
def Sim {σ' : Type v} {α' : Type w} (R : σ → σ' → Prop) (V : α → α' → Prop)
    (one : Poll ι σ α) (two : Poll ι σ' α') : Prop :=
  ∀ ⦃state state'⦄ (tape : List ι), R state state' →
    Agree R V (one state tape) (two state' tape)

section Sim

variable {σ' : Type v} {α' β' : Type w} {R : σ → σ' → Prop} {V : α → α' → Prop}

/-- The values may be related more loosely. -/
theorem Sim.mono {V' : α → α' → Prop} {one : Poll ι σ α} {two : Poll ι σ' α'}
    (sim : Sim R V one two) (weaker : ∀ value value', V value value' → V' value value') :
    Sim R V' one two := by
  intro state state' tape states
  have agree := sim tape states
  revert agree
  generalize one state tape = result
  generalize two state' tape = result'
  intro agree
  cases agree with
  | none => exact Option.Rel.none
  | some related => exact Option.Rel.some ⟨weaker _ _ related.1, related.2⟩

theorem sim_pure {value : α} {value' : α'} (related : V value value') :
    Sim R V (pure value : Poll ι σ α) (pure value' : Poll ι σ' α') :=
  fun _ _ _ states => Option.Rel.some ⟨related, states, rfl⟩

theorem sim_next {ι : Type w} : Sim R (· = ·) (next : Poll ι σ ι) next := by
  intro state state' tape states
  cases tape with
  | nil => exact Option.Rel.none
  | cons input rest => exact Option.Rel.some ⟨rfl, states, rfl⟩

theorem sim_bind {one : Poll ι σ α} {two : Poll ι σ' α'} {W : β → β' → Prop}
    {next : α → Poll ι σ β} {next' : α' → Poll ι σ' β'} (firsts : Sim R V one two)
    (nexts : ∀ value value', V value value' → Sim R W (next value) (next' value')) :
    Sim R W (one >>= next) (two >>= next') := by
  intro state state' tape states
  rw [bind_apply, bind_apply]
  have agree := firsts tape states
  revert agree
  generalize one state tape = result
  generalize two state' tape = result'
  intro agree
  cases agree with
  | none => exact Option.Rel.none
  | some related =>
      rcases related with ⟨values, middles, tapes⟩
      simp only [Option.bind_some]
      rw [← tapes]
      exact nexts _ _ values _ middles

theorem sim_loop {body : β → Poll ι σ (β ⊕ α)} {body' : β' → Poll ι σ' (β' ⊕ α')}
    {W : β → β' → Prop}
    (round : ∀ start start', W start start' →
      Sim R (Sum.LiftRel W V) (body start) (body' start'))
    {start : β} {start' : β'} (starts : W start start') :
    Sim R V (loop body start) (loop body' start') := by
  have bounded : ∀ rounds start start', W start start' →
      Sim R V (iterate body rounds start) (iterate body' rounds start') := by
    intro rounds
    induction rounds with
    | zero => exact fun _ _ _ _ _ _ _ => Option.Rel.none
    | succ rounds ih =>
        intro start start' starts
        apply sim_bind (round start start' starts)
        intro result result' related
        cases related with
        | inl again => exact ih _ _ again
        | inr done => exact sim_pure done
  exact fun _ _ tape states => bounded (tape.length + 1) start start' starts tape states

/-- Loops whose rounds return the same values return the same value. -/
theorem sim_loop_eq {body body' : β → Poll ι σ (β ⊕ α)} {R : σ → σ → Prop}
    (round : ∀ start, Sim R (· = ·) (body start) (body' start)) (start : β) :
    Sim R (· = ·) (loop body start) (loop body' start) := by
  refine sim_loop (W := (· = ·)) ?_ rfl
  rintro start _ rfl
  exact (round start).mono fun result _ same => by
    subst same
    cases result with
    | inl again => exact .inl rfl
    | inr done => exact .inr rfl

theorem sim_get {σ σ' : Type w} {R : σ → σ' → Prop} :
    Sim R R (get : Poll ι σ σ) (get : Poll ι σ' σ') :=
  fun _ _ _ states => Option.Rel.some ⟨states, states, rfl⟩

end Sim

end HtcLeo.Poll
