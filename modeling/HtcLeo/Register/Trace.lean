import Mathlib.Data.List.Basic

/-!
# Traces of register accesses

A driver reads and writes registers whose contents it does not control: what a read
returns may depend on everything that was accessed before, in any way.  A trace records
the accesses in order, and what a driver does is told by its trace.
-/

namespace HtcLeo

universe u v

/-- One access to a register. -/
inductive Access (A : Type u) (V : Type v) where
  | read (place : A) (value : V)
  | write (place : A) (value : V)
  deriving DecidableEq, Repr

/-- The accesses so far, with the first one first. -/
abbrev Trace (A : Type u) (V : Type v) := List (Access A V)

/-- What a register returns after a trace. -/
abbrev Reads (A : Type u) (V : Type v) := Trace A V → A → V

variable {A : Type u} {V : Type v}

/-- The register of an access. -/
def Access.place : Access A V → A
  | .read place _ => place
  | .write place _ => place

/-- A read gives what the device answers after this trace. -/
def readl (reads : Reads A V) (place : A) (trace : Trace A V) : V × Trace A V :=
  (reads trace place, trace ++ [.read place (reads trace place)])

/-- A write. -/
def writel (value : V) (place : A) (trace : Trace A V) : Trace A V :=
  trace ++ [.write place value]

namespace Trace

variable [DecidableEq A]

/-! ## What was read and written at a place -/

/-- The value, where the access reads this register. -/
def readAt (place : A) : Access A V → Option V
  | .read other value => if other = place then some value else none
  | .write _ _ => none

/-- The value, where the access writes this register. -/
def writtenAt (place : A) : Access A V → Option V
  | .read _ _ => none
  | .write other value => if other = place then some value else none

/-- The first value read from a register. -/
def firstRead? (trace : Trace A V) (place : A) : Option V :=
  trace.findSome? (readAt place)

/-- The last value read from a register. -/
def lastRead? (trace : Trace A V) (place : A) : Option V :=
  trace.reverse.findSome? (readAt place)

/-- The values written to a register. -/
def writesTo (trace : Trace A V) (place : A) : List V :=
  trace.filterMap (writtenAt place)

variable {one two trace : Trace A V} {place other : A}

theorem readAt_of_ne {access : Access A V} (apart : access.place ≠ place) :
    readAt place access = none := by
  cases access with
  | read => exact if_neg apart
  | write => rfl

theorem writtenAt_of_ne {access : Access A V} (apart : access.place ≠ place) :
    writtenAt place access = none := by
  cases access with
  | read => rfl
  | write => exact if_neg apart

@[simp]
theorem writesTo_append : writesTo (one ++ two) place = writesTo one place ++ writesTo two place :=
  List.filterMap_append

/-- What is not accessed is not written. -/
theorem writesTo_of_untouched (untouched : ∀ access ∈ trace, access.place ≠ place) :
    writesTo trace place = [] :=
  List.filterMap_eq_nil_iff.mpr fun access member => writtenAt_of_ne (untouched access member)

/-- The first read is not among accesses to other places. -/
theorem firstRead?_append_of_untouched (untouched : ∀ access ∈ one, access.place ≠ place) :
    firstRead? (one ++ two) place = firstRead? two place := by
  rw [firstRead?, List.findSome?_append, List.findSome?_eq_none_iff.mpr, Option.none_or, firstRead?]
  exact fun access member => readAt_of_ne (untouched access member)

theorem firstRead?_cons (access : Access A V) :
    firstRead? (access :: trace) place =
      (readAt place access).or (firstRead? trace place) := by
  rw [firstRead?, firstRead?, List.findSome?_cons]
  cases readAt place access <;> rfl

theorem lastRead?_append (access : Access A V) :
    lastRead? (trace ++ [access]) place =
      (readAt place access).or (lastRead? trace place) := by
  rw [lastRead?, lastRead?, List.reverse_append, List.reverse_singleton, List.singleton_append,
    List.findSome?_cons]
  cases readAt place access <;> rfl

/-- The last read is the one that was just made. -/
theorem lastRead?_readl (reads : Reads A V) :
    lastRead? (readl reads place trace).2 place = some (readl reads place trace).1 := by
  rw [readl, lastRead?_append, readAt, if_pos rfl]
  rfl

theorem lastRead?_readl_of_ne (reads : Reads A V) (apart : other ≠ place) :
    lastRead? (readl reads other trace).2 place = lastRead? trace place := by
  rw [readl, lastRead?_append, readAt, if_neg apart]
  rfl

/-! ## Where an access stands -/

omit [DecidableEq A] in
/-- An access of a longer trace is the last one, or one of the trace before. -/
theorem append_singleton_cases {before after : Trace A V} {last access : Access A V}
    (split : trace ++ [last] = before ++ access :: after) :
    (before = trace ∧ access = last) ∨ ∃ rest, trace = before ++ access :: rest := by
  rcases List.eq_nil_or_concat after with rfl | ⟨rest, final, rfl⟩
  · obtain ⟨same, singleton⟩ := List.append_inj' split rfl
    exact .inl ⟨same.symm, (List.singleton_inj.mp singleton).symm⟩
  · right
    refine ⟨rest, ?_⟩
    rw [List.concat_eq_append, ← List.cons_append, ← List.append_assoc] at split
    exact (List.append_inj' split rfl).1

end Trace

end HtcLeo
