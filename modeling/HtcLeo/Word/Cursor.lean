import Mathlib.Algebra.Group.Nat.Defs
import Mathlib.Logic.Function.Iterate

/-!
# Pointers that walk over a buffer

A drawing routine stores bytes through a pointer that it only moves forward.  The
pointer is a machine word, but where it stands is best counted by a natural number
that never wraps: `Walks` says that a piece of the routine takes the cursor from one
place to a later one and stores only below a limit, and the pieces compose.
-/

namespace HtcLeo

universe u

/-- A pointer, and what was stored through it. -/
structure Cursor (w : Nat) where
  address : BitVec w
  stores : List (BitVec w × BitVec 8)
  deriving DecidableEq, Repr

namespace Cursor

variable {w : Nat}

/-- Store a byte and step over it. -/
def put (cursor : Cursor w) (byte : BitVec 8) : Cursor w :=
  ⟨cursor.address + 1, cursor.stores ++ [(cursor.address, byte)]⟩

/-- Step over some bytes. -/
def skip (cursor : Cursor w) (bytes : BitVec w) : Cursor w :=
  { cursor with address := cursor.address + bytes }

/-- Every store is below the limit. -/
def Below (limit : Nat) (stores : List (BitVec w × BitVec 8)) : Prop :=
  ∀ store ∈ stores, store.1.toNat < limit

/-- The cursor is at a place, and all its stores are below a limit. -/
structure At (limit place : Nat) (cursor : Cursor w) : Prop where
  address : cursor.address = BitVec.ofNat w place
  below : Below limit cursor.stores

@[simp]
theorem ofNat_toNat_self (word : BitVec w) : BitVec.ofNat w word.toNat = word := by
  rw [BitVec.ofNat_toNat, BitVec.setWidth_eq]

theorem at_start (limit place : Nat) : At limit place (⟨BitVec.ofNat w place, []⟩ : Cursor w) :=
  ⟨rfl, fun _ member => absurd member List.not_mem_nil⟩

theorem At.put {limit place : Nat} {cursor : Cursor w} (stands : cursor.At limit place)
    (inside : place < limit) (byte : BitVec 8) : (cursor.put byte).At limit (place + 1) := by
  constructor
  · change cursor.address + 1 = _
    rw [stands.address, BitVec.ofNat_add]
    rfl
  · intro store member
    rcases List.mem_append.mp member with earlier | last
    · exact stands.below store earlier
    · cases List.mem_singleton.mp last
      change cursor.address.toNat < limit
      rw [stands.address, BitVec.toNat_ofNat]
      exact Nat.lt_of_le_of_lt (Nat.mod_le _ _) inside

theorem At.skip {limit place : Nat} {cursor : Cursor w} (stands : cursor.At limit place)
    (bytes : BitVec w) {count : Nat} (same : bytes = BitVec.ofNat w count) :
    (cursor.skip bytes).At limit (place + count) := by
  constructor
  · change cursor.address + bytes = _
    rw [stands.address, same, BitVec.ofNat_add]
  · exact stands.below

/-! ## Pieces of a routine -/

variable {σ : Type u} {view : σ → Cursor w} {limit place count : Nat}

/-- From `place` the piece takes the cursor `count` bytes further. -/
def Walks (view : σ → Cursor w) (limit place count : Nat) (piece : σ → σ) : Prop :=
  ∀ ⦃state⦄, (view state).At limit place → (view (piece state)).At limit (place + count)

theorem Walks.comp {more : Nat} {first second : σ → σ}
    (secondWalks : Walks view limit (place + count) more second)
    (firstWalks : Walks view limit place count first) :
    Walks view limit place (count + more) (second ∘ first) := by
  intro state stands
  rw [← Nat.add_assoc]
  exact secondWalks (firstWalks stands)

/-- A loop whose pieces walk wherever they fit below the limit. -/
theorem Walks.iterate {piece : σ → σ} {times : Nat} (fits : place + times * count ≤ limit)
    (walks : ∀ start, start + count ≤ limit → Walks view limit start count piece) :
    Walks view limit place (times * count) piece^[times] := by
  induction times with
  | zero =>
      intro state stands
      rw [Nat.zero_mul]
      exact stands
  | succ times ih =>
      rw [Nat.succ_mul] at fits ⊢
      rw [Function.iterate_succ']
      exact (walks _ (by omega)).comp (ih (by omega))

end Cursor

end HtcLeo
