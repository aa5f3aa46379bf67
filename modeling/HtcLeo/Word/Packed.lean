import HtcLeo.Word.Flags
import HtcLeo.Word.Memory
import Mathlib.Algebra.Group.Nat.Defs

/-!
# Packed structures in byte memory

A packed structure is the list of its fields with their widths, one after the other.
Its encoding is the concatenation of the little-endian bytes of the values, while code
finds a field by the sum of the widths before it; the two agree.
-/

namespace HtcLeo.Packed

universe u

/-- Memory, one byte for each address. -/
abbrev Bytes := Nat → U8

/-! ## Numbers -/

/-- The lowest bytes of a number, the lowest first. -/
def toBytes : Nat → Nat → List U8
  | 0, _ => []
  | width + 1, value => BitVec.ofNat 8 value :: toBytes width (value / 256)

@[simp]
theorem length_toBytes (width value : Nat) : (toBytes width value).length = width := by
  induction width generalizing value with
  | zero => rfl
  | succ width ih => rw [toBytes, List.length_cons, ih]

/-- The number whose bytes are at a place. -/
def load (memory : Bytes) : Nat → Nat → Nat
  | _, 0 => 0
  | place, width + 1 => (memory place).toNat + 256 * load memory (place + 1) width

/-- A number stored in `width` bytes, the lowest byte first. -/
def store (memory : Bytes) : Nat → Nat → Nat → Bytes
  | _, 0, _ => memory
  | place, width + 1, value =>
      store (Function.update memory place (BitVec.ofNat 8 value)) (place + 1) width (value / 256)

/-- The bytes are in memory from a place on. -/
def Holds (memory : Bytes) (place : Nat) (bytes : List U8) : Prop :=
  ∀ i byte, bytes[i]? = some byte → memory (place + i) = byte

section Numbers

variable {memory other : Bytes} {place width value : Nat}

theorem holds_nil : Holds memory place [] :=
  fun _ byte found => absurd found.symm (Option.some_ne_none byte)

theorem holds_cons {byte : U8} {rest : List U8} :
    Holds memory place (byte :: rest) ↔ memory place = byte ∧ Holds memory (place + 1) rest := by
  constructor
  · intro holds
    refine ⟨holds 0 byte rfl, fun i later found => ?_⟩
    rw [Nat.add_assoc, Nat.add_comm 1]
    exact holds (i + 1) later found
  · rintro ⟨first, later⟩ i found found_eq
    cases i with
    | zero => exact first.trans (Option.some.inj found_eq)
    | succ i =>
        have next := later i found found_eq
        rwa [Nat.add_assoc, Nat.add_comm 1] at next

theorem holds_append {first rest : List U8} :
    Holds memory place (first ++ rest) ↔
      Holds memory place first ∧ Holds memory (place + first.length) rest := by
  induction first generalizing place with
  | nil => simp [holds_nil]
  | cons byte first ih =>
      rw [List.cons_append, holds_cons, holds_cons, ih, and_assoc, List.length_cons,
        Nat.add_right_comm, Nat.add_assoc place]

/-- A list of bytes as a memory that begins with it. -/
def ofList (bytes : List U8) : Bytes :=
  fun i => bytes.getD i 0

theorem holds_ofList (bytes : List U8) : Holds (ofList bytes) 0 bytes := by
  intro i byte found
  rw [Nat.zero_add, ofList, List.getD_eq_getElem?_getD, found, Option.getD_some]

theorem load_of_holds (holds : Holds memory place (toBytes width value)) :
    load memory place width = value % 256 ^ width := by
  induction width generalizing place value with
  | zero => rw [load, Nat.pow_zero, Nat.mod_one]
  | succ width ih =>
      rcases holds_cons.mp holds with ⟨first, rest⟩
      rw [load, first, ih rest, BitVec.toNat_ofNat, Nat.pow_succ' (n := width)]
      exact Nat.mod_mul.symm

theorem load_lt : load memory place width < 256 ^ width := by
  induction width generalizing place with
  | zero => exact Nat.one_pos
  | succ width ih =>
      have rest := @ih (place + 1)
      have byte := (memory place).isLt
      rw [load, Nat.pow_succ']
      omega

/-- The same bytes at two places are the same number. -/
theorem load_congr {goal : Nat} (same : ∀ i < width, memory (place + i) = other (goal + i)) :
    load memory place width = load other goal width := by
  induction width generalizing place goal with
  | zero => rfl
  | succ width ih =>
      have first := same 0 (Nat.succ_pos width)
      rw [Nat.add_zero, Nat.add_zero] at first
      rw [load, load, first, ih fun i below => ?_]
      have next := same (i + 1) (Nat.succ_lt_succ below)
      rwa [Nat.add_comm i, ← Nat.add_assoc, ← Nat.add_assoc] at next

theorem store_outside {i : Nat} (outside : i < place ∨ place + width ≤ i) :
    store memory place width value i = memory i := by
  induction width generalizing memory place value with
  | zero => rfl
  | succ width ih =>
      rw [store, ih (by omega), Function.update_of_ne (by omega)]

theorem holds_store : Holds (store memory place width value) place (toBytes width value) := by
  induction width generalizing memory place value with
  | zero => exact holds_nil
  | succ width ih =>
      apply holds_cons.mpr
      constructor
      · rw [store, store_outside (by omega), Function.update_self]
      · exact ih

theorem load_store (fits : value < 256 ^ width) :
    load (store memory place width value) place width = value := by
  rw [load_of_holds holds_store, Nat.mod_eq_of_lt fits]

theorem load_store_of_disjoint {goal count : Nat}
    (disjoint : goal + count ≤ place ∨ place + width ≤ goal ∨ count = 0) :
    load (store memory place width value) goal count = load memory goal count :=
  load_congr fun _ _ => store_outside (by omega)

end Numbers

/-! ## Structures -/

/-- The fields in their order, with their widths in bytes. -/
abbrev Struct (F : Type u) := List (F × Nat)

namespace Struct

variable {F : Type u} {s : Struct F} {f g : F} {values : F → Nat}
  {memory other : Bytes} {place value : Nat}

/-- The bytes of all fields. -/
def size : Struct F → Nat
  | [] => 0
  | field :: rest => field.2 + size rest

/-- The bytes of a structure with these values. -/
def encode : Struct F → (F → Nat) → List U8
  | [], _ => []
  | field :: rest, values => toBytes field.2 (values field.1) ++ encode rest values

@[simp]
theorem length_encode : (s.encode values).length = s.size := by
  induction s with
  | nil => rfl
  | cons field rest ih => rw [encode, List.length_append, length_toBytes, ih, size]

variable [DecidableEq F]

/-- Where a field begins. -/
def offset : Struct F → F → Nat
  | [], _ => 0
  | field :: rest, f => if field.1 = f then 0 else field.2 + offset rest f

/-- The bytes of a field. -/
def width : Struct F → F → Nat
  | [], _ => 0
  | field :: rest, f => if field.1 = f then field.2 else width rest f

/-- Read a field of the structure at a place. -/
def get (s : Struct F) (memory : Bytes) (place : Nat) (f : F) : Nat :=
  load memory (place + s.offset f) (s.width f)

/-- Assign a field of the structure at a place. -/
def set (s : Struct F) (memory : Bytes) (place : Nat) (f : F) (value : Nat) : Bytes :=
  store memory (place + s.offset f) (s.width f) value

theorem offset_add_width_le (f : F) : s.offset f + s.width f ≤ s.size := by
  induction s with
  | nil => exact Nat.le_refl 0
  | cons field rest ih =>
      simp only [offset, width, size]
      split <;> omega

/-- Two fields do not overlap. -/
theorem disjoint (differ : f ≠ g) :
    s.offset f + s.width f ≤ s.offset g ∨ s.offset g + s.width g ≤ s.offset f ∨
      s.width g = 0 := by
  induction s with
  | nil => exact .inl (Nat.le_refl 0)
  | cons field rest ih =>
      by_cases first : field.1 = f
      · have distinct : ¬ f = g := differ
        simp only [offset, width, first, if_true, if_neg distinct]
        omega
      · by_cases second : field.1 = g
        · have distinct : ¬ g = f := differ.symm
          simp only [offset, width, second, if_true, if_neg distinct]
          omega
        · simp only [offset, width, if_neg first, if_neg second]
          omega

/-- Code reads from an encoding what was encoded. -/
theorem get_of_holds (holds : Holds memory place (s.encode values)) :
    s.get memory place f = values f % 256 ^ s.width f := by
  induction s generalizing place with
  | nil => rw [get, width, load, Nat.pow_zero, Nat.mod_one]
  | cons field rest ih =>
      rw [encode, holds_append, length_toBytes] at holds
      by_cases first : field.1 = f
      · subst first
        simp only [get, offset, width, if_true]
        exact load_of_holds holds.1
      · have later := ih holds.2
        simp only [get, offset, width, if_neg first] at later ⊢
        rwa [Nat.add_assoc] at later

theorem get_congr {goal : Nat} (same : ∀ i < s.size, memory (place + i) = other (goal + i)) :
    s.get memory place f = s.get other goal f := by
  apply load_congr
  intro i below
  have inside := offset_add_width_le (s := s) f
  rw [Nat.add_assoc, Nat.add_assoc]
  exact same _ (by omega)

theorem get_set_self (fits : value < 256 ^ s.width f) :
    s.get (s.set memory place f value) place f = value :=
  load_store fits

theorem get_set_of_ne (differ : f ≠ g) :
    s.get (s.set memory place f value) place g = s.get memory place g := by
  apply load_store_of_disjoint
  rcases disjoint (s := s) differ with before | after | none <;> omega

theorem set_outside {i : Nat} (outside : i < place ∨ place + s.size ≤ i) :
    s.set memory place f value i = memory i := by
  apply store_outside
  have inside := offset_add_width_le (s := s) f
  omega

/-- Assign several fields, one after the other. -/
def assign (s : Struct F) (place : Nat) (values : F → Nat) : List F → Bytes → Bytes
  | [], memory => memory
  | f :: rest, memory => assign s place values rest (s.set memory place f (values f))

theorem assign_outside {fields : List F} {i : Nat}
    (outside : i < place ∨ place + s.size ≤ i) :
    s.assign place values fields memory i = memory i := by
  induction fields generalizing memory with
  | nil => rfl
  | cons f rest ih => rw [assign, ih, set_outside outside]

theorem get_assign {fields : List F} (fits : ∀ f ∈ fields, values f < 256 ^ s.width f)
    (assigned : f ∈ fields ∨ s.get memory place f = values f) :
    s.get (s.assign place values fields memory) place f = values f := by
  induction fields generalizing memory with
  | nil => exact assigned.resolve_left List.not_mem_nil
  | cons g rest ih =>
      rw [List.forall_mem_cons] at fits
      apply ih fits.2
      by_cases same : f = g
      · subst same
        exact .inr (get_set_self fits.1)
      · rcases assigned with member | before
        · exact .inl ((List.mem_cons.mp member).resolve_left same)
        · exact .inr ((get_set_of_ne (Ne.symm same)).trans before)

end Struct

end HtcLeo.Packed
