import HtcLeo.Gpio.Isr
import HtcLeo.Word.Bitmap

/-!
# Banks take turns

Every bank has one turn in `MsmGpioIsr`, and nothing else touches its registers.  So what
its status and enable registers return at the start of its turn decides what is cleared.
-/

namespace HtcLeo.Gpio

open Trace

/-! ## The turn of a bank -/

/-- The bits to clear when the registers of a bank read so. -/
def firedBits (s e : U32) : List U32 :=
  ((List.range 32).filter fun j => s.getLsbD j && e.getLsbD j).map fun j => 1#32 <<< j

theorem test_bit (word : U32) {j : Nat} (inside : j < 32) :
    Flags.test word (1#32 <<< j) = word.getLsbD j := by
  have bitmap := Bitmap.test_eq_getLsbD (fun _ => word) j
  rwa [Bitmap.test, Bitmap.mask, Bitmap.and_thirty_one, Nat.mod_eq_of_lt inside] at bitmap

theorem test_pending (s e : U32) {j : Nat} (inside : j ∈ List.range 32) :
    Flags.test (e &&& s) (1#32 <<< j) = (s.getLsbD j && e.getLsbD j) := by
  rw [test_bit _ (List.mem_range.mp inside), BitVec.getLsbD_and, Bool.and_comm]

section Banks

variable (device : Device) {r : Gpioregs}

/-- A bank begins with a look at its status and its enabled bits, and then clears the bits
that both have. -/
theorem isrBank_acks (member : r ∈ GPIO_REGS) (trace : Trace U32 U32) :
    Acks r
      (firedBits (readl device.reads r.intStatus trace).1
        (readl device.reads r.intEn (readl device.reads r.intStatus trace).2).1)
      (readl device.reads r.intEn (readl device.reads r.intStatus trace).2).2
      (isrBank device.reads trace r) := by
  have pending (j : Nat) (inside : j ∈ List.range 32) :=
    test_pending (readl device.reads r.intStatus trace).1
      (readl device.reads r.intEn (readl device.reads r.intStatus trace).2).1 inside
  rw [firedBits, ← List.filter_congr pending]
  apply ackBits_acks device.reads member
  intro j inside tested
  rw [pending j inside, Bool.and_eq_true] at tested
  exact device.within trace r member j tested.1

theorem isrBank_merges (member : r ∈ GPIO_REGS) {trace : Trace U32 U32}
    (merges : MergesInputs trace) : MergesInputs (isrBank device.reads trace r) := by
  apply (isrBank_acks device member trace).merges
  exact (merges.readl device.reads r.intStatus).readl device.reads r.intEn

theorem isrBank_added (member : r ∈ GPIO_REGS) (trace : Trace U32 U32) :
    ∃ s e rest, isrBank device.reads trace r =
        trace ++ .read r.intStatus s :: .read r.intEn e :: rest ∧
      (∀ access ∈ rest, access.place ∈ r.places) ∧
      writesTo rest r.intClear = firedBits s e := by
  obtain ⟨rest, added, own, clears⟩ := (isrBank_acks device member trace).added
  refine ⟨_, _, rest, ?_, own, clears⟩
  rw [added, readl, readl, List.append_assoc, List.append_assoc, List.singleton_append,
    List.singleton_append]

/-! ## The whole routine -/

variable {banks : List Gpioregs}

/-- The turns of other banks leave the registers of a bank alone. -/
theorem banks_added (known : ∀ other ∈ banks, other ∈ GPIO_REGS) (member : r ∈ GPIO_REGS)
    (absent : r ∉ banks) (trace : Trace U32 U32) :
    ∃ added, banks.foldl (isrBank device.reads) trace = trace ++ added ∧
      ∀ access ∈ added, access.place ∉ r.places := by
  induction banks generalizing trace with
  | nil => exact ⟨[], (List.append_nil trace).symm, List.forall_mem_nil _⟩
  | cons other banks others =>
      obtain ⟨otherMember, rest⟩ := List.forall_mem_cons.mp known
      obtain ⟨apart, absentRest⟩ := not_or.mp (List.mem_cons.not.mp absent)
      have away {place : U32} : place ∈ other.places → place ∉ r.places :=
        notMem_places otherMember member (Ne.symm apart)
      obtain ⟨s, e, added, turn, own, -⟩ := isrBank_added device otherMember trace
      obtain ⟨later, turns, awayLater⟩ := others rest absentRest (isrBank device.reads trace other)
      refine ⟨.read other.intStatus s :: .read other.intEn e :: (added ++ later), ?_, ?_⟩
      · rw [List.foldl_cons, turns, turn, List.append_assoc]
        rfl
      · intro access among
        simp only [List.mem_cons, List.mem_append] at among
        rcases among with rfl | rfl | among | among
        · exact away (by simp [Access.place, Gpioregs.places])
        · exact away (by simp [Access.place, Gpioregs.places])
        · exact away (own access among)
        · exact awayLater access among

theorem banks_merges (known : ∀ other ∈ banks, other ∈ GPIO_REGS) {trace : Trace U32 U32}
    (merges : MergesInputs trace) :
    MergesInputs (banks.foldl (isrBank device.reads) trace) := by
  induction banks generalizing trace with
  | nil => exact merges
  | cons other banks others =>
      obtain ⟨otherMember, rest⟩ := List.forall_mem_cons.mp known
      exact others rest (isrBank_merges device otherMember merges)

theorem msmGpioIsr_merges : MergesInputs (msmGpioIsr device.reads []) := by
  apply banks_merges device fun _ => id
  intro _ _ before _ _ split
  exact absurd split.symm (List.append_ne_nil_of_right_ne_nil before (List.cons_ne_nil _ _))

/-- A bank has its turn once. -/
theorem msmGpioIsr_split (member : r ∈ GPIO_REGS) :
    ∃ front s e rest back, msmGpioIsr device.reads [] =
        front ++ (.read r.intStatus s :: .read r.intEn e :: rest) ++ back ∧
      (∀ access ∈ front, access.place ∉ r.places) ∧
      (∀ access ∈ back, access.place ∉ r.places) ∧
      writesTo rest r.intClear = firedBits s e := by
  obtain ⟨before, after, table⟩ := List.append_of_mem member
  have once := gpioRegs_nodup
  rw [table, List.nodup_append, List.nodup_cons] at once
  have knownBefore : ∀ other ∈ before, other ∈ GPIO_REGS := by
    intro other among
    rw [table]
    exact List.mem_append_left _ among
  have knownAfter : ∀ other ∈ after, other ∈ GPIO_REGS := by
    intro other among
    rw [table]
    exact List.mem_append_right _ (List.mem_cons_of_mem _ among)
  have absentBefore : r ∉ before := fun among =>
    once.2.2 r among r List.mem_cons_self rfl
  obtain ⟨front, turns, awayFront⟩ := banks_added device knownBefore member absentBefore []
  obtain ⟨s, e, rest, turn, -, clears⟩ := isrBank_added device member front
  obtain ⟨back, turnsBack, awayBack⟩ :=
    banks_added device knownAfter member once.2.1.1 (isrBank device.reads front r)
  refine ⟨front, s, e, rest, back, ?_, awayFront, awayBack, clears⟩
  rw [msmGpioIsr, table, List.foldl_append, List.foldl_cons, turns, List.nil_append, turnsBack,
    turn]

theorem msmGpioIsr_clearsFired : ClearsFired (msmGpioIsr device.reads []) := by
  intro r member
  obtain ⟨front, s, e, rest, back, split, awayFront, awayBack, clears⟩ :=
    msmGpioIsr_split device member
  have untouched {accesses : Trace U32 U32} {place : U32} (own : place ∈ r.places)
      (away : ∀ access ∈ accesses, access.place ∉ r.places) :
      ∀ access ∈ accesses, access.place ≠ place :=
    fun access among equal => away access among (equal ▸ own)
  have status : firstRead? (msmGpioIsr device.reads []) r.intStatus = some s := by
    rw [split, List.append_assoc, firstRead?_append_of_untouched (untouched ?_ awayFront),
      List.cons_append, firstRead?_cons, readAt, if_pos rfl, Option.some_or]
    simp [Gpioregs.places]
  have enabled : firstRead? (msmGpioIsr device.reads []) r.intEn = some e := by
    rw [split, List.append_assoc, firstRead?_append_of_untouched (untouched ?_ awayFront),
      List.cons_append, firstRead?_cons, readAt, if_neg (Gpioregs.apart member).intStatus_intEn,
      Option.none_or, List.cons_append, firstRead?_cons, readAt, if_pos rfl, Option.some_or]
    simp [Gpioregs.places]
  have clear : r.intClear ∈ r.places := by simp [Gpioregs.places]
  have fired : Fired (msmGpioIsr device.reads []) r = fun j => s.getLsbD j && e.getLsbD j := by
    funext j
    rw [Fired, status, enabled, Option.any_some, Option.any_some]
  rw [fired, split, writesTo_append, writesTo_append,
    writesTo_of_untouched (untouched clear awayFront),
    writesTo_of_untouched (untouched clear awayBack), List.append_nil, List.nil_append]
  exact clears

/-- Servicing clears the pins that fired, and it keeps the polarity of all others exactly
when each of them that is low when the register is written was positive before. -/
theorem other_pins_kept_iff (device : Device) :
    ClearsFired (msmGpioIsr device.reads []) ∧ KeepsPolarity (msmGpioIsr device.reads []) ↔
      LowPinsPositive (msmGpioIsr device.reads []) := by
  rw [← (msmGpioIsr_merges device).keepsPolarity_iff]
  constructor
  · exact And.right
  · exact fun kept => ⟨msmGpioIsr_clearsFired device, kept⟩

end Banks

/-! ## A pin that changes its neighbours -/

/-- Only the first pin is pending and enabled; all inputs are low and no pin is positive. -/
def lowInputs : Device where
  reads _ place := if place = GPIO1_REG 0xF0 ∨ place = GPIO1_REG 0xB0 then 1#32 else 0#32
  within trace r member j set := by
    split at set
    · rw [BitVec.getLsbD_one] at set
      simp_all
    · simp at set

/-- The update for pin 0 turns the polarity of pin 1 on, which did not fire. -/
theorem neighbour_turned_positive :
    ¬ (ClearsFired (msmGpioIsr lowInputs.reads []) ∧
      KeepsPolarity (msmGpioIsr lowInputs.reads [])) := by
  rintro ⟨-, kept⟩
  have bank := List.head_mem (l := GPIO_REGS) (by decide)
  have changed := kept _ bank ((msmGpioIsr lowInputs.reads []).take 5) 0xFFFFFFFF#32
    ((msmGpioIsr lowInputs.reads []).drop 6) (by decide +kernel) 1 (by decide) (by decide +kernel)
  revert changed
  decide +kernel

end HtcLeo.Gpio
