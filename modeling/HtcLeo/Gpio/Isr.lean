import HtcLeo.Gpio.Core
import HtcLeo.Register.Trace

/-!
# Servicing the interrupts of pins

`MsmGpioIsr` clears every interrupt that is pending and enabled, and then updates the
polarity of its pin, as often as the inputs change meanwhile.  The update finds the bit of
the pin, but sets the polarity of all pins of the bank whose inputs are low.
-/

namespace HtcLeo.Gpio

open Trace

/-! ## The service routine -/

/-- The status bits of a bank belong to its pins; otherwise the registers may hold anything
at any time. -/
structure Device where
  reads : Reads U32 U32
  within : ∀ trace, ∀ r ∈ GPIO_REGS, ∀ j,
    (reads trace r.intStatus).getLsbD j = true → j ≤ r.lastBit

section Routine

variable (reads : Reads U32 U32)

/-- One round: whether the inputs are stable, and the trace. -/
def edgeRound (r : Gpioregs) (trace : Trace U32 U32) : Bool × Trace U32 U32 :=
  let val := readl reads r.in_ trace
  let pol := readl reads r.intPos val.2
  let written := writel (pol.1 ||| ~~~val.1) r.intPos pol.2
  let intstat := readl reads r.intStatus written
  let val2 := readl reads r.in_ intstat.2
  ((val.1 ^^^ val2.1) &&& ~~~intstat.1 == 0, val2.2)

/-- The rounds, one more than the limit at most. -/
def edgeRounds (r : Gpioregs) : Nat → Trace U32 U32 → Trace U32 U32
  | 0, trace => (edgeRound reads r trace).2
  | loopLimit + 1, trace =>
      let round := edgeRound reads r trace
      if round.1 then round.2 else edgeRounds r loopLimit round.2

/-- The bit of the pin is not used. -/
def msmGpioUpdateBothEdgeDetect (gpio : U32) (trace : Trace U32 U32) : Trace U32 U32 :=
  match findGpio gpio with
  | none => trace
  | some (r, _) => edgeRounds reads r 100 trace

/-- `msm_gpio_irq_clear`. -/
def msmGpioIrqClear (gpio : U32) (trace : Trace U32 U32) : Trace U32 U32 :=
  match findGpio gpio with
  | none => trace
  | some (r, b) => writel b r.intClear trace

/-- `msm_gpio_irq_ack`. -/
def msmGpioIrqAck (gpio : U32) (trace : Trace U32 U32) : Trace U32 U32 :=
  msmGpioUpdateBothEdgeDetect reads gpio (msmGpioIrqClear gpio trace)

/-- The turn of one bit, `e & s` being the bits that are pending and enabled. -/
def ackBit (r : Gpioregs) (pending : U32) (trace : Trace U32 U32) (j : Nat) : Trace U32 U32 :=
  if Flags.test pending (1#32 <<< j) then msmGpioIrqAck reads (r.pin j) trace else trace

/-- The turn of one bank. -/
def isrBank (trace : Trace U32 U32) (r : Gpioregs) : Trace U32 U32 :=
  let s := readl reads r.intStatus trace
  let e := readl reads r.intEn s.2
  (List.range 32).foldl (ackBit reads r (e.1 &&& s.1)) e.2

/-- `MsmGpioIsr`. -/
def msmGpioIsr (trace : Trace U32 U32) : Trace U32 U32 :=
  GPIO_REGS.foldl (isrBank reads) trace

end Routine

/-! ## The property and its condition -/

/-- The interrupt of a pin was pending and enabled when the routine looked at its bank. -/
def Fired (trace : Trace U32 U32) (r : Gpioregs) (j : Nat) : Bool :=
  (firstRead? trace r.intStatus).any (·.getLsbD j) &&
    (firstRead? trace r.intEn).any (·.getLsbD j)

/-- Of each bank the bits that are written to clear are those of the pins that fired, each
of them once. -/
def ClearsFired (trace : Trace U32 U32) : Prop :=
  ∀ r ∈ GPIO_REGS, writesTo trace r.intClear =
    ((List.range 32).filter (Fired trace r)).map fun j => 1#32 <<< j

/-- What is written to a polarity register has, for the pins that did not fire, the bits
that were last read from it. -/
def KeepsPolarity (trace : Trace U32 U32) : Prop :=
  ∀ r ∈ GPIO_REGS, ∀ before value after, trace = before ++ .write r.intPos value :: after →
    ∀ j ≤ r.lastBit, Fired trace r j = false →
      (lastRead? before r.intPos).map (·.getLsbD j) = some (value.getLsbD j)

/-- When a polarity register is written, the pins of its bank that did not fire and were
last read low have their polarity bits set already. -/
def LowPinsPositive (trace : Trace U32 U32) : Prop :=
  ∀ r ∈ GPIO_REGS, ∀ before value after, trace = before ++ .write r.intPos value :: after →
    ∀ j ≤ r.lastBit, Fired trace r j = false →
      (lastRead? before r.in_).map (·.getLsbD j) = some false →
        (lastRead? before r.intPos).map (·.getLsbD j) = some true

/-! ## What is written to a polarity register -/

/-- Every polarity register is written with what was last read from it and the complement
of the inputs that were last read. -/
def MergesInputs (trace : Trace U32 U32) : Prop :=
  ∀ r ∈ GPIO_REGS, ∀ before value after, trace = before ++ .write r.intPos value :: after →
    ∃ val pol, lastRead? before r.in_ = some val ∧ lastRead? before r.intPos = some pol ∧
      value = pol ||| ~~~val

/-- The registers of a bank that the routine uses are apart. -/
structure Gpioregs.Apart (r : Gpioregs) : Prop where
  in_intPos : r.in_ ≠ r.intPos
  in_intClear : r.in_ ≠ r.intClear
  intStatus_intClear : r.intStatus ≠ r.intClear
  intStatus_intEn : r.intStatus ≠ r.intEn
  intEn_intClear : r.intEn ≠ r.intClear
  intPos_intClear : r.intPos ≠ r.intClear

section Traces

variable {trace : Trace U32 U32} {r : Gpioregs}

theorem Gpioregs.apart (member : r ∈ GPIO_REGS) : r.Apart := by
  have nodup := places_nodup_of_mem member
  simp only [Gpioregs.places, List.nodup_cons, List.mem_cons, not_or] at nodup
  rcases nodup with ⟨-, input, status, clear, enable, -⟩
  exact ⟨input.2.2.2.1, input.2.1, status.1, status.2.1, Ne.symm clear.1, Ne.symm clear.2.1⟩

/-- A polarity register belongs to one bank. -/
theorem eq_of_intPos {other : Gpioregs} (member : r ∈ GPIO_REGS) (others : other ∈ GPIO_REGS)
    (same : r.intPos = other.intPos) : r = other := by
  by_contra apart
  have own : r.intPos ∈ r.places := by simp [Gpioregs.places]
  apply notMem_places member others apart own
  simp [same, Gpioregs.places]

theorem intPos_ne_intClear {other : Gpioregs} (member : r ∈ GPIO_REGS)
    (others : other ∈ GPIO_REGS) : r.intPos ≠ other.intClear := by
  by_cases same : r = other
  · subst same
    exact (Gpioregs.apart member).intPos_intClear
  · intro equal
    have own : r.intPos ∈ r.places := by simp [Gpioregs.places]
    apply notMem_places member others same own
    simp [equal, Gpioregs.places]

theorem MergesInputs.append {access : Access U32 U32} (merges : MergesInputs trace)
    (last : ∀ r ∈ GPIO_REGS, ∀ value, access = .write r.intPos value →
      ∃ val pol, lastRead? trace r.in_ = some val ∧ lastRead? trace r.intPos = some pol ∧
        value = pol ||| ~~~val) : MergesInputs (trace ++ [access]) := by
  intro r member before value after split
  rcases append_singleton_cases split with ⟨rfl, written⟩ | ⟨rest, earlier⟩
  · exact last r member value written.symm
  · exact merges r member before value rest earlier

theorem MergesInputs.readl (merges : MergesInputs trace) (reads : Reads U32 U32) (place : U32) :
    MergesInputs (readl reads place trace).2 := by
  apply merges.append
  intro _ _ _ written
  cases written

theorem MergesInputs.clear (merges : MergesInputs trace) (member : r ∈ GPIO_REGS) (value : U32) :
    MergesInputs (writel value r.intClear trace) := by
  apply merges.append
  intro other others _ written
  exact absurd (Access.write.inj written).1.symm (intPos_ne_intClear others member)

theorem MergesInputs.merge (merges : MergesInputs trace) (member : r ∈ GPIO_REGS) {val pol : U32}
    (input : lastRead? trace r.in_ = some val) (polarity : lastRead? trace r.intPos = some pol) :
    MergesInputs (writel (pol ||| ~~~val) r.intPos trace) := by
  apply merges.append
  intro other others value written
  obtain ⟨same, rfl⟩ := Access.write.inj written
  cases eq_of_intPos member others same
  exact ⟨val, pol, input, polarity, rfl⟩

/-- Bit by bit, such a write keeps the polarity of a pin unless it turns it on. -/
theorem merged_getLsbD (pol val : U32) {j : Nat} (inside : j < 32) :
    pol.getLsbD j = (pol ||| ~~~val).getLsbD j ↔
      (val.getLsbD j = false → pol.getLsbD j = true) := by
  rw [BitVec.getLsbD_or, BitVec.getLsbD_not, decide_eq_true inside, Bool.true_and]
  cases pol.getLsbD j <;> cases val.getLsbD j <;> simp

theorem MergesInputs.keepsPolarity_iff (merges : MergesInputs trace) :
    KeepsPolarity trace ↔ LowPinsPositive trace := by
  unfold KeepsPolarity LowPinsPositive
  apply forall₂_congr
  intro r member
  apply forall₃_congr
  intro before value after
  apply forall_congr'
  intro split
  apply forall₂_congr
  intro j inside
  apply imp_congr_right
  intro unfired
  obtain ⟨val, pol, input, polarity, rfl⟩ := merges r member before value after split
  rw [input, polarity]
  simp only [Option.map_some, Option.some_inj]
  exact merged_getLsbD pol val (Nat.lt_of_le_of_lt inside (lastBit_lt r member))

end Traces

/-! ## What servicing a pin adds -/

/-- From one trace to a later one only registers of the bank were accessed, and the clear
register was written with `cleared`. -/
structure Acks (r : Gpioregs) (cleared : List U32) (trace after : Trace U32 U32) : Prop where
  added : ∃ rest, after = trace ++ rest ∧ (∀ access ∈ rest, access.place ∈ r.places) ∧
    writesTo rest r.intClear = cleared
  merges : MergesInputs trace → MergesInputs after

section Acks

variable {r : Gpioregs} {one two : List U32} {trace middle after : Trace U32 U32}

theorem Acks.refl (trace : Trace U32 U32) : Acks r [] trace trace :=
  ⟨⟨[], (List.append_nil trace).symm, List.forall_mem_nil _, rfl⟩, id⟩

theorem Acks.trans (first : Acks r one trace middle) (second : Acks r two middle after) :
    Acks r (one ++ two) trace after := by
  rcases first with ⟨⟨rest, rfl, own, clears⟩, merges⟩
  rcases second with ⟨⟨later, rfl, ownLater, clearsLater⟩, mergesLater⟩
  constructor
  · refine ⟨rest ++ later, List.append_assoc .., ?_, ?_⟩
    · exact List.forall_mem_append.mpr ⟨own, ownLater⟩
    · rw [writesTo_append, clears, clearsLater]
  · exact fun start => mergesLater (merges start)

theorem Acks.readl (reads : Reads U32 U32) {place : U32} (own : place ∈ r.places)
    (trace : Trace U32 U32) : Acks r [] trace (readl reads place trace).2 := by
  constructor
  · exact ⟨_, rfl, List.forall_mem_singleton.mpr own, rfl⟩
  · exact fun start => start.readl reads place

theorem Acks.clear (member : r ∈ GPIO_REGS) (value : U32) (trace : Trace U32 U32) :
    Acks r [value] trace (writel value r.intClear trace) := by
  constructor
  · refine ⟨_, rfl, List.forall_mem_singleton.mpr ?_, ?_⟩
    · simp [Access.place, Gpioregs.places]
    · simp [writesTo, writtenAt]
  · exact fun start => start.clear member value

theorem Acks.merge (member : r ∈ GPIO_REGS) {val pol : U32}
    (input : lastRead? trace r.in_ = some val) (polarity : lastRead? trace r.intPos = some pol) :
    Acks r [] trace (writel (pol ||| ~~~val) r.intPos trace) := by
  constructor
  · refine ⟨_, rfl, List.forall_mem_singleton.mpr ?_, ?_⟩
    · simp [Access.place, Gpioregs.places]
    · simp [writesTo, writtenAt, (Gpioregs.apart member).intPos_intClear]
  · exact fun start => start.merge member input polarity

variable (reads : Reads U32 U32)

theorem edgeRound_acks (member : r ∈ GPIO_REGS) (trace : Trace U32 U32) :
    Acks r [] trace (edgeRound reads r trace).2 := by
  have input : r.in_ ∈ r.places := by simp [Gpioregs.places]
  have polarity : r.intPos ∈ r.places := by simp [Gpioregs.places]
  have status : r.intStatus ∈ r.places := by simp [Gpioregs.places]
  have apart := (Gpioregs.apart member).in_intPos
  have merged := Acks.merge member
    ((lastRead?_readl_of_ne reads apart.symm).trans (@lastRead?_readl _ _ _ trace _ reads))
    (lastRead?_readl reads)
  have looked := (Acks.readl reads input trace).trans (Acks.readl reads polarity _)
  have lookedAgain (later : Trace U32 U32) :=
    (Acks.readl reads status later).trans (Acks.readl reads input _)
  exact (looked.trans merged).trans (lookedAgain _)

/-- However long the inputs keep changing. -/
theorem edgeRounds_acks (member : r ∈ GPIO_REGS) (loopLimit : Nat) (trace : Trace U32 U32) :
    Acks r [] trace (edgeRounds reads r loopLimit trace) := by
  induction loopLimit generalizing trace with
  | zero => exact edgeRound_acks reads member trace
  | succ loopLimit rounds =>
      rw [edgeRounds]
      split
      · exact edgeRound_acks reads member trace
      · exact (edgeRound_acks reads member trace).trans (rounds _)

theorem msmGpioIrqAck_acks (member : r ∈ GPIO_REGS) {j : Nat} (inside : j ≤ r.lastBit)
    (trace : Trace U32 U32) :
    Acks r [1#32 <<< j] trace (msmGpioIrqAck reads (r.pin j) trace) := by
  rw [msmGpioIrqAck, msmGpioIrqClear, msmGpioUpdateBothEdgeDetect, findGpio_pin member inside]
  exact (Acks.clear member _ trace).trans (edgeRounds_acks reads member 100 _)

/-- The bits of a bank are served one after the other. -/
theorem ackBits_acks (member : r ∈ GPIO_REGS) {pending : U32}
    {bits : List Nat} (within : ∀ j ∈ bits, Flags.test pending (1#32 <<< j) = true → j ≤ r.lastBit)
    (trace : Trace U32 U32) :
    Acks r ((bits.filter fun j => Flags.test pending (1#32 <<< j)).map fun j => 1#32 <<< j) trace
      (bits.foldl (ackBit reads r pending) trace) := by
  induction bits generalizing trace with
  | nil => exact .refl trace
  | cons j bits rest =>
      obtain ⟨own, others⟩ := List.forall_mem_cons.mp within
      rw [List.foldl_cons, ackBit, List.filter_cons]
      cases tested : Flags.test pending (1#32 <<< j) with
      | false => exact rest others trace
      | true => exact (msmGpioIrqAck_acks reads member (own tested) trace).trans (rest others _)

end Acks

end HtcLeo.Gpio
