import HtcLeo.Gpio.Banks
import HtcLeo.Transition.Run

/-!
# Pins do not interfere

The output and the output-enable registers hold what is written to them, and each call
changes one bit of them, after reading the whole word.  So what a pin is at the end of
any calls is decided by the last one that named it.
-/

namespace HtcLeo.Gpio

/-! ## The calls -/

/-- The registers that hold what was written to them, by their addresses. -/
abbrev Outputs := U32 → U32

def GPIO_INPUT : U32 := 0
def GPIO_OUTPUT : U32 := 1

/-- `gpio_config`. -/
def gpioConfig (outputs : Outputs) (n flags : U32) : U32 × Outputs :=
  match findGpio n with
  | none => (-1, outputs)
  | some (r, b) =>
      let v := outputs r.oe
      if Flags.test flags GPIO_OUTPUT then (0, Function.update outputs r.oe (v ||| b))
      else (0, Function.update outputs r.oe (Flags.clear v b))

/-- `gpio_set`. -/
def gpioSet (outputs : Outputs) (n on : U32) : Outputs :=
  match findGpio n with
  | none => outputs
  | some (r, b) =>
      let outputs := (gpioConfig outputs n GPIO_OUTPUT).2
      let v := outputs r.out
      if on ≠ 0 then Function.update outputs r.out (v ||| b)
      else Function.update outputs r.out (Flags.clear v b)

/-- `input` is what the input register of the bank returns. -/
def gpioGet (outputs : Outputs) (input n : U32) : U32 × Outputs :=
  match findGpio n with
  | none => (0, outputs)
  | some (_, b) =>
      (if Flags.test input b then 1 else 0, (gpioConfig outputs n GPIO_INPUT).2)

/-- A call of the three functions; the word of the input register comes with `get`. -/
inductive Call where
  | config (n flags : U32)
  | set (n on : U32)
  | get (input n : U32)
  deriving DecidableEq, Repr

namespace Call

/-- The output registers after a call. -/
def perform (outputs : Outputs) : Call → Outputs
  | config n flags => (gpioConfig outputs n flags).2
  | set n on => gpioSet outputs n on
  | get input n => (gpioGet outputs input n).2

/-- The pin that a call is about. -/
def pin : Call → U32
  | config n _ | set n _ | get _ n => n

/-! ## What a call says about its pin -/

/-- The pin is to be an output. -/
def direction : Call → Bool
  | config _ flags => Flags.test flags GPIO_OUTPUT
  | set _ _ => true
  | get _ _ => false

/-- The value the pin is to have. -/
def value? : Call → Option Bool
  | set _ on => some (on != 0)
  | config _ _ | get _ _ => none

end Call

/-- The direction from the last call that named the pin. -/
def lastDirection? (calls : List Call) (p : U32) : Option Bool :=
  (calls.filterMap fun call => if call.pin = p then some call.direction else none).getLast?

/-- The value from the last `gpio_set` of the pin. -/
def lastValue? (calls : List Call) (p : U32) : Option Bool :=
  (calls.filterMap fun call => if call.pin = p then call.value? else none).getLast?

/-- The bit of a pin in the registers of one kind. -/
def pinBit (register : Gpioregs → U32) (outputs : Outputs) (p : U32) : Bool :=
  match findGpio p with
  | none => false
  | some (r, b) => Flags.test (outputs (register r)) b

/-! ## Banks and bits -/

/-- A pin is one bit of one bank. -/
theorem exists_bank {p : U32} (inside : p ≤ 164) :
    ∃ r ∈ GPIO_REGS, ∃ j ≤ r.lastBit, r.pin j = p ∧ findGpio p = some (r, 1#32 <<< j) := by
  -- Counted from the start of its own bank, the pin is within the bank.
  have banked : ∀ n ∈ List.range 165, ∃ r ∈ GPIO_REGS, n - r.start.toNat ≤ r.lastBit ∧
      r.pin (n - r.start.toNat) = BitVec.ofNat 32 n := by
    decide +kernel
  have below : p.toNat ≤ 164 := inside
  obtain ⟨r, member, inBank, found⟩ := banked p.toNat (List.mem_range.mpr (by omega))
  rw [BitVec.ofNat_toNat, BitVec.setWidth_eq] at found
  have place := findGpio_pin member inBank
  rw [found] at place
  exact ⟨r, member, _, inBank, found, place⟩

/-- The bits of a word differ. -/
theorem shift_injective {j k : Nat} (inside : j < 32) (other : k < 32)
    (same : 1#32 <<< j = 1#32 <<< k) : j = k := by
  have powers := congrArg BitVec.toNat same
  rw [← BitVec.twoPow_eq, ← BitVec.twoPow_eq, BitVec.toNat_twoPow_of_lt inside,
    BitVec.toNat_twoPow_of_lt other] at powers
  exact (Nat.pow_right_inj (by decide)).mp powers

/-- The same bank and bit are the same pin. -/
theorem findGpio_injective {p q : U32} {r : Gpioregs} {b : U32} (inside : p ≤ 164)
    (other : q ≤ 164) (found : findGpio p = some (r, b)) (foundOther : findGpio q = some (r, b)) :
    p = q := by
  obtain ⟨one, member, j, bit, pin, place⟩ := exists_bank inside
  obtain ⟨two, memberOther, k, bitOther, pinOther, placeOther⟩ := exists_bank other
  rw [found, Option.some.injEq, Prod.mk.injEq] at place
  rw [foundOther, Option.some.injEq, Prod.mk.injEq] at placeOther
  obtain ⟨rfl, same⟩ := place
  obtain ⟨rfl, sameOther⟩ := placeOther
  have below := lastBit_lt r member
  have equal : j = k := shift_injective (by omega) (by omega) (same.symm.trans sameOther)
  rw [← pin, ← pinOther, equal]

theorem findGpio_outside {p : U32} (outside : ¬ p ≤ 164) : findGpio p = none := by
  have table : GPIO_REGS.getLast?.map Gpioregs.end_ = some 164 := by decide +kernel
  obtain ⟨last, found, ending⟩ := Option.map_eq_some_iff.mp table
  rw [findGpio, found, Option.bind_some, ending, if_pos (BitVec.not_le.mp outside)]

/-! ## One bit of a word -/

/-- The word with one bit as a value says. -/
def assignBit (word b : U32) (value : Bool) : U32 :=
  if value then word ||| b else Flags.clear word b

theorem test_assignBit (word : U32) (value : Bool) {j k : Nat} (inside : j < 32)
    (other : k < 32) :
    Flags.test (assignBit word (1#32 <<< j) value) (1#32 <<< k) =
      if k = j then value else Flags.test word (1#32 <<< k) := by
  rw [test_bit _ other, test_bit _ other]
  cases value <;> by_cases same : k = j <;>
    simp [-BitVec.getLsbD_eq_getElem, assignBit, Flags.clear, other, same] <;> omega

/-! ## One call -/

section Update

variable {register : Gpioregs → U32} {outputs : Outputs} {n p : U32} {r : Gpioregs} {b : U32}

theorem bank_of_found (found : findGpio n = some (r, b)) :
    n ≤ 164 ∧ r ∈ GPIO_REGS ∧ ∃ j < 32, b = 1#32 <<< j := by
  have inside : n ≤ 164 := by
    by_contra outside
    rw [findGpio_outside outside] at found
    contradiction
  obtain ⟨bank, member, j, bit, -, place⟩ := exists_bank inside
  rw [found, Option.some.injEq, Prod.mk.injEq] at place
  obtain ⟨rfl, rfl⟩ := place
  exact ⟨inside, member, j, Nat.lt_of_le_of_lt bit (lastBit_lt r member), rfl⟩

/-- Where each bank has a register of its own, the bit of one pin changes. -/
theorem pinBit_assignBit
    (own : ∀ one ∈ GPIO_REGS, ∀ two ∈ GPIO_REGS, register one = register two → one = two)
    (found : findGpio n = some (r, b)) (inside : p ≤ 164) (value : Bool) :
    pinBit register
        (Function.update outputs (register r) (assignBit (outputs (register r)) b value)) p =
      if n = p then value else pinBit register outputs p := by
  obtain ⟨named, member, j, bit, rfl⟩ := bank_of_found found
  obtain ⟨bank, memberBank, k, bitBank, -, place⟩ := exists_bank inside
  have below := Nat.lt_of_le_of_lt bitBank (lastBit_lt bank memberBank)
  simp only [pinBit, place]
  by_cases same : bank = r
  · rw [same, Function.update_self, test_assignBit _ _ bit below]
    by_cases bits : k = j
    · have pins := findGpio_injective named inside found (same ▸ bits ▸ place)
      rw [if_pos bits, if_pos pins]
    · have pins : n ≠ p := by
        rintro rfl
        rw [found, Option.some.injEq, Prod.mk.injEq] at place
        exact bits (shift_injective below bit place.2.symm)
      rw [if_neg bits, if_neg pins]
  · have pins : n ≠ p := by
      rintro rfl
      rw [found, Option.some.injEq, Prod.mk.injEq] at place
      exact same place.1.symm
    rw [if_neg pins, Function.update_of_ne]
    exact fun equal => same (own _ memberBank _ member equal)

theorem pinBit_update_of_apart {place word : U32}
    (apart : ∀ one ∈ GPIO_REGS, register one ≠ place) :
    pinBit register (Function.update outputs place word) p = pinBit register outputs p := by
  cases found : findGpio p with
  | none => simp only [pinBit, found]
  | some bank =>
      obtain ⟨-, member, -⟩ := bank_of_found found
      simp only [pinBit, found, Function.update_of_ne (apart _ member)]

end Update

section Calls

variable (outputs : Outputs) {n p : U32} {r : Gpioregs} {b : U32}

theorem oe_own : ∀ one ∈ GPIO_REGS, ∀ two ∈ GPIO_REGS, one.oe = two.oe → one = two := by
  decide +kernel

theorem out_own : ∀ one ∈ GPIO_REGS, ∀ two ∈ GPIO_REGS, one.out = two.out → one = two := by
  decide +kernel

theorem oe_ne_out : ∀ one ∈ GPIO_REGS, ∀ two ∈ GPIO_REGS, one.oe ≠ two.out := by
  decide +kernel

theorem gpioConfig_snd (found : findGpio n = some (r, b)) (flags : U32) :
    (gpioConfig outputs n flags).2 =
      Function.update outputs r.oe
        (assignBit (outputs r.oe) b (Flags.test flags GPIO_OUTPUT)) := by
  simp only [gpioConfig, found, assignBit]
  split <;> rfl

theorem gpioSet_eq (found : findGpio n = some (r, b)) (on : U32) :
    gpioSet outputs n on =
      Function.update (gpioConfig outputs n GPIO_OUTPUT).2 r.out
        (assignBit ((gpioConfig outputs n GPIO_OUTPUT).2 r.out) b (on != 0)) := by
  simp only [gpioSet, found, assignBit, bne_iff_ne]
  split <;> rfl

/-- A call that names no pin does nothing. -/
theorem perform_of_outside {call : Call} (outside : ¬ call.pin ≤ 164) :
    call.perform outputs = outputs := by
  have missing := findGpio_outside outside
  cases call with
  | config n flags => simp only [Call.perform, gpioConfig, show findGpio n = none from missing]
  | set n on => simp only [Call.perform, gpioSet, show findGpio n = none from missing]
  | get input n => simp only [Call.perform, gpioGet, show findGpio n = none from missing]

theorem oe_gpioConfig (found : findGpio n = some (r, b)) (inside : p ≤ 164) (flags : U32) :
    pinBit Gpioregs.oe (gpioConfig outputs n flags).2 p =
      if n = p then Flags.test flags GPIO_OUTPUT else pinBit Gpioregs.oe outputs p := by
  rw [gpioConfig_snd outputs found]
  exact pinBit_assignBit oe_own found inside _

theorem out_gpioConfig (found : findGpio n = some (r, b)) (flags : U32) :
    pinBit Gpioregs.out (gpioConfig outputs n flags).2 p = pinBit Gpioregs.out outputs p := by
  obtain ⟨-, member, -⟩ := bank_of_found found
  rw [gpioConfig_snd outputs found]
  exact pinBit_update_of_apart fun one others => (oe_ne_out r member one others).symm

/-- A call gives its own pin its direction, and no other. -/
theorem oe_perform (call : Call) (inside : p ≤ 164) :
    pinBit Gpioregs.oe (call.perform outputs) p =
      (if call.pin = p then some call.direction else none).getD
        (pinBit Gpioregs.oe outputs p) := by
  by_cases named : call.pin ≤ 164
  · obtain ⟨r, member, j, -, -, found⟩ := exists_bank named
    rw [apply_ite (Option.getD · _), Option.getD_some, Option.getD_none]
    cases call with
    | config n flags => exact oe_gpioConfig outputs found inside flags
    | set n on =>
        rw [Call.perform, show gpioSet outputs n on = _ from gpioSet_eq outputs found on,
          pinBit_update_of_apart fun one others => oe_ne_out one others r member]
        exact oe_gpioConfig outputs found inside GPIO_OUTPUT
    | get input n =>
        simp only [Call.perform, gpioGet, show findGpio n = _ from found]
        exact oe_gpioConfig outputs found inside GPIO_INPUT
  · have other : call.pin ≠ p := fun same => named (same ▸ inside)
    rw [perform_of_outside outputs named, if_neg other, Option.getD_none]

/-- Only `gpio_set` gives its pin a value. -/
theorem out_perform (call : Call) (inside : p ≤ 164) :
    pinBit Gpioregs.out (call.perform outputs) p =
      (if call.pin = p then call.value? else none).getD (pinBit Gpioregs.out outputs p) := by
  by_cases named : call.pin ≤ 164
  · obtain ⟨r, member, j, -, -, found⟩ := exists_bank named
    cases call with
    | config n flags =>
        rw [Call.value?, ite_self, Option.getD_none]
        exact out_gpioConfig outputs found flags
    | set n on =>
        rw [Call.perform, show gpioSet outputs n on = _ from gpioSet_eq outputs found on,
          pinBit_assignBit out_own found inside, out_gpioConfig outputs found,
          apply_ite (Option.getD · _)]
        rfl
    | get input n =>
        simp only [Call.perform, gpioGet, show findGpio n = _ from found]
        rw [Call.value?, ite_self, Option.getD_none]
        exact out_gpioConfig outputs found GPIO_INPUT
  · have other : call.pin ≠ p := fun same => named (same ▸ inside)
    rw [perform_of_outside outputs named, if_neg other, Option.getD_none]

/-! ## Any calls -/

/-- After any calls a pin has the direction from the last call and the value from the last
`gpio_set` that named it, calls that name no pin or another one change nothing about it, and
it shares its bank and bit with no other pin. -/
theorem pins_independent (calls : List Call) (inside : p ≤ 164) :
    pinBit Gpioregs.oe (calls.foldl Call.perform outputs) p =
        (lastDirection? calls p).getD (pinBit Gpioregs.oe outputs p) ∧
      pinBit Gpioregs.out (calls.foldl Call.perform outputs) p =
        (lastValue? calls p).getD (pinBit Gpioregs.out outputs p) ∧
      (∀ call : Call, call.pin ≠ p →
        pinBit Gpioregs.oe (call.perform outputs) p = pinBit Gpioregs.oe outputs p ∧
        pinBit Gpioregs.out (call.perform outputs) p = pinBit Gpioregs.out outputs p) ∧
      ∀ q ≤ 164, q ≠ p → findGpio q ≠ findGpio p := by
  refine ⟨?_, ?_, fun call other => ?_, fun q within other same => ?_⟩
  · exact @Transition.observe_foldl _ _ _ Call.perform (pinBit Gpioregs.oe · p) _
      (fun state call => oe_perform state call inside) calls outputs
  · exact @Transition.observe_foldl _ _ _ Call.perform (pinBit Gpioregs.out · p) _
      (fun state call => out_perform state call inside) calls outputs
  · rw [oe_perform outputs call inside, out_perform outputs call inside, if_neg other,
      if_neg other]
    exact ⟨rfl, rfl⟩
  · obtain ⟨r, -, j, -, -, found⟩ := exists_bank inside
    exact other (findGpio_injective within inside (same.trans found) found)

end Calls

/-- Pin 42 is the last one of its bank, and the two others are its neighbours. -/
theorem pins_independent_neighbours :
    pinBit Gpioregs.oe
        ([.set 42 1, .set 43 0, .get 0 41, .config 165 1].foldl Call.perform fun _ => 0) 42 =
        true ∧
      pinBit Gpioregs.out
        ([.set 42 1, .set 43 0, .get 0 41, .config 165 1].foldl Call.perform fun _ => 0) 42 =
        true := by
  have last := pins_independent (fun _ => 0) [.set 42 1, .set 43 0, .get 0 41, .config 165 1]
    (p := 42) (by decide)
  exact ⟨last.1, last.2.1⟩

end HtcLeo.Gpio
