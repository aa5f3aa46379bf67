import Mathlib.Data.List.Nodup
import Mathlib.Data.List.Pairwise
import HtcLeo.Word.Flags

/-!
# The pins and their banks

The 165 pins are numbered throughout and come in eight banks, each with a register of
every kind.  A pin is found by the range of numbers of its bank, and has the same bit in
all registers of the bank.
-/

namespace HtcLeo.Gpio

/-! ## The table -/

/-- The addresses of the registers of a bank, and its first and its last pin. -/
structure Gpioregs where
  out : U32
  in_ : U32
  intStatus : U32
  intClear : U32
  intEn : U32
  intPos : U32
  oe : U32
  start : U32
  end_ : U32
  deriving DecidableEq, Repr

def MSM_GPIO1_BASE : U32 := 0xA9000000
def MSM_GPIO2_BASE : U32 := 0xA9100000

def GPIO1_REG (off : U32) : U32 := MSM_GPIO1_BASE + 0x800 + off
def GPIO2_REG (off : U32) : U32 := MSM_GPIO2_BASE + 0xC00 + off

def GPIO_REGS : List Gpioregs :=
  [{ out := GPIO1_REG 0x00, in_ := GPIO1_REG 0x50, intStatus := GPIO1_REG 0xF0,
     intClear := GPIO1_REG 0xD0, intEn := GPIO1_REG 0xB0, intPos := GPIO1_REG 0x90,
     oe := GPIO1_REG 0x20, start := 0, end_ := 15 },
   { out := GPIO2_REG 0x00, in_ := GPIO2_REG 0x20, intStatus := GPIO2_REG 0x70,
     intClear := GPIO2_REG 0x68, intEn := GPIO2_REG 0x60, intPos := GPIO2_REG 0x58,
     oe := GPIO2_REG 0x08, start := 16, end_ := 42 },
   { out := GPIO1_REG 0x04, in_ := GPIO1_REG 0x54, intStatus := GPIO1_REG 0xF4,
     intClear := GPIO1_REG 0xD4, intEn := GPIO1_REG 0xB4, intPos := GPIO1_REG 0x94,
     oe := GPIO1_REG 0x24, start := 43, end_ := 67 },
   { out := GPIO1_REG 0x08, in_ := GPIO1_REG 0x58, intStatus := GPIO1_REG 0xF8,
     intClear := GPIO1_REG 0xD8, intEn := GPIO1_REG 0xB8, intPos := GPIO1_REG 0x98,
     oe := GPIO1_REG 0x28, start := 68, end_ := 94 },
   { out := GPIO1_REG 0x0C, in_ := GPIO1_REG 0x5C, intStatus := GPIO1_REG 0xFC,
     intClear := GPIO1_REG 0xDC, intEn := GPIO1_REG 0xBC, intPos := GPIO1_REG 0x9C,
     oe := GPIO1_REG 0x2C, start := 95, end_ := 103 },
   { out := GPIO1_REG 0x10, in_ := GPIO1_REG 0x60, intStatus := GPIO1_REG 0x100,
     intClear := GPIO1_REG 0xE0, intEn := GPIO1_REG 0xC0, intPos := GPIO1_REG 0xA0,
     oe := GPIO1_REG 0x30, start := 104, end_ := 121 },
   { out := GPIO1_REG 0x14, in_ := GPIO1_REG 0x64, intStatus := GPIO1_REG 0x103,
     intClear := GPIO1_REG 0xE4, intEn := GPIO1_REG 0xC4, intPos := GPIO1_REG 0xA4,
     oe := GPIO1_REG 0x34, start := 122, end_ := 152 },
   { out := GPIO1_REG 0x18, in_ := GPIO1_REG 0x68, intStatus := GPIO1_REG 0x108,
     intClear := GPIO1_REG 0xE8, intEn := GPIO1_REG 0xC8, intPos := GPIO1_REG 0xA8,
     oe := GPIO1_REG 0x38, start := 153, end_ := 164 }]

/-- The bank of a pin and its bit, or a null pointer.  If no bank had the pin, the loop would
end at the last one, with the bit that callers start with. -/
def findGpio (n : U32) : Option (Gpioregs × U32) :=
  GPIO_REGS.getLast?.bind fun last =>
    if last.end_ < n then none
    else
      match GPIO_REGS.find? fun r => r.start ≤ n ∧ n ≤ r.end_ with
      | some r => some (r, 1#32 <<< (n - r.start).toNat)
      | none => some (last, 0)

/-! ## Banks -/

/-- The number of the last bit of a bank. -/
def Gpioregs.lastBit (r : Gpioregs) : Nat := (r.end_ - r.start).toNat

/-- The number of the pin with a bit. -/
def Gpioregs.pin (r : Gpioregs) (j : Nat) : U32 := r.start + BitVec.ofNat 32 j

/-- The registers of a bank. -/
def Gpioregs.places (r : Gpioregs) : List U32 :=
  [r.out, r.in_, r.intStatus, r.intClear, r.intEn, r.intPos, r.oe]

/-- Every pin of a bank is found there. -/
theorem findGpio_pin {r : Gpioregs} (member : r ∈ GPIO_REGS) {j : Nat} (inside : j ≤ r.lastBit) :
    findGpio (r.pin j) = some (r, 1#32 <<< j) := by
  have found : ∀ r ∈ GPIO_REGS, ∀ j ∈ List.range (r.lastBit + 1),
      findGpio (r.pin j) = some (r, 1#32 <<< j) := by
    decide +kernel
  exact found r member j (List.mem_range.mpr (Nat.lt_succ_of_le inside))

theorem lastBit_lt : ∀ r ∈ GPIO_REGS, r.lastBit < 32 := by
  decide +kernel

theorem gpioRegs_nodup : GPIO_REGS.Nodup := by
  decide +kernel

/-- No two registers have the same address. -/
theorem places_nodup : (GPIO_REGS.flatMap Gpioregs.places).Nodup := by
  decide +kernel

theorem places_nodup_of_mem {r : Gpioregs} (member : r ∈ GPIO_REGS) : r.places.Nodup :=
  (List.nodup_flatMap.mp places_nodup).1 r member

/-- A register belongs to one bank. -/
theorem notMem_places {r other : Gpioregs} (member : r ∈ GPIO_REGS) (others : other ∈ GPIO_REGS)
    (apart : r ≠ other) {place : U32} (own : place ∈ r.places) : place ∉ other.places := by
  have disjoint := (List.nodup_flatMap.mp places_nodup).2
  have symmetric : Std.Symm (Function.onFun List.Disjoint Gpioregs.places) :=
    ⟨fun _ _ => List.disjoint_symm⟩
  exact disjoint.forall member others apart own

end HtcLeo.Gpio
