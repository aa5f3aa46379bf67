import Mathlib.Data.List.Basic
import HtcLeo.Word.Flags

/-!
# The charging application

Every 100 ms `WantsCharging` looks at USB power, the battery voltage and the AC
adapter, and moves a state machine whose entry actions drive two GPIO lines: the
charger enable line (`0` enables) and the charging current (`1` selects high).
The battery gauge is read over I2C; `ds2746_voltage` ignores the result of the
reads, so a failed one contributes whatever its byte happens to hold.
-/

namespace HtcLeo.Charging

/-! ## The battery gauge -/

/-- One register read over I2C: whether it succeeded, and the byte it left. -/
structure RegisterRead where
  ok : Bool
  byte : U8
  deriving DecidableEq, Repr

def DS2746_VOLTAGE_RES : U32 := 2440

/-- `ds2746_voltage`. -/
def ds2746Voltage (msb lsb : RegisterRead) : U32 :=
  let vol := (msb.byte.setWidth 32 <<< 8) ||| lsb.byte.setWidth 32
  ((vol >>> 4) * DS2746_VOLTAGE_RES) / 1000

/-- The voltage that two register bytes encode, in millivolts. -/
def millivolts (msb lsb : U8) : Nat :=
  (256 * msb.toNat + lsb.toNat) / 16 * 2440 / 1000

theorem word_toNat (msb lsb : U8) :
    ((msb.setWidth 32 <<< 8) ||| lsb.setWidth 32 : U32).toNat =
      256 * msb.toNat + lsb.toNat := by
  have below := lsb.isLt
  have small := msb.isLt
  have disjoint : (msb.setWidth 32 <<< 8 : U32).toNat = msb.toNat <<< 8 := by
    rw [BitVec.toNat_shiftLeft, BitVec.toNat_setWidth, Nat.shiftLeft_eq, Nat.shiftLeft_eq]
    omega
  rw [BitVec.toNat_or, disjoint, BitVec.toNat_setWidth, Nat.mod_eq_of_lt (by omega),
    ← Nat.shiftLeft_add_eq_or_of_lt below, Nat.shiftLeft_eq]
  omega

/-- No intermediate result overflows. -/
theorem ds2746Voltage_toNat (msb lsb : RegisterRead) :
    (ds2746Voltage msb lsb).toNat = millivolts msb.byte lsb.byte := by
  have small := msb.byte.isLt
  have below := lsb.byte.isLt
  have bound : (256 * msb.byte.toNat + lsb.byte.toNat) / 16 < 4096 := by omega
  have scale : (2440 : U32).toNat = 2440 := rfl
  have thousand : (1000 : U32).toNat = 1000 := rfl
  simp only [ds2746Voltage, DS2746_VOLTAGE_RES, scale, thousand, BitVec.toNat_udiv,
    BitVec.toNat_mul, BitVec.toNat_ushiftRight, word_toNat, Nat.shiftRight_eq_div_pow,
    millivolts]
  rw [Nat.mod_eq_of_lt (by omega)]

/-! ## Lines and effects -/

/-- The two output lines of the charger. -/
inductive Line where
  | chargerEnable
  | chargerCurrent
  deriving DecidableEq, Repr

/-- The output levels of the two lines. -/
structure Lines where
  chargerEnable : Bool
  chargerCurrent : Bool
  deriving DecidableEq, Repr

/-- Whatever a tick does to the outside, in the order in which it does it. -/
inductive Effect where
  | gpioSet (line : Line) (on : Bool)
  | gpioConfig (line : Line)
  | usbCommand (value : U32)
  | ulpiWrite (val reg : U32)
  | microSecondDelay (us : U32)
  | ledSetMode (mode : U32)
  deriving DecidableEq, Repr

/-- One line set, the other left as it is. -/
def Lines.set (lines : Lines) (on : Bool) : Line → Lines
  | .chargerEnable => { lines with chargerEnable := on }
  | .chargerCurrent => { lines with chargerCurrent := on }

/-- Only `Set` changes a level; `Config` drives the level already there. -/
def Lines.apply (lines : Lines) : Effect → Lines
  | .gpioSet line on => lines.set on line
  | _ => lines

/-- The lines after a list of effects. -/
def Lines.applyAll (lines : Lines) (effects : List Effect) : Lines :=
  effects.foldl Lines.apply lines

/-! ## The state machine -/

/-- `PSY_CHARGER_STATE`. -/
inductive PsyChargerState where
  | CHG_OFF
  | CHG_AC
  | CHG_USB_LOW
  | CHG_USB_HIGH
  | CHG_OFF_FULL_BAT
  deriving DecidableEq, Repr

open PsyChargerState

/-- `gGpio->Set(line, on)` followed by `gGpio->Config(line, GPIO_OUTPUT)`. -/
def drive (line : Line) (on : Bool) : List Effect :=
  [.gpioSet line on, .gpioConfig line]

/-- The entry actions of a state. -/
def setCharger : PsyChargerState → List Effect
  | CHG_USB_LOW => drive .chargerEnable false ++ drive .chargerCurrent false
  | CHG_AC | CHG_USB_HIGH => drive .chargerCurrent true ++ drive .chargerEnable false
  | CHG_OFF_FULL_BAT | CHG_OFF => drive .chargerEnable true ++ drive .chargerCurrent true

/-- `default_chg_voltage_threshold[VOLTAGE_4100]`. -/
def voltageThreshold4100 : U32 := 4100

def LED_OFF : U32 := 0
def LED_GREEN : U32 := 1
def LED_AMBER : U32 := 2

/-- What one tick reads. -/
structure Tick where
  usb : Bool
  msb : RegisterRead
  lsb : RegisterRead
  ac : Bool
  deriving DecidableEq, Repr

/-- The state that a tick asks for. -/
def Tick.wanted (tick : Tick) : PsyChargerState :=
  if tick.usb then
    if ds2746Voltage tick.msb tick.lsb < voltageThreshold4100 then
      if tick.ac then CHG_AC else CHG_USB_LOW
    else CHG_OFF_FULL_BAT
  else CHG_OFF

/-- `if (gState != state) { prepare; SetCharger(state); }`. -/
def enter (gState state : PsyChargerState) (prepare : List Effect) :
    PsyChargerState × List Effect :=
  if gState ≠ state then (state, prepare ++ setCharger state) else (gState, [])

/-- One tick: the next state and the effects in order. -/
def wantsCharging (gState : PsyChargerState) (tick : Tick) : PsyChargerState × List Effect :=
  if tick.usb then
    if ds2746Voltage tick.msb tick.lsb < voltageThreshold4100 then
      let entered :=
        if tick.ac then enter gState CHG_AC [.usbCommand 0x00080000, .ulpiWrite 0x48 0x04]
        else enter gState CHG_USB_LOW [.usbCommand 0x00080001, .microSecondDelay 10]
      (entered.1, entered.2 ++ [.ledSetMode LED_AMBER])
    else
      let entered := enter gState CHG_OFF_FULL_BAT [.usbCommand 0x00080001, .microSecondDelay 10]
      (entered.1, entered.2 ++ [.ledSetMode LED_GREEN])
  else
    let entered := enter gState CHG_OFF [.usbCommand 0x00080001, .microSecondDelay 10]
    (entered.1, entered.2 ++ [.ledSetMode LED_OFF])

end HtcLeo.Charging
