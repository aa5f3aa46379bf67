import HtcLeo.Poll.Triple
import HtcLeo.Word.Flags

/-!
# The CPU clock

The CPU runs from one of two banks of `SPSS_CLK_CNTL` (the raw source) or from the
SCPLL, as two fields of `SPSS_CLK_SEL` say.  The speed is changed by stepping over to
the standby clock, programming the SCPLL, and stepping back.  The only inputs are the
status words of the SCPLL; every write of a register is logged.
-/

namespace HtcLeo.Acpu

open Poll

/-! ## Speeds -/

def CLK_TCXO : U32 := 0
def CLK_MODEM_PLL : U32 := 4

def CCTL (src div : U32) : U32 := (src <<< 4) ||| (div - 1)

def SRC_RAW : U32 := 0
def SRC_SCPLL : U32 := 1

/-- What the clock code uses of `clkctl_acpu_speed`. -/
structure ClkctlAcpuSpeed where
  acpuKhz : U32
  clkCfg : U32
  clkSel : U32
  scLValue : U32
  deriving DecidableEq, Repr

/-- `acpu_freq_tbl`. -/
def acpuFreqTbl : List ClkctlAcpuSpeed :=
  [⟨245000, CCTL CLK_MODEM_PLL 1, SRC_RAW, 0x00⟩,
    ⟨384000, CCTL CLK_TCXO 1, SRC_SCPLL, 0x0A⟩, ⟨422400, CCTL CLK_TCXO 1, SRC_SCPLL, 0x0B⟩,
    ⟨460800, CCTL CLK_TCXO 1, SRC_SCPLL, 0x0C⟩, ⟨499200, CCTL CLK_TCXO 1, SRC_SCPLL, 0x0D⟩,
    ⟨537600, CCTL CLK_TCXO 1, SRC_SCPLL, 0x0E⟩, ⟨576000, CCTL CLK_TCXO 1, SRC_SCPLL, 0x0F⟩,
    ⟨614400, CCTL CLK_TCXO 1, SRC_SCPLL, 0x10⟩, ⟨652800, CCTL CLK_TCXO 1, SRC_SCPLL, 0x11⟩,
    ⟨691200, CCTL CLK_TCXO 1, SRC_SCPLL, 0x12⟩, ⟨729600, CCTL CLK_TCXO 1, SRC_SCPLL, 0x13⟩,
    ⟨768000, CCTL CLK_TCXO 1, SRC_SCPLL, 0x14⟩, ⟨806400, CCTL CLK_TCXO 1, SRC_SCPLL, 0x15⟩,
    ⟨844800, CCTL CLK_TCXO 1, SRC_SCPLL, 0x16⟩, ⟨883200, CCTL CLK_TCXO 1, SRC_SCPLL, 0x17⟩,
    ⟨921600, CCTL CLK_TCXO 1, SRC_SCPLL, 0x18⟩, ⟨960000, CCTL CLK_TCXO 1, SRC_SCPLL, 0x19⟩,
    ⟨998400, CCTL CLK_TCXO 1, SRC_SCPLL, 0x1A⟩, ⟨0, 0, 0, 0⟩]

/-- `&acpu_freq_tbl[0]`. -/
def acpuStby : ClkctlAcpuSpeed := ⟨245000, CCTL CLK_MODEM_PLL 1, SRC_RAW, 0x00⟩

def IS_ACPU_STANDBY (speed : ClkctlAcpuSpeed) : Bool :=
  speed.clkCfg == acpuStby.clkCfg && speed.clkSel == acpuStby.clkSel

/-- The search of `acpuclk_set_rate`: the entry without a rate ends the table. -/
def findRate (rate : U32) : List ClkctlAcpuSpeed → Option ClkctlAcpuSpeed
  | [] => none
  | next :: rest =>
      if next.acpuKhz = rate then some next
      else if next.acpuKhz = 0 then none
      else findRate rate rest

/-! ## Registers -/

/-- The registers of the CPU clock that the driver writes. -/
inductive Register where
  | clkCntl
  | clkSel
  | scpllCtl
  | scpllFsmCtlExt
  deriving DecidableEq, Repr

/-- What each register holds. -/
structure Registers where
  clkCntl : U32
  clkSel : U32
  scpllCtl : U32
  scpllFsmCtlExt : U32
  deriving DecidableEq, Repr

/-- A write of one register leaves the others as they are. -/
def Registers.set (registers : Registers) (value : U32) : Register → Registers
  | .clkCntl => { registers with clkCntl := value }
  | .clkSel => { registers with clkSel := value }
  | .scpllCtl => { registers with scpllCtl := value }
  | .scpllFsmCtlExt => { registers with scpllFsmCtlExt := value }

/-- One write, with the registers that it found. -/
structure Write where
  before : Registers
  register : Register
  value : U32
  deriving DecidableEq, Repr

/-- The registers, the file's variables, and the writes with the last one first.
`mpllMode` is the mode register of the modem PLL; `none` is a null `current_speed`. -/
structure Cpu where
  registers : Registers
  mpllMode : U32
  currentSpeed : Option ClkctlAcpuSpeed
  acpuclkInitDone : Bool
  log : List Write
  deriving DecidableEq, Repr

/-- `writel`; the write is put in front of the log. -/
def Cpu.writel (cpu : Cpu) (value : U32) (register : Register) : Cpu :=
  { cpu with
    registers := cpu.registers.set value register
    log := ⟨cpu.registers, register, value⟩ :: cpu.log }

/-! ## The SCPLL -/

def SHOT_SWITCH : U32 := 4
def HOP_SWITCH : U32 := 5

def PLLMODE_POWERDOWN : U32 := 0
def PLLMODE_STANDBY : U32 := 2
def PLLMODE_NORMAL : U32 := 7
def PLLMODE_MASK : U32 := 7

/-- `while (readl(SCPLL_STATUS_ADDR) & mask);`. -/
def waitStatus (mask : U32) : Poll U32 Cpu Unit :=
  loop (fun _ => next >>= fun status =>
    pure (if Flags.test status mask then .inl () else .inr ())) ()

/-- The writes of `scpll_power_down`. -/
def Cpu.powerDown (cpu : Cpu) : Cpu :=
  let val := (cpu.registers.scpllCtl &&& ~~~PLLMODE_MASK) ||| PLLMODE_STANDBY
  let cpu := cpu.writel val .scpllCtl
  cpu.writel ((val &&& ~~~PLLMODE_MASK) ||| PLLMODE_POWERDOWN) .scpllCtl

/-- `scpll_power_down`. -/
def scpllPowerDown : Poll U32 Cpu Unit := do
  waitStatus 0x1
  modify Cpu.powerDown

/-- Set the L value and a switch mode, and go to the normal mode. -/
def Cpu.switchTo (lval mode : U32) (cpu : Cpu) : Cpu :=
  let cpu := cpu.writel
    ((cpu.registers.scpllFsmCtlExt &&& ~~~0x1FF#32) ||| (lval <<< 3) ||| mode) .scpllFsmCtlExt
  cpu.writel (cpu.registers.scpllCtl ||| PLLMODE_NORMAL) .scpllCtl

/-- From standby to 384 MHz. -/
def Cpu.calibrate (cpu : Cpu) : Cpu :=
  let cpu := cpu.writel
    ((cpu.registers.scpllCtl &&& ~~~PLLMODE_MASK) ||| PLLMODE_STANDBY) .scpllCtl
  cpu.switchTo 0x0A SHOT_SWITCH

/-- `if (lval > 33) lval = 33; if (lval < 10) lval = 10;`. -/
def clampLval (lval : U32) : U32 :=
  let lval := if lval > 33 then 33 else lval
  if lval < 10 then 10 else lval

/-- The part of `scpll_set_freq` for a PLL that is not in the normal mode. -/
def scpllStart : Poll U32 Cpu Unit :=
  get >>= fun cpu =>
    if cpu.registers.scpllCtl &&& PLLMODE_MASK ≠ PLLMODE_NORMAL then do
      modify Cpu.calibrate
      waitStatus 0x1
    else pure ()

/-- `scpll_set_freq`. -/
def scpllSetFreq (lval : U32) : Poll U32 Cpu Unit := do
  waitStatus 0x3
  scpllStart
  modify (Cpu.switchTo (clampLval lval) HOP_SWITCH)
  waitStatus 0x1

/-! ## The source -/

/-- The bank that is not in use. -/
def otherShift (sel : U32) : Nat := if sel &&& 1 ≠ 0 then 8 else 0

/-- Configure the other bank and switch to it. -/
def Cpu.switchBank (config : U32) (cpu : Cpu) : Cpu :=
  let sel := cpu.registers.clkSel
  let shift := otherShift sel
  let cpu := cpu.writel
    ((cpu.registers.clkCntl &&& ~~~(0x7F#32 <<< shift)) ||| (config <<< shift)) .clkCntl
  cpu.writel (sel ^^^ 1) .clkSel

/-- `select_clock`. -/
def selectClock (src config : U32) (cpu : Cpu) : Cpu :=
  let cpu := if src = SRC_RAW then cpu.switchBank config else cpu
  let val := cpu.registers.clkSel &&& ~~~6#32
  cpu.writel (val ||| ((src &&& 3) <<< 1)) .clkSel

/-! ## Entry points -/

/-- The computation never returns and writes nothing more. -/
def spin {α : Type} : Poll U32 Cpu α := fun _ _ => none

/-- The current speed steps aside, unless it is the standby speed. -/
def stepAside (cur : ClkctlAcpuSpeed) : Poll U32 Cpu Unit :=
  if IS_ACPU_STANDBY cur then pure ()
  else modify (selectClock acpuStby.clkSel acpuStby.clkCfg)

/-- From one speed to another. -/
def switchSpeed (cur next : ClkctlAcpuSpeed) : Poll U32 Cpu Unit :=
  if next.clkSel = SRC_SCPLL then do
    stepAside cur
    scpllSetFreq next.scLValue
    modify (selectClock SRC_SCPLL 0)
  else if cur.clkSel = SRC_SCPLL then do
    modify (selectClock acpuStby.clkSel acpuStby.clkCfg)
    modify (selectClock next.clkSel next.clkCfg)
    scpllPowerDown
  else modify (selectClock next.clkSel next.clkCfg)

/-- The requested rate is in Hz; a null `current_speed` cannot be read. -/
def acpuclkSetRate (rate : U32) : Poll U32 Cpu Int :=
  get >>= fun cpu =>
    match cpu.currentSpeed with
    | none => spin
    | some cur =>
        if rate / 1000 = cur.acpuKhz ∨ rate / 1000 = 0 then pure 0
        else
          match findRate (rate / 1000) acpuFreqTbl with
          | none => pure (-1)
          | some next => do
              switchSpeed cur next
              modify fun cpu => { cpu with currentSpeed := some next }
              pure 0

/-- The speed at which the boot loader left the CPU. -/
def acpuclkFindSpeed : Poll U32 Cpu U32 :=
  get >>= fun cpu =>
    let source := (cpu.registers.clkSel &&& 6) >>> 1
    if source = 1 then
      pure (((cpu.registers.scpllFsmCtlExt >>> 3) &&& 0x3f) * 38400)
    else if source = 2 then pure 128000
    else spin

/-- The switch to a speed by way of the standby clock, at boot. -/
def bootSwitch (speed : ClkctlAcpuSpeed) : Poll U32 Cpu Unit := do
  modify (selectClock acpuStby.clkSel acpuStby.clkCfg)
  scpllPowerDown
  scpllSetFreq speed.scLValue
  modify (selectClock SRC_SCPLL 0)

/-- The requests of the modem PLL go to the modem and touch none of these registers. -/
def acpuclkInit (freqNum : Nat) : Poll U32 Cpu Unit :=
  get >>= fun cpu =>
    if cpu.acpuclkInitDone then pure ()
    else do
      let _ ← acpuclkFindSpeed
      if cpu.mpllMode &&& 1 = 0 then spin
      else
        match acpuFreqTbl[freqNum]? with
        | none => spin
        | some speed => do
          modify fun cpu => { cpu with currentSpeed := some speed }
          bootSwitch speed
          modify fun cpu => { cpu with acpuclkInitDone := true }

/-- The argument of the driver's `msm_acpu_clock_init(11+6)`. -/
def bootFreqNum : Nat := 11 + 6

end HtcLeo.Acpu
