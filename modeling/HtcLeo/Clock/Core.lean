import Mathlib.Logic.Function.Basic
import HtcLeo.Pcom.Core

/-!
# The clock driver

The driver keeps a table `ClocksLookup` from its clock ids to the modem's clock
numbers, `-1` for a clock the modem does not know.  Every operation passes a
pointer into that table to `msmProcComm`, which writes the modem's first answer
word back through it.
-/

namespace HtcLeo.Clock

open Poll Pcom

/-! ## Clock ids -/

abbrev NR_CLKS : Nat := 100

/-- A clock id inside the table. -/
abbrev ClkId := Fin NR_CLKS

def ADM_CLK : ClkId := 1
def ECODEC_CLK : ClkId := 5
def GRP_CLK : ClkId := 8
def ICODEC_RX_CLK : ClkId := 10
def ICODEC_TX_CLK : ClkId := 11
def IMEM_CLK : ClkId := 12
def MDC_CLK : ClkId := 13
def MDP_CLK : ClkId := 14
def SDC1_CLK : ClkId := 19
def SDC1_PCLK : ClkId := 20
def SDC2_CLK : ClkId := 21
def SDC2_PCLK : ClkId := 22
def SDC4_PCLK : ClkId := 26
def UART1DM_CLK : ClkId := 34
def UART2DM_CLK : ClkId := 35
def VFE_MDC_CLK : ClkId := 40
def VFE_CLK : ClkId := 41
def SPI_CLK : ClkId := 45
def VFE_AXI_CLK : ClkId := 46
def SDAC_MCLK : ClkId := 87

/-- The entries that `FillClocksLookup` assigns after the default `-1`. -/
def usedClocks : List (ClkId × U32) :=
  [(ICODEC_RX_CLK, 50), (ICODEC_TX_CLK, 52), (ECODEC_CLK, 42), (SDAC_MCLK, 64), (IMEM_CLK, 55),
    (GRP_CLK, 56), (ADM_CLK, 19), (UART1DM_CLK, 78), (UART2DM_CLK, 80), (VFE_AXI_CLK, 24),
    (VFE_MDC_CLK, 40), (VFE_CLK, 41), (MDC_CLK, 53), (SPI_CLK, 95), (MDP_CLK, 9), (SDC1_CLK, 66),
    (SDC2_CLK, 67), (SDC1_PCLK, 17), (SDC2_PCLK, 16)]

/-- `FillClocksLookup`: a clock that is not in use has `-1`. -/
def fillClocksLookup (id : ClkId) : U32 :=
  (usedClocks.lookup id).getD (-1)

/-! ## Speeds -/

/-- `if (Rate > a) Speed = s; else if …; else Speed = last`. -/
def above (rate : U32) : List (U32 × U32) → U32 → U32
  | [], last => last
  | (bound, speed) :: rest, last => if rate > bound then speed else above rate rest last

/-- `if (Rate == a) Speed = s; else if …; else return 0`. -/
def exactly (rate : U32) (speeds : List (U32 × U32)) : Except U32 U32 :=
  match speeds.lookup rate with
  | some speed => .ok speed
  | none => .error 0

/-- The speeds of the I2S codec clocks. -/
def icodecSpeeds : List (U32 × U32) :=
  [(11289600, 9), (8192000, 8), (6144000, 7), (5644800, 6), (4096000, 5), (3072000, 4),
    (2822400, 3), (2048000, 2)]

/-- The speeds of the SDAC clock. -/
def sdacSpeeds : List (U32 × U32) :=
  [(1411200, 9), (1024000, 8), (768000, 7), (705600, 6), (512000, 5), (384000, 4), (352800, 3),
    (256000, 2)]

/-- The speeds of the UART clocks. -/
def uartSpeeds : List (U32 × U32) :=
  [(61440000, 15), (58982400, 14), (56000000, 13), (51200000, 12), (48000000, 11),
    (40000000, 10), (32000000, 9), (24000000, 8), (16000000, 7), (15360000, 6), (14745600, 5),
    (7680000, 4), (7372800, 3), (3840000, 2)]

/-- The speeds of the SD card clocks. -/
def sdcSpeeds : List (U32 × U32) :=
  [(50000000, 14), (49152000, 13), (45000000, 12), (40000000, 11), (35000000, 10),
    (30000000, 9), (25000000, 8), (20000000, 7), (15000000, 6), (10000000, 5), (5000000, 4),
    (400000, 3), (144000, 2)]

/-- The `switch` of `CotullaClkSetRate`: a speed to ask for, or a value to return
without asking. -/
def selectSpeed (id : ClkId) (rate : U32) : Except U32 U32 :=
  if id = ICODEC_RX_CLK then .ok (above rate icodecSpeeds 1)
  else if id = ICODEC_TX_CLK then .ok (above rate icodecSpeeds 1)
  else if id = SDAC_MCLK then .ok (above rate sdacSpeeds 1)
  else if id = UART1DM_CLK then .ok (above rate uartSpeeds 1)
  else if id = UART2DM_CLK then .ok (above rate uartSpeeds 1)
  else if id = ECODEC_CLK then .ok (above rate [(2048000, 3), (128000, 2)] 1)
  else if id = VFE_MDC_CLK then
    exactly rate [(96000000, 37), (48000000, 32), (24000000, 22), (12000000, 14), (6000000, 6),
      (3000000, 1)]
  else if id = VFE_CLK then
    exactly rate [(36000000, 1), (48000000, 2), (64000000, 3), (78000000, 4), (96000000, 5)]
  else if id = SPI_CLK then
    .ok (above rate [(15360000, 5), (9600000, 4), (4800000, 3), (960000, 2)] 1)
  else if id = SDC1_CLK then .ok (above rate sdcSpeeds 1)
  else if id = SDC2_CLK then .ok (above rate sdcSpeeds 1)
  else if id = SDC1_PCLK ∨ id = SDC2_PCLK then .error 0
  else .error (-1)

/-! ## Operations -/

/-- The driver's table beside the shared memory it talks through. -/
structure Clocks where
  clocksLookup : ClkId → U32
  shared : Shared

/-- `msm_proc_comm(command, &ClocksLookup[Id], data2)`. -/
def procCommAt (command : U32) (id : ClkId) (data2 : Option U32) :
    Poll Modem Clocks (Int × Option U32) := do
  let clocks ← get
  let entry := clocks.clocksLookup id
  let outcome ← zoom Clocks.shared (fun shared clocks => { clocks with shared })
    (msmProcComm command (some entry) data2)
  modify fun clocks =>
    { clocks with
      clocksLookup := Function.update clocks.clocksLookup id (outcome.2.1.getD entry) }
  pure (outcome.1, outcome.2.2)

/-- `CotullaClkSetRate`. -/
def cotullaClkSetRate (id : ClkId) (rate : U32) : Poll Modem Clocks U32 :=
  match selectSpeed id rate with
  | .error retval => pure retval
  | .ok speed => do
      let _ ← procCommAt PCOM_CLK_REGIME_SEC_SEL_SPEED id (some speed)
      pure 0

/-- `ClkSetRate`. -/
def clkSetRate (id : ClkId) (freq : U32) : Poll Modem Clocks U32 := do
  let retval ← cotullaClkSetRate id freq
  pure (if retval ≠ -1 then retval else -1)

/-- `ClkGetRate`. -/
def clkGetRate (id : ClkId) : Poll Modem Clocks U32 :=
  get >>= fun clocks =>
    if clocks.clocksLookup id ≠ -1 then do
      let outcome ← procCommAt PCOM_CLK_REGIME_SEC_MSM_GET_CLK_FREQ_KHZ id (some 0)
      pure (outcome.2.getD 0)
    else
      -- The rate of `SDC4_PCLK` is hardcoded.
      pure (if id = SDC4_PCLK then 64000000 else -1)

/-- `ClkEnable`. -/
def clkEnable (id : ClkId) : Poll Modem Clocks U32 :=
  get >>= fun clocks =>
    if clocks.clocksLookup id ≠ -1 then do
      let _ ← procCommAt PCOM_CLK_REGIME_SEC_ENABLE id none
      let clocks ← get
      pure (clocks.clocksLookup id)
    else pure (-1)

/-- `ClkDisable`. -/
def clkDisable (id : ClkId) : Poll Modem Clocks Unit :=
  get >>= fun clocks =>
    if clocks.clocksLookup id ≠ -1 then do
      let _ ← procCommAt PCOM_CLK_REGIME_SEC_DISABLE id none
      pure ()
    else pure ()

end HtcLeo.Clock
