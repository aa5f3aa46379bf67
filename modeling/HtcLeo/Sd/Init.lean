import HtcLeo.Sd.Csd

/-!
# Initialisation of the card

The steps of `mmc_legacy_init`, up to the read of the first block.  Each of them may
fail, and then the others are left out.
-/

namespace HtcLeo.Sd

open Poll Flags

def MCI_POWER_CONTROL_POWERON : U32 := 0x3
def MCI_CLK_ENABLE : U32 := 0x100
def MCI_CLK_PWRSAVE : U32 := 0x200
def MCI_CLK_FLOW_ENA : U32 := 0x1000

def SDC_INSTANCE : U32 := 2

/-- Start the controller.  Clock and pins are set up elsewhere than in its registers. -/
def sdcnInit (inst : U32) : Poll U32 Sdcc Bool :=
  if inst ∉ [1, 2, 3, 4] then pure false
  else do
    writeReg .clear 0x07ffffff
    writeReg .intMask0 0
    writeReg .intMask1 0
    writeReg .power MCI_POWER_CONTROL_POWERON
    writeReg .clk MCI_CLK_ENABLE
    pure true

/-! ## Identification -/

/-- Ask the card for its operating conditions until it is powered up; `none` when a
command fails. -/
def opCondRound (port : Port) (hcSupport : U32) (_ : Unit) :
    Poll U32 Sdcc (Unit ⊕ Option (Nat → U32)) := do
  let sent ← sdccSendCmd port (CMD55 ||| MCI_CMD_ENABLE ||| MCI_CMD_RESPONSE) 0
  if !sent.1 then pure (.inr none)
  else do
    let sent ← sdccSendCmd port (ACMD41 ||| MCI_CMD_ENABLE ||| MCI_CMD_RESPONSE)
      (0x00ff8000 ||| hcSupport)
    if !sent.1 then pure (.inr none)
    else pure (if test (sent.2 0) 0x80000000 then .inr (some sent.2) else .inl ())

/-- `card_identification_selection`. -/
def cardIdentificationSelection (port : Port) : Poll U32 Sdcc Bool := do
  let sent ← sdccSendCmd port (CMD0 ||| MCI_CMD_ENABLE) 0
  if !sent.1 then pure false
  else do
    -- A card that does not answer has no high capacity.
    let interface ← sdccSendCmd port (CMD8 ||| MCI_CMD_ENABLE ||| MCI_CMD_RESPONSE) 0x1aa
    let hcSupport : U32 := if interface.1 then 0x40000000 else 0
    let ready ← loop (opCondRound port hcSupport) ()
    match ready with
    | none => pure false
    | some response => do
        modify fun sd => { sd with highCapacity := test (response 0) hcSupport || sd.highCapacity }
        let sent ← sdccSendCmd port
          (CMD2 ||| MCI_CMD_ENABLE ||| MCI_CMD_RESPONSE ||| MCI_CMD_LONGRSP) 0
        if !sent.1 then pure false
        else do
          let sent ← sdccSendCmd port (CMD3 ||| MCI_CMD_ENABLE ||| MCI_CMD_RESPONSE) 0
          if !sent.1 then pure false
          else do
            modify fun sd => { sd with rca := (sent.2 0 >>> 16).setWidth 16 }
            pure true

/-! ## Transfer state -/

/-- Bring the card into transfer state; the result is its CSD. -/
def cardTransferInit (port : Port) (rca : BitVec 16) : Poll U32 Sdcc (Option (Int → U32)) := do
  let address : U32 := rca.setWidth 32 <<< 16
  let csd ← sdccSendCmd port
    (CMD9 ||| MCI_CMD_ENABLE ||| MCI_CMD_RESPONSE ||| MCI_CMD_LONGRSP) address
  if !csd.1 then pure none
  else do
    let cid ← sdccSendCmd port
      (CMD10 ||| MCI_CMD_ENABLE ||| MCI_CMD_RESPONSE ||| MCI_CMD_LONGRSP) address
    if !cid.1 then pure none
    else do
      let selected ← sdccSendCmd port (CMD7 ||| MCI_CMD_ENABLE ||| MCI_CMD_RESPONSE) address
      if !selected.1 then pure none
      else do
        let scr ← readScrRegister port rca
        if !scr then pure none
        else do
          let status ← sdccSendCmd port (CMD13 ||| MCI_CMD_ENABLE ||| MCI_CMD_RESPONSE) address
          pure (if status.1 then some fun i => csd.2 i.toNat else none)

/-- One read of the loop that empties the FIFO of the SD status; the words are not used. -/
def sdStatusRound (port : Port) (i : Nat) : Poll U32 Sdcc (Nat ⊕ Bool) :=
  if i < 16 then
    readStatus >>= fun status =>
      if test status MCI_STATUS_RXDATA_AVLBL then do
        let _ ← readFifo port
        pure (.inl (i + 1))
      else pure (if test status MCI_STATUS_RXACTIVE then .inl i else .inr false)
  else pure (.inr true)

/-- `read_SD_status`. -/
def readSdStatus (port : Port) (rca : BitVec 16) : Poll U32 Sdcc Bool := do
  writeReg .dataTimer RD_DATA_TIMEOUT
  writeReg .dataLength 64
  let sized ← cardSetBlockSize port 64
  if !sized then pure false
  else do
    writeReg .dataCtl (MCI_DATA_CTL_ENABLE ||| MCI_DATA_CTL_DIRECTION ||| (64 <<< 4))
    let sent ← sdccSendCmd port (CMD55 ||| MCI_CMD_ENABLE ||| MCI_CMD_RESPONSE)
      (rca.setWidth 32 <<< 16)
    if !sent.1 then pure false
    else do
      let sent ← sdccSendCmd port (ACMD13 ||| MCI_CMD_ENABLE ||| MCI_CMD_RESPONSE) 0
      if !sent.1 then pure false
      else do
        let emptied ← loop (sdStatusRound port) 0
        if !emptied then pure false else checkClearReadStatus

/-! ## All steps -/

/-- The value that a register was last written. -/
def lastWritten (reg : Reg) : List BusOp → U32
  | [] => 0
  | .write reg' value :: log => if reg' = reg then value else lastWritten reg log
  | .readFifo :: log => lastWritten reg log

/-- `MCI_CLK |= PWRSAVE | FLOW_ENA`. -/
def saveClockPower : Poll U32 Sdcc Unit := do
  let sd ← get
  writeReg .clk (lastWritten .clk sd.log ||| MCI_CLK_PWRSAVE ||| MCI_CLK_FLOW_ENA)

/-- The steps of `mmc_legacy_init`: the CSD if all of them succeed.  The first block goes
to a buffer on the stack. -/
def initSteps (port : Port) (buffer : Nat) : Poll U32 Sdcc (Option (Int → U32)) := do
  let started ← sdcnInit SDC_INSTANCE
  if !started then pure none
  else do
    let identified ← cardIdentificationSelection port
    if !identified then pure none
    else do
      saveClockPower
      let sd ← get
      let csd ← cardTransferInit port sd.rca
      match csd with
      | none => pure none
      | some csd => do
          let status ← readSdStatus port sd.rca
          if !status then pure none
          else do
            let sized ← cardSetBlockSize port BLOCK_SIZE
            if !sized then pure none
            else do
              let first ← readABlock port 0 buffer
              pure (if first then some csd else none)

end HtcLeo.Sd
