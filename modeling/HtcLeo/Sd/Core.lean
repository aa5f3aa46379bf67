import Mathlib.Algebra.Group.Nat.Defs
import Mathlib.Logic.Function.Basic
import HtcLeo.Poll.Triple
import HtcLeo.Word.Flags

/-!
# Blocks of the SD controller

A block moves in three parts: a command to the card, 128 words through the FIFO,
and a check of the data flags.  All three poll `MCI_STATUS`, whose flags stay set
until they are written to `MCI_CLEAR`, whichever transfer raised them.

The tape of a computation holds the events of the controller: with every read of
`MCI_STATUS` it raises flags.  FIFO and response words are a function of what was
done to the controller before.
-/

namespace HtcLeo.Sd

open Poll Flags

/-! ## Registers and flags -/

/-- The registers that the driver writes. -/
inductive Reg where
  | argument
  | cmd
  | dataTimer
  | dataLength
  | dataCtl
  | clear
  | intMask0
  | intMask1
  | power
  | clk
  | fifo
  deriving DecidableEq, Repr

def MCI_STATUS_CMD_CRC_FAIL : U32 := 0x1
def MCI_STATUS_DATA_CRC_FAIL : U32 := 0x2
def MCI_STATUS_CMD_TIMEOUT : U32 := 0x4
def MCI_STATUS_DATA_TIMEOUT : U32 := 0x8
def MCI_STATUS_TX_UNDERRUN : U32 := 0x10
def MCI_STATUS_RX_OVERRUN : U32 := 0x20
def MCI_STATUS_CMD_RESPONSE_END : U32 := 0x40
def MCI_STATUS_CMD_SENT : U32 := 0x80
def MCI_STATUS_DATAEND : U32 := 0x100
def MCI_STATUS_START_BIT_ERR : U32 := 0x200
def MCI_STATUS_DATA_BLK_END : U32 := 0x400
def MCI_STATUS_RXACTIVE : U32 := 0x2000
def MCI_STATUS_TXFIFO_FULL : U32 := 0x10000
def MCI_STATUS_RXDATA_AVLBL : U32 := 0x200000
def MCI_STATUS_PROG_DONE : U32 := 0x800000

/-- The flags that stay set until they are cleared; the others show the present
state of the controller. -/
def stickyFlags : U32 := 0xc007ff

/-- The sticky flags of a data transfer. -/
def dataFlags : U32 := 0x73a

def MCI_CMD_PROG_ENA : U32 := 0x800
def MCI_CMD_ENABLE : U32 := 0x400
def MCI_CMD_INTERRUPT : U32 := 0x100
def MCI_CMD_LONGRSP : U32 := 0x80
def MCI_CMD_RESPONSE : U32 := 0x40
def MCI_CMD_CMD_INDEX : U32 := 0x3f

def MCI_DATA_CTL_ENABLE : U32 := 0x1
def MCI_DATA_CTL_DIRECTION : U32 := 0x2

def RD_DATA_TIMEOUT : U32 := 2000000
def WR_DATA_TIMEOUT : U32 := 5000000

def CMD0 : U32 := 0
def CMD1 : U32 := 1
def CMD2 : U32 := 2
def CMD3 : U32 := 3
def CMD5 : U32 := 5
def CMD7 : U32 := 7
def CMD8 : U32 := 8
def CMD9 : U32 := 9
def CMD10 : U32 := 10
def CMD13 : U32 := 13
def CMD16 : U32 := 16
def CMD17 : U32 := 17
def CMD24 : U32 := 24
def CMD55 : U32 := 55
def ACMD13 : U32 := 13
def ACMD41 : U32 := 41
def ACMD51 : U32 := 51

def BLOCK_SIZE : U32 := 512

/-! ## The controller and the driver's statics -/

/-- An access to the controller other than a read of `MCI_STATUS`. -/
inductive BusOp where
  | write (reg : Reg) (value : U32)
  | readFifo
  deriving DecidableEq, Repr

/-- The words that come back from the controller, given the accesses so far, newest
first. -/
structure Port where
  fifo : List BusOp → U32
  response : List BusOp → Nat → U32

/-- The sticky flags, the accesses so far, the memory of the buffers by words, and
the driver's statics. -/
structure Sdcc where
  status : U32
  sticky : Within stickyFlags status
  log : List BusOp
  memory : Nat → U32
  highCapacity : Bool
  rca : BitVec 16

/-- The controller raises flags. -/
def Sdcc.raise (sd : Sdcc) (raised : U32) : Sdcc :=
  { sd with
    status := sd.status ||| (raised &&& stickyFlags)
    sticky := sd.sticky.or (within_and _ _) }

/-- Read `MCI_STATUS`. -/
def readStatus : Poll U32 Sdcc U32 :=
  next >>= fun raised => do
    let sd ← get
    modify fun sd => sd.raise raised
    pure (sd.status ||| raised)

/-- A register is written. -/
def Sdcc.wrote (sd : Sdcc) (reg : Reg) (value : U32) : Sdcc :=
  { sd with
    status := if reg = .clear then clear sd.status value else sd.status
    sticky := by
      split
      · exact sd.sticky.clear value
      · exact sd.sticky
    log := .write reg value :: sd.log }

/-- A write of one register. -/
def writeReg (reg : Reg) (value : U32) : Poll U32 Sdcc Unit :=
  modify fun sd => sd.wrote reg value

/-- A read of the FIFO, which depends on all that went before. -/
def readFifo (port : Port) : Poll U32 Sdcc U32 := do
  let sd ← get
  modify fun sd => { sd with log := .readFifo :: sd.log }
  pure (port.fifo sd.log)

/-- `*pointer = word`. -/
def store (pointer : Nat) (word : U32) : Poll U32 Sdcc Unit :=
  modify fun sd => { sd with memory := Function.update sd.memory pointer word }

/-! ## Commands

What a transfer moves should not depend on how the controller keeps its flags.  The
functions are stated over an arbitrary read of `MCI_STATUS`: with `readStatus` they are
those of the controller whose flags stay set, and with `next` they are driven by any
sequence of status words whatever. -/

/-- The three flags that end the wait for a response. -/
structure CmdFlags where
  crcFail : Bool
  timeout : Bool
  responseEnd : Bool
  deriving DecidableEq, Repr

/-- One of the flags that end a command. -/
def CmdFlags.any (flags : CmdFlags) : Bool :=
  flags.crcFail || flags.timeout || flags.responseEnd

/-- The flags in a status word.  A command that enables the interrupt has no timeout. -/
def cmdFlags (cmd status : U32) : CmdFlags where
  crcFail := test status MCI_STATUS_CMD_CRC_FAIL
  timeout := !test cmd MCI_CMD_INTERRUPT && test status MCI_STATUS_CMD_TIMEOUT
  responseEnd := test status MCI_STATUS_CMD_RESPONSE_END

/-- How a command with a response ended. -/
def CmdFlags.succeeded (flags : CmdFlags) (cmd arg : U32) : Bool :=
  let index := cmd &&& MCI_CMD_CMD_INDEX
  flags.responseEnd || (flags.crcFail && (index == CMD5 || index == ACMD41 || index == CMD1)) ||
    -- An argument of 0 marks these two as sent before the card has an address.
    ((index == CMD5 || index == CMD55) && arg == 0 && flags.timeout)

namespace Polled

variable (status : Poll U32 Sdcc U32)

/-- `while (!(MCI_STATUS & mask));`. -/
def awaitSet (mask : U32) : Poll U32 Sdcc Unit :=
  loop (fun _ => status >>= fun word =>
    pure (if test word mask then .inr () else .inl ())) ()

/-- `while (MCI_STATUS & mask);`. -/
def awaitClear (mask : U32) : Poll U32 Sdcc Unit :=
  loop (fun _ => status >>= fun word =>
    pure (if test word mask then .inl () else .inr ())) ()

/-- One read of the wait for a response. -/
def cmdRound (cmd : U32) (_ : Unit) : Poll U32 Sdcc (Unit ⊕ CmdFlags) :=
  status >>= fun word =>
    pure (if (cmdFlags cmd word).any then .inr (cmdFlags cmd word) else .inl ())

/-- Send a command; the result is whether it succeeded, and the response words. -/
def sdccSendCmd (port : Port) (cmd arg : U32) : Poll U32 Sdcc (Bool × (Nat → U32)) := do
  writeReg .argument arg
  writeReg .cmd cmd
  if test cmd MCI_CMD_RESPONSE then do
    let flags ← loop (cmdRound status cmd) ()
    writeReg .clear MCI_STATUS_CMD_RESPONSE_END
    awaitClear status MCI_STATUS_CMD_RESPONSE_END
    writeReg .clear MCI_STATUS_CMD_TIMEOUT
    writeReg .clear MCI_STATUS_CMD_CRC_FAIL
    let sd ← get
    pure (flags.succeeded cmd arg, port.response sd.log)
  else do
    awaitSet status MCI_STATUS_CMD_SENT
    writeReg .clear MCI_STATUS_CMD_SENT
    awaitClear status MCI_STATUS_CMD_SENT
    pure (true, fun _ => 0)

end Polled

/-- Wait until a bit of the mask is set. -/
abbrev awaitSet (mask : U32) : Poll U32 Sdcc Unit :=
  Polled.awaitSet readStatus mask

/-- Wait until no bit of the mask is set. -/
abbrev awaitClear (mask : U32) : Poll U32 Sdcc Unit :=
  Polled.awaitClear readStatus mask

/-- One round of the wait for the end of a command. -/
abbrev cmdRound (cmd : U32) : Unit → Poll U32 Sdcc (Unit ⊕ CmdFlags) :=
  Polled.cmdRound readStatus cmd

/-- `sdcc_send_cmd`. -/
abbrev sdccSendCmd (port : Port) (cmd arg : U32) : Poll U32 Sdcc (Bool × (Nat → U32)) :=
  Polled.sdccSendCmd readStatus port cmd arg

/-! ## The end of a transfer -/

/-- The flags that the end of a block looks at. -/
def endFlags (errors : U32) : U32 :=
  errors ||| (MCI_STATUS_DATA_BLK_END ||| MCI_STATUS_DATAEND)

/-- The errors that `check_clear_read_status` looks for. -/
def readErrors : U32 :=
  MCI_STATUS_DATA_CRC_FAIL ||| MCI_STATUS_DATA_TIMEOUT ||| MCI_STATUS_RX_OVERRUN |||
    MCI_STATUS_START_BIT_ERR

/-- The errors that `check_clear_write_status` looks for. -/
def writeErrors : U32 :=
  MCI_STATUS_DATA_CRC_FAIL ||| MCI_STATUS_DATA_TIMEOUT ||| MCI_STATUS_TX_UNDERRUN |||
    MCI_STATUS_START_BIT_ERR

/-- The flags that `check_clear_read_status` clears. -/
def readClears : U32 :=
  MCI_STATUS_DATA_CRC_FAIL ||| MCI_STATUS_DATA_TIMEOUT ||| MCI_STATUS_RX_OVERRUN |||
    MCI_STATUS_START_BIT_ERR

/-- Unlike `readClears`, without `START_BIT_ERR`. -/
def writeClears : U32 :=
  MCI_STATUS_DATA_CRC_FAIL ||| MCI_STATUS_DATA_TIMEOUT ||| MCI_STATUS_TX_UNDERRUN

namespace Polled

variable (status : Poll U32 Sdcc U32)

/-- One read of the wait for the end of a block. -/
def statusRound (errors : U32) (_ : Unit) : Poll U32 Sdcc (Unit ⊕ Bool) :=
  status >>= fun word =>
    pure (if test word errors then .inr false
      else if test word MCI_STATUS_DATA_BLK_END then .inr true
      else .inl ())

/-- Clear the flags of a block that ended well. -/
def clearStatus (cleared : U32) : Poll U32 Sdcc Unit := do
  writeReg .clear MCI_STATUS_DATA_BLK_END
  writeReg .clear cleared
  awaitSet status MCI_STATUS_DATAEND
  writeReg .clear MCI_STATUS_DATAEND
  awaitClear status MCI_STATUS_DATAEND
  writeReg .clear MCI_STATUS_DATA_BLK_END

/-- Wait for the end of a block and clear its flags; `errors` are the flags that
fail it, and `cleared` those that a success clears besides. -/
def checkClearStatus (errors cleared : U32) : Poll U32 Sdcc Bool := do
  let ended ← loop (statusRound status errors) ()
  if !ended then pure false
  else do
    clearStatus status cleared
    pure true

end Polled

/-- One round of the wait for the end of a transfer. -/
abbrev statusRound (errors : U32) : Unit → Poll U32 Sdcc (Unit ⊕ Bool) :=
  Polled.statusRound readStatus errors

/-- Clear the flags, and wait until they are clear. -/
abbrev clearStatus (cleared : U32) : Poll U32 Sdcc Unit :=
  Polled.clearStatus readStatus cleared

/-- The common body of the two status checks. -/
abbrev checkClearStatus (errors cleared : U32) : Poll U32 Sdcc Bool :=
  Polled.checkClearStatus readStatus errors cleared

/-- `check_clear_read_status`. -/
def checkClearReadStatus : Poll U32 Sdcc Bool :=
  checkClearStatus readErrors readClears

/-- `check_clear_write_status`. -/
def checkClearWriteStatus : Poll U32 Sdcc Bool :=
  checkClearStatus writeErrors writeClears

/-! ## Single blocks -/

/-- `card_set_block_size`. -/
def cardSetBlockSize (port : Port) (size : U32) : Poll U32 Sdcc Bool := do
  let sent ← sdccSendCmd port (CMD16 ||| MCI_CMD_ENABLE ||| MCI_CMD_RESPONSE) size
  pure sent.1

/-- Read the SCR.  It does not look at the data flags and clears none. -/
def readScrRegister (port : Port) (rca : BitVec 16) : Poll U32 Sdcc Bool := do
  writeReg .dataTimer RD_DATA_TIMEOUT
  writeReg .dataLength 8
  let sized ← cardSetBlockSize port 8
  if !sized then pure false
  else do
    writeReg .dataCtl (MCI_DATA_CTL_ENABLE ||| MCI_DATA_CTL_DIRECTION ||| (8 <<< 4))
    let sent ← sdccSendCmd port (CMD55 ||| MCI_CMD_ENABLE ||| MCI_CMD_RESPONSE)
      (rca.setWidth 32 <<< 16)
    if !sent.1 then pure false
    else do
      let sent ← sdccSendCmd port (ACMD51 ||| MCI_CMD_ENABLE ||| MCI_CMD_RESPONSE) 0
      if !sent.1 then pure false
      else do
        awaitSet MCI_STATUS_RXDATA_AVLBL
        let _ ← readFifo port
        let _ ← readFifo port
        pure true

/-- The argument of a block command: bytes, or blocks on a high capacity card. -/
def blockAddress (highCapacity : Bool) (blockNumber : U32) : U32 :=
  if highCapacity = false then blockNumber * BLOCK_SIZE else blockNumber

/-- `MCI_FIFO = *pointer`. -/
def pushWord (pointer : Nat) : Poll U32 Sdcc Unit := do
  let sd ← get
  writeReg .fifo (sd.memory pointer)

/-- The flags that end the loop that fills the FIFO. -/
def fillErrors : U32 :=
  MCI_STATUS_CMD_CRC_FAIL ||| MCI_STATUS_DATA_TIMEOUT ||| MCI_STATUS_TX_UNDERRUN

namespace Polled

variable (status : Poll U32 Sdcc U32)

/-- One read of the loop that empties the FIFO; the state of the loop is
`byte_count` and the buffer pointer. -/
def readRound (port : Port) (at_ : Nat × Nat) : Poll U32 Sdcc ((Nat × Nat) ⊕ Bool) :=
  if at_.1 < 512 then
    status >>= fun word =>
      if test word MCI_STATUS_RXDATA_AVLBL then do
        let word ← readFifo port
        store at_.2 word
        pure (.inl (at_.1 + 4, at_.2 + 1))
      else if !test word MCI_STATUS_RXACTIVE then pure (.inr false)
      else pure (.inl at_)
  else pure (.inr true)

/-- `read_a_block`. -/
def readABlock (port : Port) (blockNumber : U32) (readBuffer : Nat) : Poll U32 Sdcc Bool := do
  let sd ← get
  writeReg .dataTimer RD_DATA_TIMEOUT
  writeReg .dataLength BLOCK_SIZE
  writeReg .dataCtl (MCI_DATA_CTL_ENABLE ||| MCI_DATA_CTL_DIRECTION ||| (BLOCK_SIZE <<< 4))
  let sent ← sdccSendCmd status port (CMD17 ||| MCI_CMD_ENABLE ||| MCI_CMD_RESPONSE)
    (blockAddress sd.highCapacity blockNumber)
  if !sent.1 then pure false
  else do
    let emptied ← loop (readRound status port) (0, readBuffer)
    if !emptied then pure false else checkClearStatus status readErrors readClears

/-- One read of the loop that fills the FIFO.  The word goes out before the errors
are looked at. -/
def writeRound (at_ : Nat × Nat) : Poll U32 Sdcc ((Nat × Nat) ⊕ Bool) :=
  if at_.1 < 512 then
    status >>= fun word => do
      let _ ← (if test word MCI_STATUS_TXFIFO_FULL then pure () else pushWord at_.2)
      pure (if test word fillErrors then .inr false
        else if test word MCI_STATUS_TXFIFO_FULL then .inl at_
        else .inl (at_.1 + 4, at_.2 + 1))
  else pure (.inr true)

/-- The end of `write_a_block`: ask for the card's status and wait until the block
is programmed. -/
def awaitProgDone (port : Port) (rca : BitVec 16) : Poll U32 Sdcc Bool := do
  let sent ← sdccSendCmd status port
    (CMD13 ||| MCI_CMD_ENABLE ||| MCI_CMD_RESPONSE ||| MCI_CMD_PROG_ENA)
    (rca.setWidth 32 <<< 16)
  if !sent.1 then pure false
  else do
    awaitSet status MCI_STATUS_PROG_DONE
    writeReg .clear MCI_STATUS_PROG_DONE
    awaitClear status MCI_STATUS_PROG_DONE
    pure true

/-- `write_a_block`. -/
def writeABlock (port : Port) (blockNumber : U32) (writeBuffer : Nat) (rca : BitVec 16) :
    Poll U32 Sdcc Bool := do
  let sd ← get
  writeReg .dataTimer WR_DATA_TIMEOUT
  writeReg .dataLength BLOCK_SIZE
  let sent ← sdccSendCmd status port (CMD24 ||| MCI_CMD_ENABLE ||| MCI_CMD_RESPONSE)
    (blockAddress sd.highCapacity blockNumber)
  if !sent.1 then pure false
  else do
    writeReg .dataCtl (MCI_DATA_CTL_ENABLE ||| (BLOCK_SIZE <<< 4))
    let filled ← loop (writeRound status) (0, writeBuffer)
    if !filled then pure false
    else do
      let ended ← checkClearStatus status writeErrors writeClears
      if !ended then pure false else awaitProgDone status port rca

/-- `write_a_block` as `mmc_bwrite` calls it, with the driver's `rca`. -/
def writeSelected (port : Port) (blockNumber : U32) (writeBuffer : Nat) : Poll U32 Sdcc Bool :=
  get >>= fun sd => writeABlock status port blockNumber writeBuffer sd.rca

end Polled

/-- One round of the loop that empties the FIFO. -/
abbrev readRound (port : Port) : Nat × Nat → Poll U32 Sdcc ((Nat × Nat) ⊕ Bool) :=
  Polled.readRound readStatus port

/-- `read_a_block`. -/
def readABlock (port : Port) (blockNumber : U32) (readBuffer : Nat) : Poll U32 Sdcc Bool :=
  Polled.readABlock readStatus port blockNumber readBuffer

/-- One round of the loop that fills the FIFO. -/
abbrev writeRound : Nat × Nat → Poll U32 Sdcc ((Nat × Nat) ⊕ Bool) :=
  Polled.writeRound readStatus

/-- The wait for the end of the programming. -/
abbrev awaitProgDone (port : Port) (rca : BitVec 16) : Poll U32 Sdcc Bool :=
  Polled.awaitProgDone readStatus port rca

/-- `write_a_block`. -/
def writeABlock (port : Port) (blockNumber : U32) (writeBuffer : Nat) (rca : BitVec 16) :
    Poll U32 Sdcc Bool :=
  Polled.writeABlock readStatus port blockNumber writeBuffer rca

/-- `write_a_block` for the card that is selected. -/
def writeSelected (port : Port) (blockNumber : U32) (writeBuffer : Nat) : Poll U32 Sdcc Bool :=
  Polled.writeSelected readStatus port blockNumber writeBuffer

end HtcLeo.Sd
