import Mathlib.Algebra.Group.Nat.Defs
import Mathlib.Data.List.Basic
import HtcLeo.Word.Flags

/-!
# The I2C driver

`msm_i2c_xfer` waits for the bus, hands a list of messages to the interrupt
handler, and waits until the controller reports the bus idle again.  The handler
moves one byte a run: it writes addresses and write data to `I2C_WRITE_DATA`,
fills read buffers from `I2C_READ_DATA`, and goes from message to message through
the static `dev`.  The outcome travels back in `dev.ret` and in the file-level
`timeout`.

The controller, the pins and the moments at which the handler runs are inputs.
Delays and debug output are left out.
-/

namespace HtcLeo.I2c

open Flags

/-! ## Constants -/

def I2C_WRITE_DATA_ADDR_BYTE : BitVec 16 := 0x100
def I2C_WRITE_DATA_LAST_BYTE : BitVec 16 := 0x200

def I2C_STATUS_WR_BUFFER_FULL : U32 := 0x1
def I2C_STATUS_RD_BUFFER_FULL : U32 := 0x2
def I2C_STATUS_BUS_ACTIVE : U32 := 0x100
def I2C_STATUS_BUS_MASTER : U32 := 0x200
def I2C_STATUS_ERROR_MASK : U32 := 0xfc

def I2C_M_RD : BitVec 16 := 0x1

def ERROR : Int := -1
def ERR_NOT_READY : Int := -3
def ERR_TIMED_OUT : Int := -13

/-! ## Messages and the driver's state -/

/-- A message; the caller's buffer has exactly the announced `uint16_t` length. -/
structure I2cMsg where
  addr : BitVec 16
  flags : BitVec 16
  buf : List U8
  fits : buf.length < 2 ^ 16
  deriving DecidableEq, Repr

theorem fits_nil : ([] : List U8).length < 2 ^ 16 := by
  decide

instance : Inhabited I2cMsg := ⟨⟨0, 0, [], fits_nil⟩⟩

/-- `len`: the buffer is as long as the message says. -/
def I2cMsg.len (msg : I2cMsg) : Nat :=
  msg.buf.length

/-- Whether the message asks for a read. -/
def I2cMsg.isRead (msg : I2cMsg) : Bool :=
  test msg.flags I2C_M_RD

/-- The message that a message pointer points to. -/
def message (msgs : List I2cMsg) (i : Nat) : I2cMsg :=
  msgs.getD i default

/-- The two lines of the bus. -/
inductive Pin where
  | scl
  | sda
  deriving DecidableEq, Repr

/-- What the driver does to the hardware, with the words that it read.  Message
traffic carries the message's index and the byte's position. -/
inductive BusOp where
  | clkEnable
  | clkDisable
  | irqEnable
  | irqDisable
  | status (word : U32)
  | addr (i : Nat) (word : BitVec 16)
  | byte (i j : Nat) (word : BitVec 16)
  | fill (i j : Nat) (value : U8)
  | last (word : BitVec 16)
  | discard
  | mux (toI2c : Bool)
  | gpioSet (pin : Pin) (on : Bool)
  | gpioInput (pin : Pin)
  deriving DecidableEq, Repr

/-- `struct msm_i2c_dev`; `msg` is the index of the current message, `none` for a
null pointer. -/
structure Dev where
  msg : Option Nat
  rem : Int
  pos : Int
  cnt : Int
  ret : Int
  needFlush : Bool
  flushCnt : Nat
  deriving DecidableEq, Repr

/-- The driver's statics, and everything it has done so far, oldest first. -/
structure Driver where
  dev : Dev
  timeout : Int
  log : List BusOp
  deriving DecidableEq, Repr

/-- Operations put at the end of the log. -/
def Driver.emit (i2c : Driver) (ops : List BusOp) : Driver :=
  { i2c with log := i2c.log ++ ops }

/-- Change the static `dev` and act on the hardware. -/
def Driver.act (i2c : Driver) (dev : Dev) (ops : List BusOp) : Driver :=
  { i2c with dev := dev, log := i2c.log ++ ops }

/-! ## The interrupt handler -/

/-- What one run of the handler reads: the status and, if it looks, the data. -/
structure Irq where
  status : U32
  data : U32
  deriving DecidableEq, Repr

/-- The word that the handler writes for an address. -/
def addrWord (msg : I2cMsg) (rem : Int) : BitVec 16 :=
  I2C_WRITE_DATA_ADDR_BYTE ||| (msg.addr <<< 1) ||| (if msg.isRead then 1 else 0) |||
    (if rem = 1 ∧ msg.len = 0 then I2C_WRITE_DATA_LAST_BYTE else 0)

/-- The word that the handler writes for a byte. -/
def dataWord (value : U8) (cnt rem : Int) : BitVec 16 :=
  value.setWidth 16 ||| (if cnt = 1 ∧ rem = 1 then I2C_WRITE_DATA_LAST_BYTE else 0)

/-- Write one word if the message has one to write; the result says whether it had. -/
def fillWriteBuffer (msgs : List I2cMsg) (i : Nat) (i2c : Driver) : Bool × Driver :=
  let dev := i2c.dev
  let msg := message msgs i
  if dev.pos < 0 then
    (true, i2c.act { dev with pos := dev.pos + 1 } [.addr i (addrWord msg dev.rem)])
  else if msg.isRead then (false, i2c)
  else if dev.cnt = 0 then (false, i2c)
  else
    let j := dev.pos.toNat
    (true, i2c.act { dev with pos := dev.pos + 1, cnt := dev.cnt - 1 }
      [.byte i j (dataWord (msg.buf.getD j 0) dev.cnt dev.rem)])

/-- Take one word from the read buffer: data that the message expects, or a word
to flush. -/
def readBuffer (msgs : List I2cMsg) (i : Nat) (data : U32) (i2c : Driver) : Driver :=
  let dev := i2c.dev
  if (message msgs i).isRead ∧ dev.pos ≥ 0 ∧ dev.cnt ≠ 0 then
    let single := dev.cnt = 1 ∧ dev.pos = 0
    i2c.act
      { dev with
        needFlush := dev.needFlush || decide single
        cnt := dev.cnt - 1
        pos := dev.pos + 1 }
      -- The stop request goes out one byte ahead of the last one.
      ((if single ∨ dev.cnt = 2 then [.last I2C_WRITE_DATA_LAST_BYTE] else []) ++
        [.fill i dev.pos.toNat (data.setWidth 8)])
  else
    i2c.act
      (if dev.needFlush then { dev with needFlush := false }
        else { dev with flushCnt := dev.flushCnt + 1 })
      ((if dev.flushCnt % 2 = 1 then [.last I2C_WRITE_DATA_LAST_BYTE] else []) ++ [.discard])

/-- The end of a handler run: go to the next message, or note the completion. -/
def advance (msgs : List I2cMsg) (i : Nat) (notDone : Bool) (i2c : Driver) : Driver :=
  let dev := i2c.dev
  if dev.pos ≥ 0 ∧ dev.cnt = 0 then
    if dev.rem > 1 then
      { i2c with
        dev :=
          { dev with
            rem := dev.rem - 1
            msg := some (i + 1)
            pos := -1
            cnt := (message msgs (i + 1)).len } }
    else if !notDone && !dev.needFlush then { i2c with timeout := 0 }
    else i2c
  else i2c

/-- `msm_i2c_interrupt_locked`. -/
def interruptLocked (msgs : List I2cMsg) (i2c : Driver) (irq : Irq) : Driver :=
  let i2c := i2c.emit [.status irq.status]
  match i2c.dev.msg with
  | none => i2c
  | some i =>
      if test irq.status I2C_STATUS_ERROR_MASK then
        { i2c with dev := { i2c.dev with ret := ERROR }, timeout := ERR_TIMED_OUT }
      else
        let filled :=
          if test irq.status I2C_STATUS_WR_BUFFER_FULL then (true, i2c)
          else fillWriteBuffer msgs i i2c
        let read :=
          if test irq.status I2C_STATUS_RD_BUFFER_FULL then
            readBuffer msgs i irq.data filled.2
          else filled.2
        advance msgs i filled.1 read

/-! ## Waiting and recovering -/

/-- One round of a poll: the handler runs before the read, and the word read. -/
structure PollRound where
  irqs : List Irq
  status : U32
  deriving DecidableEq, Repr

/-- At most `rounds` rounds of `msm_i2c_poll_notbusy`, from round `start`. -/
def pollRounds (msgs : List I2cMsg) (poll : Nat → PollRound) :
    (rounds start : Nat) → Driver → Int × Driver
  | 0, _, i2c => (ERR_TIMED_OUT, i2c)
  | rounds + 1, start, i2c =>
      let round := poll start
      let i2c := (round.irqs.foldl (interruptLocked msgs) i2c).emit [.status round.status]
      if test round.status I2C_STATUS_BUS_ACTIVE then
        pollRounds msgs poll rounds (start + 1) i2c
      else (0, i2c)

/-- What a poll reads: its rounds, and the handler runs after its last status read, during the
delay after a busy word or on the way out. -/
structure Poll where
  round : Nat → PollRound
  late : List Irq

/-- `msm_i2c_poll_notbusy`, with the handler runs after its last read. -/
def pollNotbusy (msgs : List I2cMsg) (poll : Poll) (i2c : Driver) : Int × Driver :=
  let polled := pollRounds msgs poll.round 200 0 i2c
  (polled.1, poll.late.foldl (interruptLocked msgs) polled.2)

/-- The pin levels that one clock cycle of the recovery reads. -/
structure ClockCycle where
  sda : Bool
  scl : Bool
  deriving DecidableEq, Repr

/-- What a recovery reads. -/
structure Recovery where
  status : U32
  cycles : Nat → ClockCycle
  statusAfter : U32

/-- At most `rounds` clock cycles, until both lines are released. -/
def clockOut (cycles : Nat → ClockCycle) : (rounds start : Nat) → Bool → List BusOp
  | 0, _, _ => []
  | rounds + 1, start, gpioClkStatus =>
      if (cycles start).sda && gpioClkStatus then []
      else
        [.gpioSet .scl false, .gpioSet .sda false, .gpioInput .scl, .gpioInput .sda] ++
          clockOut cycles rounds (start + 1) (cycles start).scl

/-- `msm_i2c_recover_bus_busy`. -/
def recoverBusBusy (recovery : Recovery) (i2c : Driver) : Int × Driver :=
  if !test recovery.status (I2C_STATUS_BUS_ACTIVE ||| I2C_STATUS_WR_BUFFER_FULL) then
    (0, i2c.emit [.status recovery.status])
  else
    let release : List BusOp :=
      if test recovery.status I2C_STATUS_RD_BUFFER_FULL then
        [.last I2C_WRITE_DATA_LAST_BYTE, .discard]
      else if test recovery.status I2C_STATUS_BUS_MASTER then
        [.last (I2C_WRITE_DATA_LAST_BYTE ||| 0xff)]
      else []
    (if test recovery.statusAfter I2C_STATUS_BUS_ACTIVE then ERR_NOT_READY else 0,
      i2c.emit ([.status recovery.status, .mux false] ++ release ++
        clockOut recovery.cycles 9 0 false ++ [.mux true, .status recovery.statusAfter]))

/-! ## A transfer -/

/-- Everything that one call of `msm_i2c_xfer` reads. -/
structure XferInput where
  startPoll : Poll
  startRecovery : Recovery
  first : Irq
  waitPoll : Poll
  endRecovery : Recovery
  errorRecovery : Recovery

/-- The assignments before the first handler run. -/
def setup (msgs : List I2cMsg) (i2c : Driver) : Driver :=
  { i2c with
    dev :=
      { msg := some 0
        rem := msgs.length
        pos := -1
        ret := msgs.length
        needFlush := false
        flushCnt := 0
        cnt := (message msgs 0).len } }

/-- The assignments after the wait; `need_flush` is not among them. -/
def teardown (i2c : Driver) : Driver :=
  { i2c with
    dev :=
      { i2c.dev with msg := none, rem := 0, pos := 0, ret := 0, flushCnt := 0, cnt := 0 } }

/-- The label `err`. -/
def finish (i2c : Driver) : Driver :=
  i2c.emit [.irqDisable, .clkDisable]

/-- Wait for a free bus before the transfer, recovering it if need be. -/
def startXfer (msgs : List I2cMsg) (input : XferInput) (i2c : Driver) : Int × Driver :=
  let polled := pollNotbusy msgs input.startPoll (i2c.emit [.clkEnable, .irqEnable])
  if polled.1 ≠ 0 then recoverBusBusy input.startRecovery polled.2 else polled

/-- The end of a transfer whose result is `ret` so far. -/
def endXfer (input : XferInput) (ret retWait : Int) (i2c : Driver) : Int × Driver :=
  let recovered :=
    if retWait ≠ 0 then recoverBusBusy input.endRecovery i2c else (0, i2c)
  if recovered.1 ≠ 0 then (ret, finish recovered.2)
  else
    let ret := if recovered.2.timeout = ERR_TIMED_OUT then ERR_TIMED_OUT else ret
    if ret < 0 then (ret, finish (recoverBusBusy input.errorRecovery recovered.2).2)
    else (ret, finish recovered.2)

/-- `msm_i2c_xfer`. -/
def msmI2cXfer (msgs : List I2cMsg) (input : XferInput) (i2c : Driver) : Int × Driver :=
  let started := startXfer msgs input i2c
  if started.1 ≠ 0 then (started.1, finish started.2)
  else
    let running := interruptLocked msgs (setup msgs started.2) input.first
    let waited := pollNotbusy msgs input.waitPoll running
    endXfer input waited.2.dev.ret waited.1 (teardown waited.2)

end HtcLeo.I2c
