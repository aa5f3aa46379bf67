import HtcLeo.Poll.Triple
import HtcLeo.Word.Flags

/-!
# Commands to the modem

The applications processor asks the modem for clocks, regulators and pins
through four words of shared memory: a command, a status and two data words.
`msmProcComm` waits until the modem is ready, writes the command and its two
arguments, notifies the modem, waits for the answer, and copies the answer's
data words back through the pointers it was given.

The modem acts between two reads of a waiting loop.  It answers a command only
after it was notified of one, and then sets `APP_COMMAND` to `PCOM_CMD_DONE`;
the status and data words of the answer are arbitrary.
-/

namespace HtcLeo.Pcom

open Poll

/-! ## Command and status codes -/

def PCOM_CMD_IDLE : U32 := 0
def PCOM_CMD_DONE : U32 := 1
def PCOM_VREG_SWITCH : U32 := 30
def PCOM_VREG_SET_LEVEL : U32 := 31
def PCOM_CLK_REGIME_SEC_ENABLE : U32 := 50
def PCOM_CLK_REGIME_SEC_DISABLE : U32 := 51
def PCOM_CLK_REGIME_SEC_SEL_SPEED : U32 := 58
def PCOM_CLK_REGIME_SEC_MSM_GET_CLK_FREQ_KHZ : U32 := 67

def PCOM_READY : U32 := 1
def PCOM_CMD_SUCCESS : U32 := 3
def PCOM_CMD_FAIL : U32 := 4
def PCOM_CMD_FAIL_FALSE_RETURNED : U32 := 5

/-! ## Shared memory and the modem -/

/-- What the modem leaves behind when it has finished a command. -/
structure Reply where
  status : U32
  data1 : U32
  data2 : U32
  deriving DecidableEq, Repr

/-- One command as the modem received it, with its answer. -/
structure Exchange where
  command : U32
  data1 : U32
  data2 : U32
  reply : Reply
  deriving DecidableEq, Repr

/-- The proc_comm words of shared memory.  `notified` records that the modem was
interrupted and has not answered yet; `exchanges` lists the commands it has
handled, newest first. -/
structure Shared where
  appCommand : U32
  appStatus : U32
  appData1 : U32
  appData2 : U32
  mdmStatus : U32
  notified : Bool
  exchanges : List Exchange
  deriving DecidableEq, Repr

/-- What the modem does between two reads of a waiting loop. -/
inductive Modem where
  | idle
  | announce (mdmStatus : U32)
  | answer (reply : Reply)
  deriving DecidableEq, Repr

/-- The effect of the modem on shared memory. -/
def Shared.react (shared : Shared) : Modem → Shared
  | .idle => shared
  | .announce mdmStatus => { shared with mdmStatus }
  | .answer reply =>
      if shared.notified then
        { shared with
          appCommand := PCOM_CMD_DONE
          appStatus := reply.status
          appData1 := reply.data1
          appData2 := reply.data2
          notified := false
          exchanges :=
            ⟨shared.appCommand, shared.appData1, shared.appData2, reply⟩ ::
              shared.exchanges }
      else shared

/-! ## The driver -/

/-- One read of the loop of `pcom_wait_for`. -/
def pcomWaitRound (read : Shared → U32) (value : U32) (_ : Unit) :
    Poll Modem Shared (Unit ⊕ Int) :=
  next >>= fun modem => do
    modify fun shared => shared.react modem
    let shared ← get
    pure (if read shared = value then .inr 0 else .inl ())

/-- Wait until a shared word has the given value. -/
def pcomWaitFor (read : Shared → U32) (value : U32) : Poll Modem Shared Int :=
  loop (pcomWaitRound read value) ()

/-- Returns `~0` once the modem is ready. -/
def msmPcomWaitForModemReady : Poll Modem Shared Int := do
  let result ← pcomWaitFor Shared.mdmStatus PCOM_READY
  pure (-1 - result)

/-- The interrupt that tells the modem of a command. -/
def notifyModem : Poll Modem Shared Unit :=
  modify fun shared => { shared with notified := true }

/-- Send a command.  The arguments model the pointers `data1` and `data2`, with
`none` for a null pointer; the result is the return value and what the pointers
point to afterwards. -/
def msmProcComm (cmd : U32) (data1 data2 : Option U32) :
    Poll Modem Shared (Int × Option U32 × Option U32) := do
  let _ ← msmPcomWaitForModemReady
  modify fun shared =>
    { shared with
      appCommand := cmd
      appData1 := data1.getD 0
      appData2 := data2.getD 0 }
  notifyModem
  let _ ← pcomWaitFor Shared.appCommand PCOM_CMD_DONE
  let shared ← get
  -- Every status but `PCOM_CMD_FAIL` counts as a success here.
  let result : Int × Option U32 × Option U32 :=
    if shared.appStatus ≠ PCOM_CMD_FAIL then
      (0, data1.map fun _ => shared.appData1, data2.map fun _ => shared.appData2)
    else
      (-1, data1, data2)
  modify fun shared => { shared with appCommand := PCOM_CMD_IDLE }
  pure result

end HtcLeo.Pcom
