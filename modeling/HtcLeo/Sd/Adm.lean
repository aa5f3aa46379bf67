import HtcLeo.Sd.Completes

/-!
# The data mover

With the data mover a block goes from or to memory without the driver's help.  The driver
starts a transfer and polls the status of the channel, up to 101 times.  When the window
passes without a result, it goes on as if there had been one.
-/

namespace HtcLeo.Sd

open Poll Flags

/-! ## A transfer -/

def HI0_CHn_STATUS_SD3_RSLT_VLD : U32 := 0x00000002
def HI0_CHn_RSLT_SD3_V : U32 := 0x80000000
def HI0_CHn_RSLT_SD3_ERR : U32 := 0x00000008
def HI0_CHn_RSLT_SD3_TPD : U32 := 0x00000002

/-- What the driver asks for: the words of the box mode entry, the entry of the command
pointer list, and what it writes to the command pointer of the channel. -/
structure AdmRequest where
  admChn : Nat
  boxModeEntry : List U32
  cmdPtrList : U32
  cmdPtr : U32
  deriving DecidableEq, Repr

/-- What the registers of the channel answer: the status at each poll, and the result. -/
structure AdmAnswer where
  status : Nat → U32
  result : U32

/-- The polls from poll `k` on, while `delay_count` is so many; says if there was a result. -/
def admPoll (status : Nat → U32) : Nat → Nat → Bool
  | 0, k => test (status k) HI0_CHn_STATUS_SD3_RSLT_VLD
  | delayCount + 1, k =>
      if test (status k) HI0_CHn_STATUS_SD3_RSLT_VLD then true
      else admPoll status delayCount (k + 1)

/-- `adm_start_transfer`: where the result never becomes valid, it returns `0` too. -/
def admStartTransfer (answer : AdmAnswer) : Int :=
  if admPoll answer.status 100 0 then
    if test answer.result HI0_CHn_RSLT_SD3_ERR || !test answer.result HI0_CHn_RSLT_SD3_TPD ||
        !test answer.result HI0_CHn_RSLT_SD3_V then -1
    else 0
  else 0

/-! ## Blocks -/

def MCI_DATA_CTL_DM_ENABLE : U32 := 0x8
def CMD12 : U32 := 12
def CMD18 : U32 := 18

def MCI_FIFO : U32 := 0x080
def SDCC_FIFO_SIZE : U32 := 64
def ROWS_PER_BLOCK : U32 := BLOCK_SIZE / SDCC_FIFO_SIZE

def ADM_AARM_SD_CHN : Nat := 8
def ADM_CMD_PTR_LP : U32 := 0x80000000
def ADM_CMD_PTR_CMD_LIST : U32 := 0
def ADM_CMD_LIST_LC : U32 := 0x80000000
def ADM_ADDR_MODE_BOX : U32 := 3

/-- The parameters of the controller, and where the lists for the data mover are. -/
structure DmParms where
  base : U32
  admCrciNum : U32
  boxModeEntry : U32
  cmdPtrList : U32
  deriving DecidableEq, Repr

/-- A block call and its arguments; buffers are addresses. -/
inductive DmCall where
  | readABlockDm (blockNumber numBlocks readBuffer : U32)
  | writeABlockDm (blockNumber numBlocks writeBuffer : U32) (rca : BitVec 16)
  deriving DecidableEq, Repr

/-- The entry in box mode: its first word has the CRCI number at `crciShift`, and the last
two have the rows and the offsets. -/
def boxRequest (dm : DmParms) (crciShift : Nat) (source destination rows offset : U32) :
    AdmRequest where
  admChn := ADM_AARM_SD_CHN
  boxModeEntry := [ADM_CMD_LIST_LC ||| dm.admCrciNum <<< crciShift ||| ADM_ADDR_MODE_BOX,
    source, destination, SDCC_FIFO_SIZE <<< 16 ||| SDCC_FIFO_SIZE, rows <<< 16 ||| rows, offset]
  cmdPtrList := ADM_CMD_PTR_LP ||| ADM_CMD_PTR_CMD_LIST ||| dm.boxModeEntry >>> 3
  cmdPtr := dm.cmdPtrList >>> 3

/-- The request that a call makes of the data mover. -/
def DmCall.request (dm : DmParms) : DmCall → AdmRequest
  | readABlockDm _ numBlocks readBuffer =>
      boxRequest dm 3 (dm.base + MCI_FIFO) readBuffer (ROWS_PER_BLOCK * numBlocks) SDCC_FIFO_SIZE
  | writeABlockDm _ _ writeBuffer _ =>
      boxRequest dm 7 writeBuffer (dm.base + MCI_FIFO) ROWS_PER_BLOCK (SDCC_FIFO_SIZE <<< 16)

/-- `STOP_TRANSMISSION`, after more than one block. -/
def stopTransmission (port : Port) (numBlocks address : U32) : Poll U32 Sdcc Bool :=
  if 1 < numBlocks then do
    let sent ← sdccSendCmd port (CMD12 ||| MCI_CMD_ENABLE ||| MCI_CMD_RESPONSE) address
    pure sent.1
  else pure true

/-- `read_a_block_dm`. -/
def readABlockDm (port : Port) (answer : AdmAnswer) (blockNumber numBlocks : U32) :
    Poll U32 Sdcc Bool := do
  let sd ← get
  let address := blockAddress sd.highCapacity blockNumber
  writeReg .dataTimer RD_DATA_TIMEOUT
  writeReg .dataLength (BLOCK_SIZE * numBlocks)
  writeReg .dataCtl (MCI_DATA_CTL_ENABLE ||| MCI_DATA_CTL_DIRECTION |||
    MCI_DATA_CTL_DM_ENABLE ||| (BLOCK_SIZE <<< 4))
  let cmd := if numBlocks = 1 then CMD17 else CMD18
  let sent ← sdccSendCmd port (cmd ||| MCI_CMD_ENABLE ||| MCI_CMD_RESPONSE) address
  if !sent.1 then pure false
  else if admStartTransfer answer ≠ 0 then pure false
  else do
    let stopped ← stopTransmission port numBlocks address
    if !stopped then pure false else checkClearReadStatus

/-- `write_a_block_dm`. -/
def writeABlockDm (port : Port) (answer : AdmAnswer) (blockNumber numBlocks : U32)
    (rca : BitVec 16) : Poll U32 Sdcc Bool := do
  let sd ← get
  let address := blockAddress sd.highCapacity blockNumber
  if numBlocks ≠ 1 then pure false
  else do
    writeReg .dataTimer WR_DATA_TIMEOUT
    writeReg .dataLength BLOCK_SIZE
    let sent ← sdccSendCmd port (CMD24 ||| MCI_CMD_ENABLE ||| MCI_CMD_RESPONSE) address
    if !sent.1 then pure false
    else do
      writeReg .dataCtl (MCI_DATA_CTL_ENABLE ||| MCI_DATA_CTL_DM_ENABLE ||| (BLOCK_SIZE <<< 4))
      if admStartTransfer answer ≠ 0 then pure false
      else do
        let ended ← checkClearWriteStatus
        if !ended then pure false else awaitProgDone port rca

/-- A call, with what the data mover answers to requests. -/
def DmCall.run (port : Port) (dm : DmParms) (mover : AdmRequest → AdmAnswer) (call : DmCall) :
    Poll U32 Sdcc Bool :=
  let answer := mover (call.request dm)
  match call with
  | readABlockDm blockNumber numBlocks _ => Sd.readABlockDm port answer blockNumber numBlocks
  | writeABlockDm blockNumber numBlocks _ rca =>
      Sd.writeABlockDm port answer blockNumber numBlocks rca

/-! ## Timeouts -/

namespace AdmAnswer

/-- A poll in the window reads a status with the result-valid bit. -/
def Valid (answer : AdmAnswer) : Prop :=
  ∃ k ≤ 100, test (answer.status k) HI0_CHn_STATUS_SD3_RSLT_VLD = true

/-- The result says that the transfer is done, without an error. -/
def Done (answer : AdmAnswer) : Prop :=
  test answer.result HI0_CHn_RSLT_SD3_ERR = false ∧
    test answer.result HI0_CHn_RSLT_SD3_TPD = true ∧
    test answer.result HI0_CHn_RSLT_SD3_V = true

end AdmAnswer

section Timeouts

variable {port : Port} {dm : DmParms} {mover : AdmRequest → AdmAnswer} {call : DmCall}
  {answer : AdmAnswer}

theorem admPoll_iff (status : Nat → U32) (delayCount k : Nat) :
    admPoll status delayCount k = true ↔
      ∃ i, k ≤ i ∧ i ≤ k + delayCount ∧ test (status i) HI0_CHn_STATUS_SD3_RSLT_VLD = true := by
  induction delayCount generalizing k with
  | zero =>
      rw [admPoll]
      constructor
      · exact fun valid => ⟨k, Nat.le_refl k, Nat.le_refl k, valid⟩
      · rintro ⟨i, above, below, valid⟩
        rwa [Nat.le_antisymm above below]
  | succ delayCount ih =>
      rw [admPoll]
      split
      · rename_i valid
        exact iff_of_true rfl ⟨k, Nat.le_refl k, Nat.le_add_right k _, valid⟩
      · rename_i invalid
        rw [ih]
        constructor
        · rintro ⟨i, above, below, valid⟩
          exact ⟨i, by omega, by omega, valid⟩
        · rintro ⟨i, above, below, valid⟩
          have later : i ≠ k := by
            rintro rfl
            exact invalid valid
          exact ⟨i, by omega, by omega, valid⟩

theorem admPoll_valid_iff : admPoll answer.status 100 0 = true ↔ answer.Valid := by
  rw [admPoll_iff, AdmAnswer.Valid]
  simp

/-- Without a result within the window the transfer returns 0 as well. -/
theorem admStartTransfer_eq_zero_iff :
    admStartTransfer answer = 0 ↔ (answer.Valid → answer.Done) := by
  rw [admStartTransfer, ← admPoll_valid_iff, AdmAnswer.Done]
  cases admPoll answer.status 100 0 <;>
    cases test answer.result HI0_CHn_RSLT_SD3_ERR <;>
    cases test answer.result HI0_CHn_RSLT_SD3_TPD <;>
    cases test answer.result HI0_CHn_RSLT_SD3_V <;> decide

theorem readABlockDm_true {blockNumber numBlocks : U32} {sd final : Sdcc} {tape rest : List U32}
    (returned : readABlockDm port answer blockNumber numBlocks sd tape =
      some (true, final, rest)) : admStartTransfer answer = 0 := by
  by_contra failed
  simp only [readABlockDm, if_pos failed, ite_self] at returned
  obtain ⟨_, _, _, _, returned⟩ := bind_eq_some_iff.mp returned
  obtain ⟨_, _, _, _, returned⟩ := bind_eq_some_iff.mp returned
  obtain ⟨_, _, _, _, returned⟩ := bind_eq_some_iff.mp returned
  obtain ⟨_, _, _, _, returned⟩ := bind_eq_some_iff.mp returned
  obtain ⟨_, _, _, _, returned⟩ := bind_eq_some_iff.mp returned
  cases returned

theorem writeABlockDm_true {blockNumber numBlocks : U32} {rca : BitVec 16} {sd final : Sdcc}
    {tape rest : List U32}
    (returned : writeABlockDm port answer blockNumber numBlocks rca sd tape =
      some (true, final, rest)) : admStartTransfer answer = 0 := by
  by_contra failed
  simp only [writeABlockDm, if_pos failed] at returned
  obtain ⟨_, _, _, _, returned⟩ := bind_eq_some_iff.mp returned
  split at returned
  · cases returned
  · obtain ⟨_, _, _, _, returned⟩ := bind_eq_some_iff.mp returned
    obtain ⟨_, _, _, _, returned⟩ := bind_eq_some_iff.mp returned
    obtain ⟨_, _, _, _, returned⟩ := bind_eq_some_iff.mp returned
    split at returned
    · cases returned
    · obtain ⟨_, _, _, _, returned⟩ := bind_eq_some_iff.mp returned
      cases returned

/-- A block that counts as done was transferred as far as `adm_start_transfer` says. -/
theorem DmCall.run_true {sd final : Sdcc} {tape rest : List U32}
    (returned : call.run port dm mover sd tape = some (true, final, rest)) :
    admStartTransfer (mover (call.request dm)) = 0 := by
  cases call with
  | readABlockDm => exact readABlockDm_true returned
  | writeABlockDm => exact writeABlockDm_true returned

/-- The transfer returns 0 exactly if it finished, and a block that counts as done was
transferred. -/
def ReportsTimeouts (port : Port) (dm : DmParms) (mover : AdmRequest → AdmAnswer)
    (call : DmCall) : Prop :=
  let answer := mover (call.request dm)
  (admStartTransfer answer = 0 ↔ answer.Valid ∧ answer.Done) ∧
    ∀ sd tape final rest, call.run port dm mover sd tape = some (true, final, rest) →
      answer.Valid ∧ answer.Done

/-- Timeouts are reported exactly where there is none. -/
theorem reportsTimeouts_iff (port : Port) (dm : DmParms) (mover : AdmRequest → AdmAnswer)
    (call : DmCall) :
    ReportsTimeouts port dm mover call ↔ (mover (call.request dm)).Valid := by
  rw [ReportsTimeouts, admStartTransfer_eq_zero_iff]
  constructor
  · rintro ⟨exact, -⟩
    by_contra timeout
    exact timeout (exact.mp fun valid => absurd valid timeout).1
  · intro valid
    have finished : ((mover (call.request dm)).Valid → (mover (call.request dm)).Done) ↔
        (mover (call.request dm)).Valid ∧ (mover (call.request dm)).Done := by
      rw [and_iff_right valid, imp_iff_right valid]
    refine ⟨finished, fun sd tape final rest returned => finished.mp ?_⟩
    exact admStartTransfer_eq_zero_iff.mp (DmCall.run_true returned)

end Timeouts

/-! ## A transfer without a result -/

/-- The channel never has a result. -/
def silentMover (_ : AdmRequest) : AdmAnswer where
  status _ := 0
  result := 0

/-- The parameters of the second card slot. -/
def sdc2Parms : DmParms where
  base := 0xA0400000
  admCrciNum := 7
  boxModeEntry := 0
  cmdPtrList := 0

/-- The flags of a command and of the end of a block. -/
def dmTape : List U32 :=
  [MCI_STATUS_CMD_RESPONSE_END, 0, MCI_STATUS_DATA_BLK_END ||| MCI_STATUS_DATAEND, 0, 0]

/-- The window passes without a result, and the block counts as read. -/
theorem not_reportsTimeouts :
    ¬ ReportsTimeouts zeroPort sdc2Parms silentMover (.readABlockDm 0 1 0) ∧
      ∃ final, DmCall.run zeroPort sdc2Parms silentMover (.readABlockDm 0 1 0) idle dmTape =
        some (true, final, []) := by
  constructor
  · rintro ⟨exact, -⟩
    obtain ⟨⟨k, -, valid⟩, -⟩ := exact.mp (by decide)
    exact absurd valid (by decide : ¬ test (0 : U32) HI0_CHn_STATUS_SD3_RSLT_VLD = true)
  · have returned : (DmCall.run zeroPort sdc2Parms silentMover (.readABlockDm 0 1 0) idle
        dmTape).map (fun result => (result.1, result.2.2)) = some (true, []) := by
      decide +kernel
    obtain ⟨⟨ok, final, rest⟩, run, same⟩ := Option.map_eq_some_iff.mp returned
    cases same
    exact ⟨final, run⟩

end HtcLeo.Sd
