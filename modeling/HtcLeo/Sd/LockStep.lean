import HtcLeo.Sd.Core

/-!
# Transfers in lock step

Two runs of a transfer that start with different sticky flags move in lock step, on
every tape, as long as the flags in which they differ are none that the transfer
looks at.
-/

namespace HtcLeo.Sd

open Poll Flags

/-! ## Accesses to the controller -/

/-- The states differ at most in the sticky flags `hidden`. -/
structure Agrees (hidden : U32) (one two : Sdcc) : Prop where
  status : SameOutside hidden one.status two.status
  log : one.log = two.log
  memory : one.memory = two.memory
  highCapacity : one.highCapacity = two.highCapacity
  rca : one.rca = two.rca

/-- The two computations return the same value and keep the states in agreement. -/
abbrev Same {α : Type} (hidden : U32) (action : Poll U32 Sdcc α) : Prop :=
  Sim (Agrees hidden) (· = ·) action action

variable {hidden : U32}

theorem sim_readStatus : Sim (Agrees hidden) (SameOutside hidden) readStatus readStatus := by
  apply sim_bind sim_next
  rintro raised _ rfl sd sd' tape agrees
  exact Option.Rel.some ⟨agrees.status.or raised,
    { agrees with status := agrees.status.or _ }, rfl⟩

theorem same_writeReg (reg : Reg) (value : U32) : Same hidden (writeReg reg value) := by
  intro sd sd' tape agrees
  refine Option.Rel.some ⟨rfl,
    { agrees with status := ?_, log := congrArg (BusOp.write reg value :: ·) agrees.log }, rfl⟩
  simp only [Sdcc.wrote]
  split
  · exact agrees.status.clear value
  · exact agrees.status

theorem same_readFifo (port : Port) : Same hidden (readFifo port) := by
  intro sd sd' tape agrees
  exact Option.Rel.some ⟨congrArg port.fifo agrees.log,
    { agrees with log := congrArg (BusOp.readFifo :: ·) agrees.log }, rfl⟩

theorem same_store (pointer : Nat) (word : U32) : Same hidden (store pointer word) := by
  intro sd sd' tape agrees
  exact Option.Rel.some ⟨rfl,
    { agrees with memory := congrArg (Function.update · pointer word) agrees.memory }, rfl⟩

/-- A computation that only tests a status word. -/
theorem same_of_status {α : Type} {use : U32 → Poll U32 Sdcc α}
    (same : ∀ one two, SameOutside hidden one two →
      Sim (Agrees hidden) (· = ·) (use one) (use two)) :
    Same hidden (readStatus >>= use) :=
  sim_bind sim_readStatus same

theorem same_awaitSet {mask : U32} (avoids : ~~~hidden &&& mask = mask) :
    Same hidden (awaitSet mask) :=
  sim_loop_eq (fun _ => same_of_status fun _ _ words => by
    rw [words.test_eq avoids]
    exact sim_pure rfl) ()

theorem same_awaitClear {mask : U32} (avoids : ~~~hidden &&& mask = mask) :
    Same hidden (awaitClear mask) :=
  sim_loop_eq (fun _ => same_of_status fun _ _ words => by
    rw [words.test_eq avoids]
    exact sim_pure rfl) ()

/-- A mask without data flags avoids any data flags that are hidden. -/
theorem avoids_of_data {mask : U32} (data : hidden ||| dataFlags = dataFlags)
    (disjoint : ~~~dataFlags &&& mask = mask) : ~~~hidden &&& mask = mask := by
  rw [← disjoint, ← BitVec.and_assoc, ← BitVec.not_or, data]

/-- A command looks at no data flag. -/
theorem same_sdccSendCmd (data : hidden ||| dataFlags = dataFlags) (port : Port) (cmd arg : U32) :
    Same hidden (sdccSendCmd port cmd arg) := by
  refine sim_bind (same_writeReg _ _) fun _ _ _ => sim_bind (same_writeReg _ _) fun _ _ _ => ?_
  split
  · have round : ∀ start, Same hidden (cmdRound cmd start) := fun _ =>
      same_of_status fun _ _ words => by
        rw [cmdFlags, cmdFlags, words.test_eq (avoids_of_data data (by decide)),
          words.test_eq (avoids_of_data data (by decide)),
          words.test_eq (avoids_of_data data (by decide))]
        exact sim_pure rfl
    apply sim_bind (sim_loop_eq round ())
    rintro flags _ rfl
    refine sim_bind (same_writeReg _ _) fun _ _ _ =>
      sim_bind (same_awaitClear (avoids_of_data data (by decide))) fun _ _ _ =>
      sim_bind (same_writeReg _ _) fun _ _ _ => sim_bind (same_writeReg _ _) fun _ _ _ =>
      sim_bind sim_get fun one two agrees => ?_
    rw [agrees.log]
    exact sim_pure rfl
  · exact sim_bind (same_awaitSet (avoids_of_data data (by decide))) fun _ _ _ =>
      sim_bind (same_writeReg _ _) fun _ _ _ =>
      sim_bind (same_awaitClear (avoids_of_data data (by decide))) fun _ _ _ => sim_pure rfl

/-! ## Transfers -/

theorem avoids_of_part {mask part : U32} (avoids : ~~~hidden &&& mask = mask)
    (subset : mask &&& part = part) : ~~~hidden &&& part = part := by
  rw [← subset, ← BitVec.and_assoc, avoids]

theorem same_clearStatus
    (avoids : ~~~hidden &&& MCI_STATUS_DATAEND = MCI_STATUS_DATAEND) (cleared : U32) :
    Same hidden (clearStatus cleared) :=
  sim_bind (same_writeReg _ _) fun _ _ _ => sim_bind (same_writeReg _ _) fun _ _ _ =>
    sim_bind (same_awaitSet avoids) fun _ _ _ => sim_bind (same_writeReg _ _) fun _ _ _ =>
    sim_bind (same_awaitClear avoids) fun _ _ _ => same_writeReg _ _

/-- The end of a block looks at no other flags. -/
theorem same_checkClearStatus {errors : U32}
    (avoids : ~~~hidden &&& endFlags errors = endFlags errors)
    (errorsPart : endFlags errors &&& errors = errors)
    (blkEndPart : endFlags errors &&& MCI_STATUS_DATA_BLK_END = MCI_STATUS_DATA_BLK_END)
    (dataEndPart : endFlags errors &&& MCI_STATUS_DATAEND = MCI_STATUS_DATAEND)
    (cleared : U32) : Same hidden (checkClearStatus errors cleared) := by
  have round : ∀ start, Same hidden (statusRound errors start) := fun _ =>
    same_of_status fun _ _ words => by
      rw [words.test_eq (avoids_of_part avoids errorsPart),
        words.test_eq (avoids_of_part avoids blkEndPart)]
      exact sim_pure rfl
  apply sim_bind (sim_loop_eq round ())
  rintro ended _ rfl
  cases ended with
  | false => exact sim_pure rfl
  | true =>
      exact sim_bind (same_clearStatus (avoids_of_part avoids dataEndPart) cleared)
        fun _ _ _ => sim_pure rfl

theorem same_readRound (data : hidden ||| dataFlags = dataFlags) (port : Port)
    (at_ : Nat × Nat) : Same hidden (readRound port at_) := by
  rw [readRound, Polled.readRound]
  split
  · apply same_of_status
    intro _ _ words
    rw [words.test_eq (avoids_of_data data (by decide)),
      words.test_eq (avoids_of_data data (by decide))]
    split
    · apply sim_bind (same_readFifo port)
      rintro word _ rfl
      exact sim_bind (same_store _ _) fun _ _ _ => sim_pure rfl
    · split
      · exact sim_pure rfl
      · exact sim_pure rfl
  · exact sim_pure rfl

/-- A read does not look at the flags outside of `endFlags readErrors`. -/
theorem same_readABlock (data : hidden ||| dataFlags = dataFlags)
    (avoids : ~~~hidden &&& endFlags readErrors = endFlags readErrors) (port : Port)
    (blockNumber : U32) (readBuffer : Nat) :
    Same hidden (readABlock port blockNumber readBuffer) := by
  apply sim_bind sim_get
  intro one two agrees
  rw [agrees.highCapacity]
  refine sim_bind (same_writeReg _ _) fun _ _ _ => sim_bind (same_writeReg _ _) fun _ _ _ =>
    sim_bind (same_writeReg _ _) fun _ _ _ => sim_bind (same_sdccSendCmd data port _ _) ?_
  rintro sent _ rfl
  split
  · exact sim_pure rfl
  · apply sim_bind (sim_loop_eq (same_readRound data port) _)
    rintro emptied _ rfl
    split
    · exact sim_pure rfl
    · exact same_checkClearStatus avoids (by decide) (by decide) (by decide) _

theorem same_pushWord (pointer : Nat) : Same hidden (pushWord pointer) := by
  apply sim_bind sim_get
  intro one two agrees
  rw [agrees.memory]
  exact same_writeReg _ _

theorem same_writeRound (data : hidden ||| dataFlags = dataFlags)
    (avoids : ~~~hidden &&& endFlags writeErrors = endFlags writeErrors) (at_ : Nat × Nat) :
    Same hidden (writeRound at_) := by
  have errorsAvoid : ~~~hidden &&& fillErrors = fillErrors := by
    have command : ~~~hidden &&& MCI_STATUS_CMD_CRC_FAIL = MCI_STATUS_CMD_CRC_FAIL :=
      avoids_of_data data (by decide)
    have errors : ~~~hidden &&& (MCI_STATUS_DATA_TIMEOUT ||| MCI_STATUS_TX_UNDERRUN) =
        (MCI_STATUS_DATA_TIMEOUT ||| MCI_STATUS_TX_UNDERRUN) :=
      avoids_of_part avoids (by decide)
    rw [fillErrors, BitVec.or_assoc, BitVec.and_or_distrib_left, command, errors]
  rw [writeRound, Polled.writeRound]
  split
  · apply same_of_status
    intro _ _ words
    rw [words.test_eq errorsAvoid, words.test_eq (avoids_of_data data (by decide))]
    refine sim_bind (V := (· = ·)) ?_ fun _ _ _ => sim_pure rfl
    split
    · exact sim_pure rfl
    · exact same_pushWord _
  · exact sim_pure rfl

theorem same_awaitProgDone (data : hidden ||| dataFlags = dataFlags) (port : Port)
    (rca : BitVec 16) : Same hidden (awaitProgDone port rca) := by
  apply sim_bind (same_sdccSendCmd data port _ _)
  rintro sent _ rfl
  split
  · exact sim_pure rfl
  · exact sim_bind (same_awaitSet (avoids_of_data data (by decide))) fun _ _ _ =>
      sim_bind (same_writeReg _ _) fun _ _ _ =>
      sim_bind (same_awaitClear (avoids_of_data data (by decide))) fun _ _ _ => sim_pure rfl

/-- A write does not look at the flags outside of `endFlags writeErrors`. -/
theorem same_writeABlock (data : hidden ||| dataFlags = dataFlags)
    (avoids : ~~~hidden &&& endFlags writeErrors = endFlags writeErrors) (port : Port)
    (blockNumber : U32) (writeBuffer : Nat) (rca : BitVec 16) :
    Same hidden (writeABlock port blockNumber writeBuffer rca) := by
  apply sim_bind sim_get
  intro one two agrees
  rw [agrees.highCapacity]
  refine sim_bind (same_writeReg _ _) fun _ _ _ => sim_bind (same_writeReg _ _) fun _ _ _ =>
    sim_bind (same_sdccSendCmd data port _ _) ?_
  rintro sent _ rfl
  split
  · exact sim_pure rfl
  · refine sim_bind (same_writeReg _ _) fun _ _ _ =>
      sim_bind (sim_loop_eq (same_writeRound data avoids) _) ?_
    rintro filled _ rfl
    split
    · exact sim_pure rfl
    · refine sim_bind
        (same_checkClearStatus avoids (by decide) (by decide) (by decide) _) ?_
      rintro ended _ rfl
      split
      · exact sim_pure rfl
      · exact same_awaitProgDone data port rca

theorem same_cardSetBlockSize (data : hidden ||| dataFlags = dataFlags) (port : Port)
    (size : U32) : Same hidden (cardSetBlockSize port size) := by
  apply sim_bind (same_sdccSendCmd data port _ _)
  rintro sent _ rfl
  exact sim_pure rfl

theorem same_readScrRegister (data : hidden ||| dataFlags = dataFlags) (port : Port)
    (rca : BitVec 16) : Same hidden (readScrRegister port rca) := by
  refine sim_bind (same_writeReg _ _) fun _ _ _ => sim_bind (same_writeReg _ _) fun _ _ _ =>
    sim_bind (same_cardSetBlockSize data port _) ?_
  rintro sized _ rfl
  split
  · exact sim_pure rfl
  · refine sim_bind (same_writeReg _ _) fun _ _ _ =>
      sim_bind (same_sdccSendCmd data port _ _) ?_
    rintro sent _ rfl
    split
    · exact sim_pure rfl
    · apply sim_bind (same_sdccSendCmd data port _ _)
      rintro sent _ rfl
      split
      · exact sim_pure rfl
      · exact sim_bind (same_awaitSet (avoids_of_data data (by decide))) fun _ _ _ =>
          sim_bind (same_readFifo port) fun _ _ _ =>
          sim_bind (same_readFifo port) fun _ _ _ => sim_pure rfl

end HtcLeo.Sd
