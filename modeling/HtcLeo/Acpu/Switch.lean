import HtcLeo.Acpu.Core
import HtcLeo.Poll.Supply
import HtcLeo.Transition.Run

/-!
# Switching the CPU clock

The SCPLL is touched only while the CPU runs from the raw source, and after every call
the registers are those of `current_speed`.  Waiting for the SCPLL changes nothing, so
that each part of a switch is one change of the registers.
-/

namespace HtcLeo.Acpu

open Poll Transition

/-! ## What the registers say -/

/-- The source bits of `SPSS_CLK_SEL`. -/
def Registers.source (registers : Registers) : U32 := Flags.field registers.clkSel 1 3

/-- The L value in `SCPLL_FSM_CTL_EXT`. -/
def Registers.lValue (registers : Registers) : U32 :=
  Flags.field registers.scpllFsmCtlExt 3 0x3f

/-- The write sets the L value, or puts the SCPLL in standby or powers it down. -/
def Write.TouchesScpll (write : Write) : Prop :=
  write.register = .scpllFsmCtlExt ∨
    write.register = .scpllCtl ∧ (write.value &&& PLLMODE_MASK = PLLMODE_STANDBY ∨
      write.value &&& PLLMODE_MASK = PLLMODE_POWERDOWN)

/-- The write does not touch the SCPLL while the CPU runs from it. -/
def Write.Safe (write : Write) : Prop :=
  write.TouchesScpll → write.before.source ≠ SRC_SCPLL

/-- Every write was made over registers that allow it. -/
def Cpu.Safe (cpu : Cpu) : Prop := ∀ write ∈ cpu.log, write.Safe

/-- The field of `SPSS_CLK_CNTL` that was written last. -/
def Cpu.lastField (cpu : Cpu) : Option U32 :=
  (cpu.log.find? (·.register == .clkCntl)).map fun write =>
    Flags.field cpu.registers.clkCntl (otherShift write.before.clkSel) 0x7F

/-- The registers are those of a speed. -/
structure Cpu.RunsAt (cpu : Cpu) (speed : ClkctlAcpuSpeed) : Prop where
  source : cpu.registers.source = speed.clkSel
  lValue : speed.clkSel = SRC_SCPLL → cpu.registers.lValue = speed.scLValue
  lastField : speed.clkSel = SRC_RAW → cpu.lastField = some speed.clkCfg

/-! ## Writes -/

section Writes

variable {cpu : Cpu} {value : U32} {register : Register}

theorem Cpu.Safe.writel (safe : cpu.Safe)
    (write : (⟨cpu.registers, register, value⟩ : Write).Safe) :
    (cpu.writel value register).Safe :=
  List.forall_mem_cons.mpr ⟨write, safe⟩

/-- A write of another register leaves the last field. -/
theorem Cpu.writel_lastField (other : register ≠ .clkCntl) :
    (cpu.writel value register).lastField = cpu.lastField := by
  have same : (cpu.registers.set value register).clkCntl = cpu.registers.clkCntl := by
    cases register with
    | clkCntl => exact absurd rfl other
    | _ => rfl
  rw [lastField, lastField, Cpu.writel, List.find?_cons, beq_false_of_ne other, same]

/-- The CPU runs from the raw source, and nothing unsafe was done. -/
structure Cpu.Aside (cpu : Cpu) : Prop where
  source : cpu.registers.source = SRC_RAW
  safe : cpu.Safe

/-- Meanwhile the SCPLL can be programmed. -/
theorem Cpu.Aside.writel (aside : cpu.Aside)
    (scpll : register = .scpllCtl ∨ register = .scpllFsmCtlExt) :
    (cpu.writel value register).Aside := by
  constructor
  · rcases scpll with rfl | rfl <;> exact aside.source
  · apply aside.safe.writel
    rintro -
    rw [aside.source]
    decide

end Writes

/-! ## Programming the SCPLL -/

section Scpll

variable {cpu : Cpu}

theorem Cpu.Aside.powerDown (aside : cpu.Aside) : cpu.powerDown.Aside :=
  (aside.writel (.inl rfl)).writel (.inl rfl)

theorem Cpu.powerDown_lastField (cpu : Cpu) : cpu.powerDown.lastField = cpu.lastField := by
  rw [powerDown, writel_lastField Register.noConfusion, writel_lastField Register.noConfusion]

theorem Cpu.Aside.switchTo (aside : cpu.Aside) (lval mode : U32) :
    (cpu.switchTo lval mode).Aside :=
  (aside.writel (.inr rfl)).writel (.inl rfl)

theorem Cpu.Aside.calibrate (aside : cpu.Aside) : cpu.calibrate.Aside :=
  (aside.writel (.inl rfl)).switchTo _ _

theorem Cpu.switchTo_lValue (cpu : Cpu) (lval mode : U32) :
    (cpu.switchTo lval mode).registers.lValue = Flags.field ((lval <<< 3) ||| mode) 3 0x3f := by
  have covered : (~~~(0x1FF : U32) >>> 3) &&& 0x3f = 0#32 := by decide
  have word : (cpu.switchTo lval mode).registers.scpllFsmCtlExt =
      (cpu.registers.scpllFsmCtlExt &&& ~~~0x1FF#32) ||| ((lval <<< 3) ||| mode) :=
    BitVec.or_assoc _ _ _
  rw [Registers.lValue, word]
  exact Flags.field_insert covered _

end Scpll

/-! ## Selecting the source -/

section Select

variable {cpu : Cpu}

theorem source_insert (sel src : U32) :
    Flags.field ((sel &&& ~~~6#32) ||| ((src &&& 3) <<< 1)) 1 3 =
      Flags.field ((src &&& 3) <<< 1) 1 3 :=
  Flags.field_insert (by decide) _

/-- A write of the bank or of the source touches no SCPLL. -/
theorem Cpu.Safe.writel_select (safe : cpu.Safe) {value : U32} {register : Register}
    (select : register = .clkCntl ∨ register = .clkSel) : (cpu.writel value register).Safe := by
  apply safe.writel
  rintro (ext | ⟨ctl, -⟩) <;> rcases select with rfl | rfl <;> cases ‹_ = _›

theorem Cpu.Safe.switchBank (safe : cpu.Safe) (config : U32) : (cpu.switchBank config).Safe :=
  (safe.writel_select (.inl rfl)).writel_select (.inr rfl)

theorem Cpu.switchBank_lastField (cpu : Cpu) (config : U32) :
    (cpu.switchBank config).lastField =
      some (Flags.field (config <<< otherShift cpu.registers.clkSel)
        (otherShift cpu.registers.clkSel) 0x7F) := by
  have covered : (~~~(0x7F#32 <<< otherShift cpu.registers.clkSel) >>>
      otherShift cpu.registers.clkSel) &&& 0x7F = 0#32 := by
    unfold otherShift
    split <;> decide
  rw [switchBank, writel_lastField Register.noConfusion]
  exact congrArg some (Flags.field_insert covered _)

/-- The raw source is selected by way of the other bank. -/
theorem Cpu.Safe.selectClock_raw (safe : cpu.Safe) (config : U32) :
    (selectClock SRC_RAW config cpu).Aside := by
  constructor
  · exact source_insert _ _
  · exact (safe.switchBank config).writel_select (.inr rfl)

theorem selectClock_raw_lastField (cpu : Cpu) (config : U32) :
    (selectClock SRC_RAW config cpu).lastField =
      some (Flags.field (config <<< otherShift cpu.registers.clkSel)
        (otherShift cpu.registers.clkSel) 0x7F) := by
  rw [← Cpu.switchBank_lastField]
  exact Cpu.writel_lastField Register.noConfusion

/-- The SCPLL is selected with the L value that it has. -/
theorem selectClock_scpll_registers (cpu : Cpu) :
    (selectClock SRC_SCPLL 0 cpu).registers.source = SRC_SCPLL ∧
      (selectClock SRC_SCPLL 0 cpu).registers.lValue = cpu.registers.lValue :=
  ⟨source_insert _ _, rfl⟩

theorem Cpu.Safe.selectClock_scpll (safe : cpu.Safe) : (selectClock SRC_SCPLL 0 cpu).Safe :=
  safe.writel_select (.inr rfl)

end Select

/-! ## The table -/

/-- The L values of the table are neither clamped nor cut off. -/
theorem lValue_of_mem : ∀ speed ∈ acpuFreqTbl, speed.clkSel = SRC_SCPLL →
    Flags.field ((clampLval speed.scLValue <<< 3) ||| HOP_SWITCH) 3 0x3f = speed.scLValue := by
  decide +kernel

/-- The other source is the raw one, and its configurations fit the field of a bank. -/
theorem clkCfg_of_mem : ∀ speed ∈ acpuFreqTbl, speed.clkSel ≠ SRC_SCPLL →
    speed.clkSel = SRC_RAW ∧ ∀ shift ∈ [0, 8],
      Flags.field (speed.clkCfg <<< shift) shift 0x7F = speed.clkCfg := by
  decide +kernel

theorem otherShift_mem (sel : U32) : otherShift sel ∈ [0, 8] := by
  unfold otherShift
  split <;> decide

theorem findRate_spec {rate : U32} {table : List ClkctlAcpuSpeed} {next : ClkctlAcpuSpeed}
    (found : findRate rate table = some next) : next ∈ table ∧ next.acpuKhz = rate := by
  induction table with
  | nil => exact absurd found.symm (Option.some_ne_none _)
  | cons first rest ih =>
      rw [findRate] at found
      split at found
      · cases found
        exact ⟨List.mem_cons_self, ‹_›⟩
      · split at found
        · exact absurd found.symm (Option.some_ne_none _)
        · exact ⟨List.mem_cons_of_mem _ (ih found).1, (ih found).2⟩

/-! ## The switch -/

/-- Waiting for the SCPLL changes nothing. -/
theorem triple_waitStatus {P : Cpu → Prop} (mask : U32) :
    Triple P (waitStatus mask) fun _ => P := by
  refine triple_loop (I := fun _ => P) (fun _ => ?_) ()
  intro state tape value final rest holds returned
  rcases bind_eq_some_iff.mp returned with ⟨status, _, _, drawn, decided⟩
  rcases next_eq_some_iff.mp drawn with ⟨_, _, -, result_eq⟩
  cases result_eq
  cases decided
  split <;> exact holds

theorem triple_scpllStart : Triple Cpu.Aside scpllStart fun _ => Cpu.Aside := by
  intro state tape value final rest aside returned
  rw [scpllStart, get_bind_apply] at returned
  split at returned
  · rcases bind_eq_some_iff.mp returned with ⟨_, _, _, changed, waited⟩
    cases changed
    exact triple_waitStatus _ aside.calibrate waited
  · cases returned
    exact aside

theorem triple_scpllSetFreq (lval : U32) :
    Triple Cpu.Aside (scpllSetFreq lval) fun _ cpu => cpu.Aside ∧
      cpu.registers.lValue = Flags.field ((clampLval lval <<< 3) ||| HOP_SWITCH) 3 0x3f := by
  refine triple_bind (triple_waitStatus _) fun _ => ?_
  refine triple_bind triple_scpllStart fun _ => ?_
  refine triple_bind (Q := fun _ cpu => cpu.Aside ∧
    cpu.registers.lValue = Flags.field ((clampLval lval <<< 3) ||| HOP_SWITCH) 3 0x3f) ?_ ?_
  · intro state tape value final rest aside returned
    cases returned
    exact ⟨aside.switchTo _ _, Cpu.switchTo_lValue _ _ _⟩
  · exact fun _ => triple_waitStatus _

theorem triple_scpllPowerDown (field : Option U32) :
    Triple (fun cpu => cpu.Aside ∧ cpu.lastField = field) scpllPowerDown
      fun _ cpu => cpu.Aside ∧ cpu.lastField = field := by
  refine triple_bind (triple_waitStatus _) fun _ => ?_
  intro state tape value final rest aside returned
  cases returned
  exact ⟨aside.1.powerDown, (Cpu.powerDown_lastField _).trans aside.2⟩

theorem triple_stepAside (cur : ClkctlAcpuSpeed) :
    Triple (fun cpu => cpu.RunsAt cur ∧ cpu.Safe) (stepAside cur) fun _ => Cpu.Aside := by
  intro state tape value final rest holds returned
  rw [stepAside] at returned
  split at returned
  · rename_i standby
    cases returned
    have raw : cur.clkSel = SRC_RAW := beq_iff_eq.mp (Bool.and_eq_true_iff.mp standby).2
    exact ⟨holds.1.source.trans raw, holds.2⟩
  · cases returned
    exact holds.2.selectClock_raw _

/-- The raw source runs at the speed that was selected. -/
theorem runsAt_of_raw {cpu : Cpu} {speed : ClkctlAcpuSpeed} (raw : speed.clkSel = SRC_RAW)
    (aside : cpu.Aside) (field : cpu.lastField = some speed.clkCfg) : cpu.RunsAt speed where
  source := aside.source.trans raw.symm
  lValue scpll := absurd (raw.symm.trans scpll) (by decide)
  lastField _ := field

theorem selectClock_lastField {speed : ClkctlAcpuSpeed} (member : speed ∈ acpuFreqTbl)
    (other : speed.clkSel ≠ SRC_SCPLL) (cpu : Cpu) :
    (selectClock speed.clkSel speed.clkCfg cpu).lastField = some speed.clkCfg := by
  rcases clkCfg_of_mem speed member other with ⟨raw, fits⟩
  rw [raw, selectClock_raw_lastField, fits _ (otherShift_mem _)]

/-- The step back from the raw source to the SCPLL. -/
theorem triple_toScpll {speed : ClkctlAcpuSpeed} (member : speed ∈ acpuFreqTbl)
    (scpll : speed.clkSel = SRC_SCPLL) :
    Triple Cpu.Aside (do
        scpllSetFreq speed.scLValue
        modify (selectClock SRC_SCPLL 0))
      fun _ cpu => cpu.RunsAt speed ∧ cpu.Safe := by
  refine triple_bind (triple_scpllSetFreq _) fun _ => ?_
  intro state tape value final rest aside returned
  cases returned
  rcases selectClock_scpll_registers state with ⟨source, lValue⟩
  constructor
  · constructor
    · exact source.trans scpll.symm
    · exact fun _ => lValue.trans (aside.2.trans (lValue_of_mem speed member scpll))
    · exact fun raw => absurd (scpll.symm.trans raw) (by decide)
  · exact aside.1.safe.selectClock_scpll

/-- A switch ends at the new speed, and nothing unsafe happens on the way. -/
theorem triple_switchSpeed {cur next : ClkctlAcpuSpeed} (member : next ∈ acpuFreqTbl) :
    Triple (fun cpu => cpu.RunsAt cur ∧ cpu.Safe) (switchSpeed cur next)
      fun _ cpu => cpu.RunsAt next ∧ cpu.Safe := by
  unfold switchSpeed
  split
  · rename_i scpll
    exact triple_bind (triple_stepAside cur) fun _ => triple_toScpll member scpll
  · rename_i other
    have raw := (clkCfg_of_mem next member other).1
    split
    · refine triple_bind (Q := fun _ => Cpu.Safe) ?_ fun _ => ?_
      · intro state tape value final rest holds returned
        cases returned
        exact (holds.2.selectClock_raw _).safe
      · refine triple_bind (Q := fun _ cpu => cpu.Aside ∧
          cpu.lastField = some next.clkCfg) ?_ fun _ => ?_
        · intro state tape value final rest safe returned
          cases returned
          refine ⟨?_, selectClock_lastField member other _⟩
          rw [raw]
          exact safe.selectClock_raw _
        · exact (triple_scpllPowerDown _).consequence (fun _ => id) fun _ _ aside =>
            ⟨runsAt_of_raw raw aside.1 aside.2, aside.1.safe⟩
    · intro state tape value final rest holds returned
      cases returned
      have aside : (selectClock next.clkSel next.clkCfg state).Aside := by
        rw [raw]
        exact holds.2.selectClock_raw _
      exact ⟨runsAt_of_raw raw aside (selectClock_lastField member other _), aside.safe⟩

/-! ## Initialization -/

/-- The registers are those of the current speed, and nothing unsafe was done. -/
structure Cpu.Settled (cpu : Cpu) : Prop where
  speed : ∃ speed, cpu.currentSpeed = some speed ∧ cpu.RunsAt speed
  safe : cpu.Safe

/-- The parts of a switch leave `current_speed` alone. -/
theorem frames_waitStatus (mask : U32) : Frames Cpu.currentSpeed (waitStatus mask) := by
  refine frames_loop (fun _ => frames_bind frames_next fun _ => frames_pure _) ()

theorem frames_scpllSetFreq (lval : U32) : Frames Cpu.currentSpeed (scpllSetFreq lval) := by
  have started : Frames Cpu.currentSpeed scpllStart := by
    intro state tape value final rest returned
    rw [scpllStart, get_bind_apply] at returned
    split at returned
    · have calibrated : Frames Cpu.currentSpeed (modify Cpu.calibrate : Poll U32 Cpu PUnit) :=
        frames_modify fun _ => rfl
      exact frames_bind calibrated (fun _ => frames_waitStatus 1) returned
    · cases returned
      rfl
  exact frames_bind (frames_waitStatus _) fun _ => frames_bind started fun _ =>
    frames_bind (frames_modify fun _ => rfl) fun _ => frames_waitStatus _

theorem selectClock_currentSpeed (src config : U32) (cpu : Cpu) :
    (selectClock src config cpu).currentSpeed = cpu.currentSpeed := by
  unfold selectClock
  split <;> rfl

theorem triple_bootSwitch {speed : ClkctlAcpuSpeed} (member : speed ∈ acpuFreqTbl)
    (scpll : speed.clkSel = SRC_SCPLL) :
    Triple Cpu.Safe (bootSwitch speed) fun _ cpu => cpu.RunsAt speed ∧ cpu.Safe := by
  refine triple_bind (Q := fun _ => Cpu.Aside) ?_ fun _ => ?_
  · intro state tape value final rest safe returned
    cases returned
    exact safe.selectClock_raw _
  · refine triple_bind (Q := fun _ => Cpu.Aside) ?_ fun _ => triple_toScpll member scpll
    intro state tape value final rest aside returned
    exact (triple_scpllPowerDown state.lastField ⟨aside, rfl⟩ returned).1

theorem frames_bootSwitch (speed : ClkctlAcpuSpeed) :
    Frames Cpu.currentSpeed (bootSwitch speed) := by
  have powered : Frames Cpu.currentSpeed scpllPowerDown :=
    frames_bind (frames_waitStatus _) fun _ => frames_modify fun _ => rfl
  exact frames_bind (frames_modify fun _ => selectClock_currentSpeed _ _ _) fun _ =>
    frames_bind powered fun _ => frames_bind (frames_scpllSetFreq _) fun _ =>
      frames_modify fun _ => selectClock_currentSpeed _ _ _

/-- After an initialization that returns, the CPU runs at the speed that was chosen. -/
theorem acpuclkInit_settled {freqNum : Nat} {start booted : Cpu} {tape rest : List U32}
    (scpll : ∃ speed, acpuFreqTbl[freqNum]? = some speed ∧ speed.clkSel = SRC_SCPLL)
    (first : start.acpuclkInitDone = false) (unlogged : start.log = [])
    (returned : acpuclkInit freqNum start tape = some ((), booted, rest)) : booted.Settled := by
  rcases scpll with ⟨speed, entry, source⟩
  rw [acpuclkInit, get_bind_apply, first, if_neg Bool.false_ne_true] at returned
  rcases bind_eq_some_iff.mp returned with ⟨khz, middle, _, found, returned⟩
  have same : middle = start := by
    rw [acpuclkFindSpeed, get_bind_apply] at found
    repeat' split at found
    all_goals cases found
    all_goals rfl
  rw [entry, same] at returned
  split at returned
  · cases returned
  · rcases bind_eq_some_iff.mp returned with ⟨_, _, _, chosen, returned⟩
    cases chosen
    rcases bind_eq_some_iff.mp returned with ⟨_, switched, _, switching, returned⟩
    cases returned
    have safe : ({ start with currentSpeed := some speed } : Cpu).Safe := by
      intro write member
      rw [show ({ start with currentSpeed := some speed } : Cpu).log = start.log from rfl,
        unlogged] at member
      exact absurd member List.not_mem_nil
    rcases triple_bootSwitch (List.mem_of_getElem? entry) source safe switching with
      ⟨runs, safe⟩
    exact ⟨⟨speed, frames_bootSwitch speed switching, runs.source, runs.lValue, runs.lastField⟩,
      safe⟩

/-! ## Calls -/

/-- One call, with the rate in Hz that was asked for and the value returned. -/
structure Call where
  rate : U32
  result : Int
  deriving DecidableEq, Repr

/-- A call that returns, for some status words of the SCPLL. -/
def Calls (before : Cpu) (call : Call) (after : Cpu) : Prop :=
  ∃ tape rest, acpuclkSetRate call.rate before tape = some (call.result, after, rest)

/-- What a call that returns has done. -/
structure Consistent (step : Step Cpu Call) : Prop where
  result : step.label.result = 0 ∨ step.label.result = -1
  /-- The registers are those of the current speed, the one that was asked for. -/
  success : step.label.result = 0 → ∃ speed, step.after.currentSpeed = some speed ∧
    step.after.RunsAt speed ∧
      (speed.acpuKhz = step.label.rate / 1000 ∨ step.label.rate / 1000 = 0)
  /-- A request for nothing, or for the current speed, changes nothing. -/
  unchanged : ∀ cur, step.before.currentSpeed = some cur →
    step.label.rate / 1000 = 0 ∨ step.label.rate / 1000 = cur.acpuKhz →
      step.after = step.before
  failure : step.label.result = -1 → step.after = step.before
  safe : step.after.Safe

/-- A call that returns: it changed nothing, or it switched to the rate asked for. -/
theorem acpuclkSetRate_cases {rate : U32} {before after : Cpu} {result : Int}
    {cur : ClkctlAcpuSpeed} {tape rest : List U32} (current : before.currentSpeed = some cur)
    (returned : acpuclkSetRate rate before tape = some (result, after, rest)) :
    (result = 0 ∧ after = before ∧ (rate / 1000 = cur.acpuKhz ∨ rate / 1000 = 0)) ∨
      (result = -1 ∧ after = before) ∨
      (result = 0 ∧ ¬ (rate / 1000 = cur.acpuKhz ∨ rate / 1000 = 0) ∧
        ∃ next ∈ acpuFreqTbl, next.acpuKhz = rate / 1000 ∧ ∃ switched,
          switchSpeed cur next before tape = some ((), switched, rest) ∧
            after = { switched with currentSpeed := some next }) := by
  rw [acpuclkSetRate, get_bind_apply, current] at returned
  dsimp only at returned
  split at returned
  · cases returned
    exact .inl ⟨rfl, rfl, ‹_›⟩
  · cases found : findRate (rate / 1000) acpuFreqTbl with
    | none =>
        rw [found] at returned
        cases returned
        exact .inr (.inl ⟨rfl, rfl⟩)
    | some next =>
        rw [found] at returned
        rcases bind_eq_some_iff.mp returned with ⟨_, switched, _, switching, returned⟩
        cases returned
        rcases findRate_spec found with ⟨member, rate_eq⟩
        exact .inr (.inr ⟨rfl, ‹_›, next, member, rate_eq, switched, switching, rfl⟩)

theorem Cpu.Settled.call {before after : Cpu} {call : Call} (settled : before.Settled)
    (called : Calls before call after) : Consistent ⟨before, call, after⟩ ∧ after.Settled := by
  rcases called with ⟨tape, rest, returned⟩
  rcases settled.speed with ⟨cur, current, runs⟩
  rcases acpuclkSetRate_cases current returned with ⟨zero, rfl, nothing⟩ | ⟨failed, rfl⟩ |
    ⟨zero, something, next, member, rate_eq, switched, switching, rfl⟩
  · refine ⟨⟨.inl zero, fun _ => ⟨cur, current, runs, ?_⟩, fun _ _ _ => rfl, fun _ => rfl,
      settled.safe⟩, settled⟩
    exact nothing.imp Eq.symm id
  · refine ⟨⟨.inr failed, fun zero => ?_, fun _ _ _ => rfl, fun _ => rfl, settled.safe⟩, settled⟩
    exact absurd (failed.symm.trans zero) (by decide)
  · rcases triple_switchSpeed member ⟨runs, settled.safe⟩ switching with ⟨runs, safe⟩
    have runs : ({ switched with currentSpeed := some next } : Cpu).RunsAt next :=
      ⟨runs.source, runs.lValue, runs.lastField⟩
    refine ⟨⟨.inl zero, fun _ => ⟨next, rfl, runs, .inl rate_eq⟩, ?_, fun failed => ?_, safe⟩,
      ⟨⟨next, rfl, runs⟩, safe⟩⟩
    · intro other same nothing
      cases current.symm.trans same
      exact absurd nothing.symm something
    · exact absurd (zero.symm.trans failed) (by decide)

/-! ## Every call returns -/

/-- The SCPLL is neither calibrating nor switching. -/
def idleStatus (status : U32) : Bool := !Flags.test status 0x3

theorem within_waitStatus {mask : U32} (part : 0x3 &&& mask = mask) :
    Within (List.countP idleStatus) 1 (waitStatus mask) := by
  apply within_wait
  intro status idle
  have clear : Flags.test status 0x3 = false := by simpa [idleStatus] using idle
  exact Flags.test_eq_false_of_subset clear part

theorem within_scpllSetFreq (lval : U32) :
    Within (List.countP idleStatus) 3 (scpllSetFreq lval) := by
  have start : Within (List.countP idleStatus) 1 scpllStart := by
    intro state tape enough
    rw [scpllStart, get_bind_apply]
    split
    · have calibrated : Within (List.countP idleStatus) 1 (waitStatus 1) :=
        within_waitStatus (by decide)
      exact ((within_modify Cpu.calibrate).bind fun _ => calibrated) enough
    · exact (within_pure ()).mono (Nat.zero_le 1) enough
  exact (within_waitStatus (by decide)).bind fun _ => start.bind fun _ =>
    (within_modify _).bind fun _ => within_waitStatus (by decide)

theorem within_switchSpeed (cur next : ClkctlAcpuSpeed) :
    Within (List.countP idleStatus) 3 (switchSpeed cur next) := by
  have aside : Within (List.countP idleStatus) 0 (stepAside cur) := by
    unfold stepAside
    split
    · exact within_pure _
    · exact within_modify _
  have power : Within (List.countP idleStatus) 1 scpllPowerDown :=
    (within_waitStatus (by decide)).bind fun _ => within_modify _
  unfold switchSpeed
  split
  · exact (aside.bind fun _ => (within_scpllSetFreq _).bind fun _ => within_modify _).mono
      (Nat.le_refl 3)
  · split
    · exact ((within_modify _).bind fun _ => (within_modify _).bind fun _ => power).mono (by decide)
    · exact (within_modify _).mono (Nat.zero_le 3)

/-- If the SCPLL is idle at three reads of its status, a call returns. -/
theorem acpuclkSetRate_returns {cpu : Cpu} {cur : ClkctlAcpuSpeed}
    (current : cpu.currentSpeed = some cur) (rate : U32) {tape : List U32}
    (idle : 3 ≤ tape.countP idleStatus) :
    ∃ result after rest, acpuclkSetRate rate cpu tape = some (result, after, rest) := by
  rw [acpuclkSetRate, get_bind_apply, current]
  dsimp only
  split
  · exact ⟨_, _, _, rfl⟩
  · cases findRate (rate / 1000) acpuFreqTbl with
    | none => exact ⟨_, _, _, rfl⟩
    | some next =>
        rcases @within_switchSpeed cur next cpu tape idle with ⟨_, _, _, switched, -⟩
        exact ⟨_, _, _, bind_of_eq_some switched⟩

/-- After an initialization for a speed of the SCPLL, every call of any sequence is
consistent, and nothing unsafe happens in the initialization or in any call. -/
theorem clock_switches_consistent {freqNum : Nat} {start booted : Cpu}
    {steps : List (Step Cpu Call)}
    (scpll : ∃ speed, acpuFreqTbl[freqNum]? = some speed ∧ speed.clkSel = SRC_SCPLL)
    (first : start.acpuclkInitDone = false) (unlogged : start.log = [])
    (init : ∃ tape rest, acpuclkInit freqNum start tape = some ((), booted, rest))
    (run : Run Calls booted steps) : booted.Safe ∧ ∀ step ∈ steps, Consistent step := by
  rcases init with ⟨tape, rest, returned⟩
  have settled := acpuclkInit_settled scpll first unlogged returned
  exact ⟨settled.safe, run.forall_of_kept settled fun _ _ _ settled called => settled.call called⟩

/-! ## From boot to the standby speed and back -/

/-- The boot loader left the CPU running from the SCPLL at 768 MHz. -/
def bootRegisters : Registers := ⟨0, 2, 7, 0xA5⟩

/-- The CPU before the driver's first call. -/
def powerOn : Cpu := ⟨bootRegisters, 1, none, false, []⟩

/-- The SCPLL is always idle. -/
def idleTape : List U32 := [0, 0, 0, 0]

/-- The CPU after the initialisation at boot. -/
def bootedCpu : Cpu :=
  ((acpuclkInit bootFreqNum powerOn idleTape).map fun result => result.2.1).getD powerOn

/-- The state after a call that always finds the SCPLL idle. -/
def Cpu.setRate (cpu : Cpu) (rate : U32) : Cpu :=
  ((acpuclkSetRate rate cpu idleTape).map fun result => result.2.1).getD cpu

/-- A call that asks for the rate of the standby clock. -/
def standbyCall : Step Cpu Call := ⟨bootedCpu, ⟨245000000, 0⟩, bootedCpu.setRate 245000000⟩

theorem clock_switches_consistent_standby :
    bootedCpu.Safe ∧ ∀ step ∈ [standbyCall], Consistent step := by
  apply @clock_switches_consistent bootFreqNum powerOn
  · exact ⟨⟨998400, CCTL CLK_TCXO 1, SRC_SCPLL, 0x1A⟩, rfl, rfl⟩
  · rfl
  · rfl
  · exact ⟨idleTape, [], by decide +kernel⟩
  · exact .cons ⟨idleTape, [0, 0, 0], by decide +kernel⟩ (.nil _)

end HtcLeo.Acpu
