import HtcLeo.Charging.Core
import HtcLeo.Transition.Run

/-!
# When charging is enabled on evidence

A tick either finds the state machine where it wants it and leaves the lines
alone, or runs the entry actions of another state.  The entry actions of
`CHG_USB_LOW` enable the charger before they select the low current, the start
state `CHG_OFF` is believed without driving the lines, and a failed read of the
gauge is not noticed.  These are the only three ways in which a tick goes wrong.
-/

namespace HtcLeo.Charging

open PsyChargerState Transition

/-! ## Ticks -/

/-- The driver's state beside the lines it drives. -/
structure Charger where
  gState : PsyChargerState
  lines : Lines
  deriving DecidableEq, Repr

/-- What one tick does to the lines. -/
def Charger.effects (charger : Charger) (tick : Tick) : List Effect :=
  (wantsCharging charger.gState tick).2

/-- The charger after one tick. -/
def Charger.tick (charger : Charger) (tick : Tick) : Charger where
  gState := (wantsCharging charger.gState tick).1
  lines := charger.lines.applyAll (charger.effects tick)

/-- The relation of one tick. -/
def Ticks (before : Charger) (tick : Tick) (after : Charger) : Prop :=
  after = before.tick tick

/-- The two actions before a transition and the one after it leave the lines alone. -/
theorem wantsCharging_eq (gState : PsyChargerState) (tick : Tick) :
    ∃ prepare mode, (∀ line on, .gpioSet line on ∉ prepare) ∧
      wantsCharging gState tick =
        (tick.wanted,
          (if gState ≠ tick.wanted then prepare ++ setCharger tick.wanted else []) ++
            [.ledSetMode mode]) := by
  unfold wantsCharging Tick.wanted
  split
  · split
    · split
      · refine ⟨[.usbCommand 0x00080000, .ulpiWrite 0x48 0x04], LED_AMBER, by simp, ?_⟩
        by_cases same : gState = CHG_AC <;> simp [enter, same]
      · refine ⟨[.usbCommand 0x00080001, .microSecondDelay 10], LED_AMBER, by simp, ?_⟩
        by_cases same : gState = CHG_USB_LOW <;> simp [enter, same]
    · refine ⟨[.usbCommand 0x00080001, .microSecondDelay 10], LED_GREEN, by simp, ?_⟩
      by_cases same : gState = CHG_OFF_FULL_BAT <;> simp [enter, same]
  · refine ⟨[.usbCommand 0x00080001, .microSecondDelay 10], LED_OFF, by simp, ?_⟩
    by_cases same : gState = CHG_OFF <;> simp [enter, same]

@[simp]
theorem Charger.tick_gState (charger : Charger) (tick : Tick) :
    (charger.tick tick).gState = tick.wanted := by
  rcases wantsCharging_eq charger.gState tick with ⟨prepare, mode, -, eq⟩
  rw [Charger.tick, eq]

/-! ## Line levels -/

/-- The levels that the entry actions of a state leave. -/
def linesOf : PsyChargerState → Lines
  | CHG_USB_LOW => ⟨false, false⟩
  | CHG_AC | CHG_USB_HIGH => ⟨false, true⟩
  | CHG_OFF_FULL_BAT | CHG_OFF => ⟨true, true⟩

theorem Lines.applyAll_append (lines : Lines) (first second : List Effect) :
    lines.applyAll (first ++ second) = (lines.applyAll first).applyAll second :=
  List.foldl_append

theorem Lines.applyAll_of_quiet {effects : List Effect}
    (quiet : ∀ line on, .gpioSet line on ∉ effects) (lines : Lines) :
    lines.applyAll effects = lines := by
  induction effects with
  | nil => rfl
  | cons effect rest ih =>
      have first : lines.apply effect = lines := by
        cases effect with
        | gpioSet line on => exact absurd List.mem_cons_self (quiet line on)
        | _ => rfl
      rw [Lines.applyAll, List.foldl_cons, first]
      exact ih fun line on member => quiet line on (List.mem_cons_of_mem _ member)

theorem Lines.applyAll_setCharger (lines : Lines) (state : PsyChargerState) :
    lines.applyAll (setCharger state) = linesOf state := by
  cases state <;> rfl

/-- A tick leaves the lines alone, or as the entry actions of the new state do. -/
theorem Charger.tick_lines (charger : Charger) (tick : Tick) :
    (charger.tick tick).lines =
      if charger.gState = tick.wanted then charger.lines else linesOf tick.wanted := by
  rcases wantsCharging_eq charger.gState tick with ⟨prepare, mode, quiet, eq⟩
  rw [Charger.tick, Charger.effects, eq]
  by_cases same : charger.gState = tick.wanted
  · simp [same, Lines.applyAll, Lines.apply]
  · simp only [same, ne_eq, not_false_eq_true, if_true, if_false, Lines.applyAll_append,
      Lines.applyAll_of_quiet quiet, Lines.applyAll_setCharger]
    rfl

/-- Outside the start state the enable line is where the state says. -/
def Believed (charger : Charger) : Prop :=
  charger.gState = CHG_OFF ∨
    charger.lines.chargerEnable = (linesOf charger.gState).chargerEnable

theorem Believed.tick {charger : Charger} (believed : Believed charger) (tick : Tick) :
    Believed (charger.tick tick) := by
  rw [Believed, Charger.tick_gState, Charger.tick_lines]
  split
  · rename_i same
    rw [← same]
    exact believed
  · exact .inr rfl

/-! ## Enabling while the current is high -/

/-- Some effect newly enables the charger while the current line selects high. -/
def EnablesHigh (lines : Lines) (effects : List Effect) : Prop :=
  ∃ earlier later, effects = earlier ++ .gpioSet .chargerEnable false :: later ∧
    (lines.applyAll earlier).chargerEnable = true ∧
    (lines.applyAll earlier).chargerCurrent = true

theorem not_enablesHigh_nil (lines : Lines) : ¬ EnablesHigh lines [] := by
  rintro ⟨earlier, later, split, -⟩
  simp at split

theorem enablesHigh_cons {lines : Lines} {effect : Effect} {rest : List Effect} :
    EnablesHigh lines (effect :: rest) ↔
      (effect = .gpioSet .chargerEnable false ∧ lines.chargerEnable = true ∧
          lines.chargerCurrent = true) ∨
        EnablesHigh (lines.apply effect) rest := by
  constructor
  · rintro ⟨earlier, later, split, high⟩
    cases earlier with
    | nil =>
        cases split
        exact .inl ⟨rfl, high⟩
    | cons first earlier =>
        cases split
        exact .inr ⟨earlier, later, rfl, high⟩
  · rintro (⟨rfl, high⟩ | ⟨earlier, later, rfl, high⟩)
    · exact ⟨[], rest, rfl, high⟩
    · exact ⟨effect :: earlier, later, rfl, high⟩

theorem enablesHigh_append_of_quiet {effects : List Effect}
    (quiet : ∀ line on, .gpioSet line on ∉ effects) (lines : Lines) (rest : List Effect) :
    EnablesHigh lines (effects ++ rest) ↔ EnablesHigh lines rest := by
  induction effects with
  | nil => rfl
  | cons effect others ih =>
      rw [List.cons_append, enablesHigh_cons, ← ih fun line on member =>
        quiet line on (List.mem_cons_of_mem _ member)]
      cases effect with
      | gpioSet line on => exact absurd List.mem_cons_self (quiet line on)
      | _ => simp [Lines.apply]

/-- Only `CHG_USB_LOW` enables the charger before it selects the current. -/
theorem enablesHigh_setCharger (lines : Lines) (state : PsyChargerState) (mode : U32) :
    EnablesHigh lines (setCharger state ++ [.ledSetMode mode]) ↔
      (state = CHG_USB_LOW ∧ lines.chargerEnable = true ∧ lines.chargerCurrent = true) ∨
        ((state = CHG_AC ∨ state = CHG_USB_HIGH) ∧ lines.chargerEnable = true) := by
  cases state <;>
    simp [setCharger, drive, enablesHigh_cons, not_enablesHigh_nil, Lines.apply, Lines.set]

theorem Charger.enablesHigh_iff (charger : Charger) (tick : Tick) :
    EnablesHigh charger.lines (charger.effects tick) ↔
      charger.gState ≠ tick.wanted ∧ charger.lines.chargerEnable = true ∧
        (tick.wanted = CHG_AC ∨
          (tick.wanted = CHG_USB_LOW ∧ charger.lines.chargerCurrent = true)) := by
  rcases wantsCharging_eq charger.gState tick with ⟨prepare, mode, quiet, eq⟩
  have reachable : tick.wanted ≠ CHG_USB_HIGH := by
    unfold Tick.wanted
    split_ifs <;> decide
  rw [Charger.effects, eq]
  by_cases same : charger.gState = tick.wanted
  · simp [same, enablesHigh_cons, not_enablesHigh_nil]
  · simp only [same, ne_eq, not_false_eq_true, if_true, List.append_assoc,
      enablesHigh_append_of_quiet quiet, enablesHigh_setCharger, reachable, or_false, true_and]
    tauto

/-! ## The property and its condition -/

/-- The battery, as far as the two bytes tell, is below the cut-off voltage. -/
def Tick.Low (tick : Tick) : Prop :=
  millivolts tick.msb.byte tick.lsb.byte < 4100

/-- After the step, an enabled charger has evidence in that tick. -/
def EnabledOnEvidence (step : Step Charger Tick) : Prop :=
  step.after.lines.chargerEnable = false →
    step.label.usb = true ∧ step.label.msb.ok = true ∧ step.label.lsb.ok = true ∧
      step.label.Low

/-- Without AC the step never newly enables the charger at high current. -/
def LowWithoutAc (step : Step Charger Tick) : Prop :=
  step.label.ac = false →
    ¬ EnablesHigh step.before.lines (step.before.effects step.label)

/-- What the tick must find: the gauge was read or says that the battery is full;
a start in `CHG_OFF` without USB finds the charger disabled; and without AC the
lines do not already combine a disabled charger with the high current. -/
def FindsSafe (step : Step Charger Tick) : Prop :=
  (step.label.usb = true →
      (step.label.msb.ok = true ∧ step.label.lsb.ok = true) ∨ ¬ step.label.Low) ∧
    (step.label.usb = false ∧ step.before.gState = CHG_OFF →
      step.before.lines.chargerEnable = true) ∧
    (step.label.usb = true ∧ step.label.ac = false ∧ step.label.Low →
      step.before.gState = CHG_USB_LOW ∨ step.before.lines.chargerEnable = false ∨
        step.before.lines.chargerCurrent = false)

theorem Tick.low_iff (tick : Tick) :
    ds2746Voltage tick.msb tick.lsb < voltageThreshold4100 ↔ tick.Low := by
  rw [BitVec.lt_def, ds2746Voltage_toNat]
  rfl

theorem Tick.wanted_of_unplugged {tick : Tick} (unplugged : tick.usb = false) :
    tick.wanted = CHG_OFF := by
  simp [Tick.wanted, unplugged]

theorem Tick.wanted_of_full {tick : Tick} (usb : tick.usb = true) (full : ¬ tick.Low) :
    tick.wanted = CHG_OFF_FULL_BAT := by
  simp [Tick.wanted, usb, mt tick.low_iff.mp full]

theorem Tick.wanted_of_low {tick : Tick} (usb : tick.usb = true) (low : tick.Low) :
    tick.wanted = if tick.ac then CHG_AC else CHG_USB_LOW := by
  simp [Tick.wanted, usb, tick.low_iff.mpr low]

/-- Outside the start state the level after a tick is the one the state asks for. -/
theorem Believed.tick_chargerEnable {charger : Charger} (believed : Believed charger)
    {tick : Tick} (wants : tick.wanted ≠ CHG_OFF) :
    (charger.tick tick).lines.chargerEnable = (linesOf tick.wanted).chargerEnable := by
  rcases believed.tick tick with off | level
  · exact absurd ((Charger.tick_gState charger tick).symm.trans off) wants
  · rw [level, Charger.tick_gState]

/-- A tick leaves the charger enabled if it wants to charge, or if it believes that
an enabled charger is off already. -/
theorem Believed.tick_enabled_iff {charger : Charger} (believed : Believed charger)
    (tick : Tick) :
    (charger.tick tick).lines.chargerEnable = false ↔
      (tick.usb = true ∧ tick.Low) ∨
        (tick.usb = false ∧ charger.gState = CHG_OFF ∧
          charger.lines.chargerEnable = false) := by
  cases usb : tick.usb with
  | false =>
      rw [Charger.tick_lines, Tick.wanted_of_unplugged usb]
      by_cases off : charger.gState = CHG_OFF <;> simp [off, linesOf]
  | true =>
      by_cases low : tick.Low
      · have wanted := Tick.wanted_of_low usb low
        have enabled : (linesOf tick.wanted).chargerEnable = false := by
          rw [wanted]
          split <;> rfl
        have wants : tick.wanted ≠ CHG_OFF := by
          rw [wanted]
          split <;> decide
        simp [believed.tick_chargerEnable wants, enabled, low]
      · have wanted := Tick.wanted_of_full usb low
        have wants : tick.wanted ≠ CHG_OFF := by
          rw [wanted]
          decide
        simp [believed.tick_chargerEnable wants, wanted, linesOf, low]

theorem Charger.lowWithoutAc_iff (charger : Charger) (tick : Tick) :
    LowWithoutAc ⟨charger, tick, charger.tick tick⟩ ↔
      (tick.usb = true ∧ tick.ac = false ∧ tick.Low →
        charger.gState = CHG_USB_LOW ∨ charger.lines.chargerEnable = false ∨
          charger.lines.chargerCurrent = false) := by
  simp only [LowWithoutAc, Charger.enablesHigh_iff]
  cases usb : tick.usb with
  | false => simp [Tick.wanted_of_unplugged usb]
  | true =>
      by_cases low : tick.Low
      · rw [Tick.wanted_of_low usb low]
        cases ac : tick.ac with
        | true => simp
        | false =>
            simp only [low, forall_const, and_self, Bool.false_eq_true, if_false, reduceCtorEq,
              false_or, true_and, not_and_or, not_not, ne_eq, Bool.not_eq_true]
      · simp [Tick.wanted_of_full usb low, low]

/-- One tick is safe exactly when it finds what it needs. -/
theorem Believed.safe_iff {charger : Charger} (believed : Believed charger) (tick : Tick) :
    EnabledOnEvidence ⟨charger, tick, charger.tick tick⟩ ∧
        LowWithoutAc ⟨charger, tick, charger.tick tick⟩ ↔
      FindsSafe ⟨charger, tick, charger.tick tick⟩ := by
  have evidence : EnabledOnEvidence ⟨charger, tick, charger.tick tick⟩ ↔
      (tick.usb = true → (tick.msb.ok = true ∧ tick.lsb.ok = true) ∨ ¬ tick.Low) ∧
        (tick.usb = false ∧ charger.gState = CHG_OFF →
          charger.lines.chargerEnable = true) := by
    simp only [EnabledOnEvidence, believed.tick_enabled_iff]
    cases usb : tick.usb with
    | false => simp
    | true => by_cases low : tick.Low <;> simp [low]
  rw [evidence, Charger.lowWithoutAc_iff, and_assoc, FindsSafe]

/-- Along any run of ticks from start-up, the charger is enabled only on evidence,
and never at high current without AC, exactly when every tick finds what it needs. -/
theorem charging_onEvidence_iff {start : Charger} {steps : List (Step Charger Tick)}
    (off : start.gState = CHG_OFF) (run : Run Ticks start steps) :
    (∀ step ∈ steps, EnabledOnEvidence step ∧ LowWithoutAc step) ↔
      ∀ step ∈ steps, FindsSafe step := by
  refine run.forall_iff (I := Believed) (.inl off) ?_ ?_
  · rintro before tick _ believed rfl
    exact believed.safe_iff tick
  · rintro before tick _ believed rfl -
    exact believed.tick tick

/-! ## Start-up -/

/-- A tick with USB and without AC, in which both reads of the gauge have the given
outcome. -/
def usbTick (msb lsb : RegisterRead) : Tick := ⟨true, msb, lsb, false⟩

/-- One tick from start-up. -/
def oneTick (lines : Lines) (tick : Tick) : List (Step Charger Tick) :=
  [⟨⟨CHG_OFF, lines⟩, tick, Charger.tick ⟨CHG_OFF, lines⟩ tick⟩]

theorem oneTick_run (lines : Lines) (tick : Tick) :
    Run Ticks ⟨CHG_OFF, lines⟩ (oneTick lines tick) :=
  .cons rfl (.nil _)

/-- The gauge reads about 3.9 V and the current line starts low. -/
theorem charging_onEvidence_usb :
    Run Ticks ⟨CHG_OFF, ⟨true, false⟩⟩
        (oneTick ⟨true, false⟩ (usbTick ⟨true, 0x64⟩ ⟨true, 0⟩)) ∧
      ∀ step ∈ oneTick ⟨true, false⟩ (usbTick ⟨true, 0x64⟩ ⟨true, 0⟩),
        EnabledOnEvidence step ∧ LowWithoutAc step := by
  have run := oneTick_run ⟨true, false⟩ (usbTick ⟨true, 0x64⟩ ⟨true, 0⟩)
  refine ⟨run, (charging_onEvidence_iff rfl run).mpr ?_⟩
  simp [oneTick, usbTick, FindsSafe, Tick.Low, millivolts]

/-- Both reads fail and leave zero bytes; the charger starts disabled at high
current.  The tick enables it, and does so before it selects the low current. -/
theorem charging_on_failed_reads :
    Run Ticks ⟨CHG_OFF, ⟨true, true⟩⟩ (oneTick ⟨true, true⟩ (usbTick ⟨false, 0⟩ ⟨false, 0⟩)) ∧
      ∃ step ∈ oneTick ⟨true, true⟩ (usbTick ⟨false, 0⟩ ⟨false, 0⟩),
        ¬ EnabledOnEvidence step ∧ ¬ LowWithoutAc step := by
  refine ⟨oneTick_run _ _, _, .head _, fun evidence => ?_, fun low => ?_⟩
  · exact absurd (evidence (by decide)).2.1 (by decide)
  · exact low rfl ⟨[.usbCommand 0x00080001, .microSecondDelay 10], _, rfl, rfl, rfl⟩

end HtcLeo.Charging
