import HtcLeo.Interrupt.Lines
import HtcLeo.Transition.Run

/-!
# Lines without a handler

`RegisterInterruptSource` takes a handler away when it is given a null pointer, and like
every other registration it ends with enabling the source.  Nothing else leaves a line on
that has no handler.
-/

namespace HtcLeo.Interrupt

open Transition

/-! ## Runs of accepted requests -/

/-- A request for a line is accepted; it enables a source explicitly only if the source
has a handler. -/
def Accepts (before : Vic) (request : Request) (after : Vic) : Prop :=
  request.source.toNat < 64 ∧ before.call request = (.success, after) ∧
    ∀ source, request = .enable source → before.handlers source ≠ 0

/-- Every line that is on, but for those that `InitInterrupts` switches on, has a handler. -/
def Vic.Handled (vic : Vic) : Prop :=
  ∀ v < 64, v ≠ 0 → v ≠ 32 → vic.enabled v = true → vic.handlers (BitVec.ofNat 32 v) ≠ 0

/-- The lines that are on have handlers, and a source whose handler was taken away is off. -/
def SilencesUnhandled (step : Step Vic Request) : Prop :=
  step.after.Handled ∧ ∀ source, step.label = .register source 0 →
    step.after.enabled source.toNat = false

/-- No handler is taken away. -/
def KeepsHandler (step : Step Vic Request) : Prop :=
  ∀ source, step.label ≠ .register source 0

/-- The handlers after an accepted request. -/
def Request.handlers (handlers : U32 → U32) : Request → U32 → U32
  | .register source handler => Function.update handlers source handler
  | _ => handlers

section Step

variable {before after : Vic} {request : Request}

/-- What an accepted request does. -/
theorem Accepts.after_eq (accepts : Accepts before request after) :
    after = ⟨before.en.assign request.source.toNat request.enables,
      request.handlers before.handlers⟩ := by
  rcases accepts with ⟨line, accepted, -⟩
  have handlers : (before.call request).1 = .success →
      (before.call request).2.handlers = request.handlers before.handlers := by
    cases request with
    | register source handler =>
        rw [Vic.call, registerInterruptSource, enableInterruptSource, mmioWrite32_enset]
        repeat' split
        all_goals simp [Request.handlers]
    | enable source =>
        rw [Vic.call, enableInterruptSource, mmioWrite32_enset]
        split <;> simp [Request.handlers]
    | disable source =>
        rw [Vic.call, disableInterruptSource, mmioWrite32_enclear]
        split <;> simp [Request.handlers]
  rcases before.call_cases request with ⟨status, refused, call_eq⟩ | ⟨others, call_eq⟩
  · rw [accepted] at call_eq
    cases call_eq
    exact absurd rfl refused
  · rw [accepted] at call_eq handlers
    cases call_eq
    rw [← handlers rfl, lineOf_of_lt line]

/-- The other lines are as they were. -/
theorem Accepts.other (accepts : Accepts before request after) {v : Nat} (below : v < 64)
    (apart : v ≠ request.source.toNat) :
    after.enabled v = before.enabled v ∧
      after.handlers (BitVec.ofNat 32 v) = before.handlers (BitVec.ofNat 32 v) := by
  rw [accepts.after_eq]
  constructor
  · exact Bitmap.test_assign_of_ne apart _ _
  · cases request with
    | register source handler =>
        apply Function.update_of_ne
        rintro rfl
        apply apart
        exact (Nat.mod_eq_of_lt (Nat.lt_trans below (by decide))).symm
    | enable => rfl
    | disable => rfl

theorem Accepts.own (accepts : Accepts before request after) :
    after.enabled request.source.toNat = request.enables := by
  rw [accepts.after_eq]
  exact Bitmap.test_assign_self _ _ _

/-- As long as no handler is taken away, the line of the request has one if it is on. -/
theorem Accepts.handled (accepts : Accepts before request after) (handled : before.Handled)
    (keeps : KeepsHandler ⟨before, request, after⟩) : after.Handled := by
  intro v below first second on
  by_cases own : v = request.source.toNat
  · subst own
    rw [accepts.own] at on
    rw [BitVec.ofNat_toNat, BitVec.setWidth_eq, accepts.after_eq]
    cases request with
    | register source handler =>
        intro null
        simp only [Request.handlers, Request.source, Function.update_self] at null
        exact keeps source (by rw [null])
    | enable source => exact accepts.2.2 source rfl
    | disable source => exact absurd on Bool.false_ne_true
  · obtain ⟨enabled, handlers⟩ := accepts.other below own
    rw [handlers]
    exact handled v below first second (enabled.symm.trans on)

theorem Accepts.silences_iff (accepts : Accepts before request after)
    (handled : before.Handled) :
    SilencesUnhandled ⟨before, request, after⟩ ↔ KeepsHandler ⟨before, request, after⟩ := by
  constructor
  · rintro ⟨-, silenced⟩ source rfl
    have on := accepts.own
    rw [Request.enables, Request.source, silenced source rfl] at on
    exact Bool.false_ne_true on
  · intro keeps
    exact ⟨accepts.handled handled keeps, fun source taken => absurd taken (keeps source)⟩

end Step

/-- Right after its initialization the controller has no other lines on. -/
theorem initInterrupts_handled (vic : Vic) : (initInterrupts vic).Handled := by
  intro v below first second on
  rw [initInterrupts_enabled vic below, decide_eq_true_iff] at on
  omega

/-- In a run of accepted requests for lines, all lines that are on have handlers, exactly as
long as no handler is taken away. -/
theorem lines_handled_iff {vic : Vic} {steps : List (Step Vic Request)}
    (run : Run Accepts (initInterrupts vic) steps) :
    (∀ step ∈ steps, SilencesUnhandled step) ↔ ∀ step ∈ steps, KeepsHandler step := by
  apply run.forall_iff (I := Vic.Handled) (initInterrupts_handled vic)
  · exact fun before request after handled accepts => accepts.silences_iff handled
  · exact fun before request after _ _ silences => silences.1

/-! ## A line with a handler and one without -/

/-- The controller after a request. -/
def Vic.perform (vic : Vic) (request : Request) : Vic := (vic.call request).2

/-- A source is registered, disabled and enabled again. -/
def switchedOffAndOn : List (Step Vic Request) :=
  trace Vic.perform (initInterrupts unusedVic) [.register 5 0x1000, .disable 5, .enable 5]

/-- A source is registered and unregistered. -/
def registeredAndUnregistered : List (Step Vic Request) :=
  trace Vic.perform (initInterrupts unusedVic) [.register 5 0x1000, .register 5 0]

theorem accepts_perform {vic : Vic} {request : Request} (line : request.source.toNat < 64)
    (accepted : (vic.call request).1 = .success)
    (handled : ∀ source, request = .enable source → vic.handlers source ≠ 0) :
    Accepts vic request (vic.perform request) :=
  ⟨line, Prod.ext accepted rfl, handled⟩

theorem lines_handled_switchedOffAndOn :
    Run Accepts (initInterrupts unusedVic) switchedOffAndOn ∧
      ∀ step ∈ switchedOffAndOn, SilencesUnhandled step := by
  have run : Run Accepts (initInterrupts unusedVic) switchedOffAndOn := by
    apply run_trace
    simp only [trace, List.forall_mem_cons]
    refine ⟨accepts_perform (by decide) (by decide +kernel) ?_,
      accepts_perform (by decide) (by decide +kernel) ?_,
      accepts_perform (by decide) (by decide +kernel) ?_, by simp⟩
    · rintro source ⟨⟩
    · rintro source ⟨⟩
    · rintro source ⟨rfl⟩
      decide +kernel
  refine ⟨run, (lines_handled_iff run).mpr ?_⟩
  simp [switchedOffAndOn, trace, KeepsHandler]

/-- The line stays on without its handler. -/
theorem unregistered_line_on :
    Run Accepts (initInterrupts unusedVic) registeredAndUnregistered ∧
      ∃ step ∈ registeredAndUnregistered, ¬ SilencesUnhandled step := by
  constructor
  · apply run_trace
    simp only [trace, List.forall_mem_cons]
    refine ⟨accepts_perform (by decide) (by decide +kernel) ?_,
      accepts_perform (by decide) (by decide +kernel) ?_, by simp⟩
    · rintro source ⟨⟩
    · rintro source ⟨⟩
  · refine ⟨_, .tail _ (.head _), fun silences => ?_⟩
    have off := silences.2 5 rfl
    revert off
    decide +kernel

end HtcLeo.Interrupt
