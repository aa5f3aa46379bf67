import Mathlib.Data.List.Basic
import HtcLeo.Interrupt.Core

/-!
# Whose line an enable bit is

The driver accepts sources of the secondary controller, and others that are no
interrupts at all, but programs the bit of a line for each of them.  A line therefore
obeys the last accepted request of all sources that share it, not the last one for
itself.
-/

namespace HtcLeo.Interrupt

/-! ## Requests -/

/-- A request to the interrupt protocol. -/
inductive Request where
  | register (source handler : U32)
  | enable (source : U32)
  | disable (source : U32)
  deriving DecidableEq, Repr

/-- The source that a request is about. -/
def Request.source : Request → U32
  | .register source _ | .enable source | .disable source => source

/-- Registering a handler, or none, enables the source. -/
def Request.enables : Request → Bool
  | .register _ _ | .enable _ => true
  | .disable _ => false

/-- The status of a request, and the controller afterwards. -/
def Vic.call (vic : Vic) : Request → EfiStatus × Vic
  | .register source handler => registerInterruptSource vic source handler
  | .enable source => enableInterruptSource vic source
  | .disable source => disableInterruptSource vic source

/-- A request is refused and changes nothing, or it makes the bit of its line what it
asks for. -/
theorem Vic.call_cases (vic : Vic) (request : Request) :
    (∃ status, status ≠ .success ∧ vic.call request = (status, vic)) ∨
      ∃ handlers, vic.call request =
        (.success, ⟨vic.en.assign (lineOf request.source) request.enables, handlers⟩) := by
  cases request with
  | register source handler =>
      rw [call, registerInterruptSource, enableInterruptSource, mmioWrite32_enset]
      split
      · exact .inl ⟨_, EfiStatus.noConfusion, rfl⟩
      · split
        · exact .inl ⟨_, EfiStatus.noConfusion, rfl⟩
        · split
          · exact .inl ⟨_, EfiStatus.noConfusion, rfl⟩
          · exact .inr ⟨_, rfl⟩
  | enable source =>
      rw [call, enableInterruptSource, mmioWrite32_enset]
      split
      · exact .inl ⟨_, EfiStatus.noConfusion, rfl⟩
      · exact .inr ⟨_, rfl⟩
  | disable source =>
      rw [call, disableInterruptSource, mmioWrite32_enclear]
      split
      · exact .inl ⟨_, EfiStatus.noConfusion, rfl⟩
      · exact .inr ⟨_, rfl⟩

/-! ## Sequences of requests -/

/-- The controller, and the accepted requests with the last one first. -/
structure Driver where
  vic : Vic
  accepted : List Request

/-- A request is recorded where it is accepted. -/
def Driver.perform (driver : Driver) (request : Request) : Driver where
  vic := (driver.vic.call request).2
  accepted :=
    if (driver.vic.call request).1 = .success then request :: driver.accepted
    else driver.accepted

/-- The driver after its initialization and then a sequence of requests. -/
def Driver.after (vic : Vic) (requests : List Request) : Driver :=
  requests.foldl Driver.perform ⟨initInterrupts vic, []⟩

/-- The last accepted request that names the source `v`. -/
def Driver.naming (driver : Driver) (v : Nat) : Option Request :=
  driver.accepted.find? fun request => request.source.toNat == v

/-- The last accepted request whose source shares the line `v`. -/
def Driver.sharing (driver : Driver) (v : Nat) : Option Request :=
  driver.accepted.find? fun request => lineOf request.source == v

/-- The last accepted request that switched the line `v` on. -/
def Driver.cause (driver : Driver) (v : Nat) : Option Request :=
  driver.accepted.find? fun request => request.enables && lineOf request.source == v

/-- The bit of a line is what the last request that shares it asked for. -/
def Driver.Obeys (initial : Vic) (driver : Driver) : Prop :=
  ∀ v, driver.vic.enabled v = ((driver.sharing v).map Request.enables).getD (initial.enabled v)

theorem Driver.Obeys.perform {initial : Vic} {driver : Driver} (obeys : driver.Obeys initial)
    (request : Request) : (driver.perform request).Obeys initial := by
  intro v
  rcases driver.vic.call_cases request with ⟨status, refused, call_eq⟩ | ⟨handlers, call_eq⟩
  · simp only [Driver.perform, sharing, call_eq, refused, if_false]
    exact obeys v
  · simp only [Driver.perform, sharing, call_eq, if_true, List.find?_cons, Vic.enabled]
    by_cases same : lineOf request.source = v
    · simp only [same, beq_self_eq_true, Option.map_some, Option.getD_some]
      exact Bitmap.test_assign_self _ _ _
    · simp only [beq_false_of_ne same]
      rw [Bitmap.test_assign_of_ne (Ne.symm same)]
      exact obeys v

theorem Driver.obeys_after (vic : Vic) (requests : List Request) :
    (Driver.after vic requests).Obeys (initInterrupts vic) := by
  suffices run : ∀ driver : Driver, driver.Obeys (initInterrupts vic) →
      (requests.foldl Driver.perform driver).Obeys (initInterrupts vic) from run _ fun _ => rfl
  induction requests with
  | nil => exact fun _ obeys => obeys
  | cons request rest ih => exact fun driver obeys => ih _ (obeys.perform request)

/-- `InitInterrupts` switches on the first line of each word. -/
theorem initInterrupts_enabled (vic : Vic) {v : Nat} (below : v < 64) :
    (initInterrupts vic).enabled v = decide (v % 32 = 0) := by
  have word : (initInterrupts vic).en (v / 32) = 1#32 := by
    have words : v / 32 = 0 ∨ v / 32 = 1 := by omega
    rcases words with zero | one
    · rw [zero]
      rfl
    · rw [one]
      rfl
  rw [Vic.enabled, Bitmap.test_eq_getLsbD, word, BitVec.getLsbD_one]
  simp

/-! ## The property and its condition -/

/-- The last accepted request that names `v` enables it. -/
def Driver.NamesOn (driver : Driver) (v : Nat) : Prop :=
  ∃ request, driver.naming v = some request ∧ request.enables = true

/-- The line `v` is on exactly when source `v` was last enabled; and when it is on, the
handler called for it is that of the source whose enabling caused this. -/
def Driver.OwnLine (driver : Driver) (v : Nat) : Prop :=
  (driver.vic.enabled v = true ↔ driver.NamesOn v) ∧
    (driver.vic.enabled v = true → ∀ request, driver.cause v = some request →
      (irqInterruptHandler driver.vic (BitVec.ofNat 32 v)).2 =
        (irqInterruptHandler driver.vic request.source).2)

/-- The last accepted request that shares the line asks for the same as the last one that
names it, and if it enables, its source has the handler of the line. -/
def Driver.Unshared (driver : Driver) (v : Nat) : Prop :=
  ∀ request, driver.sharing v = some request →
    (request.enables = true ↔ driver.NamesOn v) ∧
      (request.enables = true →
        driver.vic.handlers (BitVec.ofNat 32 v) = driver.vic.handlers request.source)

/-- The first entry of its kind is also the first of a narrower kind that it is of. -/
theorem find?_and {α : Type} {p q : α → Bool} {entries : List α} {entry : α}
    (found : entries.find? p = some entry) (narrower : q entry = true) :
    entries.find? (fun other => q other && p other) = some entry := by
  induction entries with
  | nil => exact absurd found.symm (Option.some_ne_none _)
  | cons first rest ih =>
      rw [List.find?_cons] at found ⊢
      cases same : p first with
      | true =>
          rw [same] at found
          cases found
          rw [narrower]
          rfl
      | false =>
          rw [same] at found
          rw [Bool.and_false]
          exact ih found

/-- Whoever names a line shares it. -/
theorem Driver.naming_eq (driver : Driver) {v : Nat} (below : v < 64) :
    driver.naming v = driver.accepted.find? fun request =>
      request.source.toNat == v && lineOf request.source == v := by
  apply congrArg (driver.accepted.find? ·)
  funext request
  by_cases named : request.source.toNat = v
  · rw [lineOf_of_lt (by omega), Bool.and_self]
  · rw [beq_false_of_ne named, Bool.false_and]

theorem Driver.naming_eq_none {driver : Driver} {v : Nat} (below : v < 64)
    (unshared : driver.sharing v = none) : driver.naming v = none := by
  rw [sharing, List.find?_eq_none] at unshared
  rw [naming_eq driver below, List.find?_eq_none]
  intro request member named
  rw [Bool.and_eq_true] at named
  exact unshared request member named.2

/-- If the last request that shares a line enables it, it is the cause. -/
theorem Driver.cause_eq {driver : Driver} {v : Nat} {request : Request}
    (shared : driver.sharing v = some request) (enables : request.enables = true) :
    driver.cause v = some request :=
  find?_and shared enables

theorem handlerOf_eq_iff {vic : Vic} {one two : U32} :
    (irqInterruptHandler vic one).2 = (irqInterruptHandler vic two).2 ↔
      vic.handlers one = vic.handlers two := by
  simp only [irqInterruptHandler]
  constructor
  · intro same
    split at same <;> split at same <;> simp_all
  · intro same
    rw [same]

/-- The two sides speak of the same line as long as its bit obeys the requests. -/
theorem Driver.ownLine_iff {driver : Driver} {initial : Vic} (obeys : driver.Obeys initial)
    {v : Nat} (below : v < 64) (off : initial.enabled v = false) :
    driver.OwnLine v ↔ driver.Unshared v := by
  have bit := obeys v
  cases shared : driver.sharing v with
  | none =>
      have unnamed := Driver.naming_eq_none below shared
      rw [shared, off] at bit
      simp [OwnLine, Unshared, NamesOn, bit, shared, unnamed]
  | some request =>
      rw [shared, Option.map_some, Option.getD_some] at bit
      cases enables : request.enables with
      | false =>
          rw [enables] at bit
          simp [OwnLine, Unshared, bit, shared, enables]
      | true =>
          rw [enables] at bit
          simp [OwnLine, Unshared, bit, shared, enables, Driver.cause_eq shared enables,
            handlerOf_eq_iff]

/-- After any sequence of requests, each line except the two that `InitInterrupts`
switches on is a line of its own source exactly when the last accepted request that
shares it speaks for it. -/
theorem own_lines_iff (vic : Vic) (requests : List Request) :
    (∀ v < 64, v ≠ 0 → v ≠ 32 → (Driver.after vic requests).OwnLine v) ↔
      ∀ v < 64, v ≠ 0 → v ≠ 32 → (Driver.after vic requests).Unshared v := by
  apply forall_congr'
  intro v
  apply imp_congr_right
  intro below
  apply imp_congr_right
  intro first
  apply imp_congr_right
  intro second
  apply Driver.ownLine_iff (Driver.obeys_after vic requests) below
  rw [initInterrupts_enabled vic below]
  exact decide_eq_false (by omega)

/-- Requests for sources below 64 leave every line to its own source. -/
theorem Driver.unshared_of_lt {driver : Driver} {v : Nat} (below : v < 64)
    (primary : ∀ request ∈ driver.accepted, request.source.toNat < 64) :
    driver.Unshared v := by
  intro request shared
  have line := List.find?_some shared
  rw [lineOf_of_lt (primary request (List.mem_of_find?_eq_some shared))] at line
  have named : driver.naming v = some request := by
    rw [Driver.naming_eq driver below]
    exact find?_and shared line
  constructor
  · rw [Driver.NamesOn, named]
    simp
  · rintro -
    rw [← beq_iff_eq.mp line, BitVec.ofNat_toNat, BitVec.setWidth_eq]

/-! ## The GPIO driver -/

/-- The controller before its initialization, without handlers. -/
def unusedVic : Vic := ⟨fun _ => 0, fun _ => 0⟩

/-- `GpioDxeInitialize` registers `MsmGpioIsr`, at the address `isr`, for two sources of the
secondary controller. -/
def gpioRequests (isr : U32) : List Request :=
  [.register INT_GPIO_GROUP1 isr, .register INT_GPIO_GROUP2 isr]

/-- The line 41 is on although no request named the source 41. -/
theorem gpio_enables_other_line :
    ¬ ∀ v < 64, v ≠ 0 → v ≠ 32 → (Driver.after unusedVic (gpioRequests 0x1000)).OwnLine v := by
  intro own
  have on : (Driver.after unusedVic (gpioRequests 0x1000)).vic.enabled 41 = true := by
    decide +kernel
  have unnamed : (Driver.after unusedVic (gpioRequests 0x1000)).naming 41 = none := by
    decide +kernel
  rcases (own 41 (by decide) (by decide) (by decide)).1.mp on with ⟨request, named, -⟩
  exact absurd (unnamed.symm.trans named).symm (Option.some_ne_none request)

end HtcLeo.Interrupt
