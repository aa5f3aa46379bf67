import HtcLeo.Keypad.Driver

/-!
# What the driver holds at every stage

While the driver starts or stops, its private structure tells what it has created and not
released yet.  So the exit of a start and the end of a stop release all of it, each thing
once.
-/

namespace HtcLeo.Keypad

/-! ## The private structure -/

/-- The private structure at `consoleIn` is the only one, its pointers are those of what
was created, but for those released already, and the entries of its list are in memory. -/
structure Driver.Holds (driver : Driver) (consoleIn : U32) (data : PrivateData)
    (released : List Pointer) (notifyList : List Notify) : Prop where
  structures : driver.structures = Function.update (fun _ => none) consoleIn (some data)
  created : ∀ pointer,
    driver.created pointer = if pointer ∈ released then false else data.pointers pointer
  polled : driver.polled = true → driver.created .timerEvent = true
  nonzero : consoleIn ≠ 0
  listHead : driver.heap.listHead = consoleIn + NOTIFY_LIST
  listHead_ne : consoleIn + NOTIFY_LIST ≠ 0
  represents : driver.heap.Represents notifyList

/-- Started, and not stopped. -/
def Driver.Running (driver : Driver) : Prop :=
  ∃ consoleIn data notifyList, driver.Holds consoleIn data [] notifyList ∧
    driver.protocols = ⟨true, some consoleIn⟩ ∧ driver.polled = true ∧ data.keypadErr = false

namespace Driver

theorem Released.same {before after : Driver} (one : before.Released) (two : after.Released) :
    before.Same after where
  protocols := two.protocols.trans one.protocols.symm
  structures := funext fun address => (two.structures address).trans (one.structures address).symm
  created := funext fun pointer => (two.created pointer).trans (one.created pointer).symm
  polled := two.polled.trans one.polled.symm
  links := funext fun address => (two.links address).trans (one.links address).symm
  nodes := funext fun address => (two.nodes address).trans (one.nodes address).symm

theorem Same.refl (driver : Driver) : driver.Same driver := ⟨rfl, rfl, rfl, rfl, rfl, rfl⟩

section Holds

variable {driver : Driver} {consoleIn : U32} {data : PrivateData} {released : List Pointer}
  {notifyList : List Notify} {pointer : Pointer}

theorem Holds.stored (holds : driver.Holds consoleIn data released notifyList) :
    driver.structures consoleIn = some data := by
  rw [holds.structures, Function.update_self]

theorem Holds.ofProtocols (holds : driver.Holds consoleIn data released notifyList)
    (protocols : Protocols) :
    ({ driver with protocols := protocols } : Driver).Holds consoleIn data released
      notifyList where
  __ := holds

/-- A pointer is written. -/
theorem Holds.point (holds : driver.Holds consoleIn data released notifyList)
    (pointer : Pointer) (on : Bool) :
    driver.point consoleIn pointer on =
      some { driver with
        structures :=
          Function.update (fun _ => none) consoleIn (some (data.point pointer on)) } := by
  rw [Driver.point, holds.stored, Option.map_some, holds.structures, Function.update_idem]

/-- Without what was not created the driver is the same. -/
theorem Holds.without_eq (holds : driver.Holds consoleIn data released notifyList)
    (absent : driver.created pointer = false) : driver.without pointer = driver := by
  have created : Function.update driver.created pointer false = driver.created := by
    rw [← absent, Function.update_eq_self]
  have polled : (driver.polled && pointer != .timerEvent) = driver.polled := by
    by_cases timer : pointer = .timerEvent
    · subst timer
      have idle : driver.polled = false := by
        by_contra running
        rw [holds.polled (by simpa using running)] at absent
        exact Bool.noConfusion absent
      rw [idle, Bool.false_and]
    · rw [bne_iff_ne.mpr timer, Bool.and_true]
  rw [without, created, polled]

theorem without_polled (driver : Driver) (pointer : Pointer)
    (polled : driver.polled = true → driver.created .timerEvent = true) :
    (driver.without pointer).polled = true →
      (driver.without pointer).created .timerEvent = true := by
  intro runs
  rw [without, Bool.and_eq_true, bne_iff_ne] at runs
  simp only [without, Function.update_of_ne runs.2.symm]
  exact polled runs.1

theorem Holds.release_eq (holds : driver.Holds consoleIn data released notifyList)
    (later : pointer ∉ released) :
    (if data.pointers pointer then driver.release pointer else some driver) =
      some (driver.without pointer) := by
  have created := holds.created pointer
  rw [if_neg later] at created
  rw [← created, release]
  cases present : driver.created pointer with
  | true => rfl
  | false => rw [if_neg Bool.false_ne_true, holds.without_eq present]

/-- What was not released yet is released once. -/
theorem Holds.releaseUnlessNull (holds : driver.Holds consoleIn data released notifyList)
    (pointer : Pointer) (later : pointer ∉ released) :
    ∃ after, driver.releaseUnlessNull consoleIn pointer = some after ∧
      after.Holds consoleIn data (pointer :: released) notifyList ∧
      after.protocols = driver.protocols := by
  refine ⟨driver.without pointer, ?_, { holds with created := ?_, polled := ?_ }, rfl⟩
  · rw [Driver.releaseUnlessNull, holds.stored, Option.bind_some, holds.release_eq later]
  · intro other
    simp only [without, Function.update_apply, List.mem_cons, holds.created other]
    by_cases same : other = pointer <;> simp [same]
  · exact driver.without_polled pointer holds.polled

/-- An event is closed once, and its pointer is null afterwards. -/
theorem Holds.closeEvent (holds : driver.Holds consoleIn data released notifyList)
    (pointer : Pointer) (later : pointer ∉ released) :
    ∃ after, driver.closeEvent consoleIn pointer = some after ∧
      after.Holds consoleIn (data.point pointer false) released notifyList ∧
      after.protocols = driver.protocols ∧
      after.polled = (driver.polled && pointer != .timerEvent) := by
  have created := holds.created pointer
  rw [if_neg later] at created
  refine ⟨{ driver.without pointer with
    structures := Function.update (fun _ => none) consoleIn (some (data.point pointer false)) },
    ?_, { holds with structures := rfl, created := ?_, polled := ?_ }, rfl, rfl⟩
  · rw [Driver.closeEvent, holds.stored, Option.bind_some, ← created, release]
    cases present : driver.created pointer with
    | true =>
        have stored : (driver.without pointer).structures consoleIn = some data := holds.stored
        have structures : (driver.without pointer).structures = driver.structures := rfl
        rw [if_pos rfl, if_pos rfl, Option.bind_some, Driver.point, stored, Option.map_some,
          structures, holds.structures, Function.update_idem]
    | false =>
        have same : data.point pointer false = data := by
          rw [PrivateData.point, ← present, created, Function.update_eq_self]
        rw [if_neg Bool.false_ne_true, holds.without_eq present, same, ← holds.structures]
  · intro other
    simp only [without, PrivateData.point, Function.update_apply, holds.created other]
    by_cases same : other = pointer <;> simp [same]
  · exact driver.without_polled pointer holds.polled

/-- The entries of the list are freed. -/
theorem Holds.kbdFreeNotifyList (holds : driver.Holds consoleIn data released notifyList) :
    ∃ after, driver.kbdFreeNotifyList (consoleIn + NOTIFY_LIST) = some after ∧
      after.Holds consoleIn data released [] ∧ after.protocols = driver.protocols := by
  have listHead := holds.listHead
  rcases holds.represents.kbdFreeNotifyList (by rw [listHead]; exact holds.listHead_ne) with
    ⟨heap, freed, empty, same⟩
  refine ⟨{ driver with heap := heap }, ?_,
    { holds with listHead := same.trans listHead, represents := empty }, rfl⟩
  rw [Driver.kbdFreeNotifyList, ← listHead, freed]
  rfl

/-- With the private structure the last of what the driver held is gone. -/
theorem Holds.freePool (holds : driver.Holds consoleIn data released [])
    (all : ∀ pointer, pointer ∉ released → data.pointers pointer = false) :
    driver.freePool consoleIn = some (driver.freed consoleIn) ∧
      ({ driver.freed consoleIn with protocols := ⟨false, none⟩ } : Driver).Released := by
  have uncreated : ∀ pointer, driver.created pointer = false := by
    intro pointer
    rw [holds.created]
    split
    · rfl
    · rename_i later
      exact all pointer later
  obtain ⟨nodeless, others⟩ := holds.represents.of_nil
  constructor
  · rw [Driver.freePool, holds.stored, Option.map_some]
  · refine ⟨rfl, ?_, uncreated, ?_, ?_, nodeless⟩
    · intro address
      simp [freed, holds.structures]
    · by_contra running
      have created := holds.polled (by simpa [freed] using running)
      rw [uncreated] at created
      exact Bool.noConfusion created
    · intro address
      simp only [freed, Function.update_apply]
      split
      · rfl
      · rename_i apart
        exact others address (by rwa [holds.listHead])

theorem Holds.exitRelease (holds : driver.Holds consoleIn data released notifyList)
    (pointer : Pointer) (later : pointer ∉ released) :
    ∃ after, driver.exitRelease consoleIn pointer = some after ∧
      after.Holds consoleIn data (pointer :: released) notifyList ∧
      after.protocols = driver.protocols := by
  rw [Driver.exitRelease, if_neg holds.nonzero]
  exact holds.releaseUnlessNull pointer later

/-- The exit releases all that was acquired, at whatever stage. -/
theorem Holds.errorExit (holds : driver.Holds consoleIn data [] notifyList)
    (protocols : driver.protocols = ⟨true, none⟩) (status : U32) :
    ∃ after, driver.errorExit consoleIn status = some (status, after) ∧ after.Released := by
  obtain ⟨one, oneEq, oneHolds, oneSame⟩ := holds.exitRelease .waitForKey (by simp)
  obtain ⟨two, twoEq, twoHolds, twoSame⟩ := oneHolds.exitRelease .timerEvent (by simp)
  obtain ⟨three, threeEq, threeHolds, threeSame⟩ := twoHolds.exitRelease .waitForKeyEx (by simp)
  obtain ⟨four, fourEq, fourHolds, fourSame⟩ :=
    threeHolds.exitRelease .keyNotifyProcessEvent (by simp)
  obtain ⟨five, fiveEq, fiveHolds, fiveSame⟩ := fourHolds.kbdFreeNotifyList
  obtain ⟨six, sixEq, sixHolds, sixSame⟩ := fiveHolds.exitRelease .controllerNameTable (by simp)
  rcases sixHolds.freePool (by rintro (_ | _) <;> simp) with ⟨freed, released⟩
  have opened : (six.freed consoleIn).protocols = ⟨true, none⟩ := by
    rw [← protocols, ← oneSame, ← twoSame, ← threeSame, ← fourSame, ← fiveSame, ← sixSame]
    rfl
  refine ⟨_, ?_, released⟩
  simp only [Driver.errorExit, Option.bind_eq_bind, oneEq, twoEq, threeEq, fourEq, fiveEq, sixEq,
    freed, Option.bind_some, if_neg holds.nonzero, closeProtocol, opened, if_true]
  rfl

/-- Stopping releases all that is left when the interfaces are uninstalled. -/
theorem Holds.stopTail (holds : driver.Holds consoleIn data [] notifyList)
    (closed : data.pointers .timerEvent = false) (protocols : driver.protocols = ⟨true, none⟩) :
    ∃ after, driver.stopTail consoleIn = some (EFI_SUCCESS, after) ∧ after.Released := by
  have zero := holds.ofProtocols ⟨false, none⟩
  obtain ⟨one, oneEq, oneHolds, oneSame, -⟩ := zero.closeEvent .waitForKey (by simp)
  obtain ⟨two, twoEq, twoHolds, twoSame, -⟩ := oneHolds.closeEvent .waitForKeyEx (by simp)
  obtain ⟨three, threeEq, threeHolds, threeSame, -⟩ :=
    twoHolds.closeEvent .keyNotifyProcessEvent (by simp)
  obtain ⟨four, fourEq, fourHolds, fourSame⟩ := threeHolds.kbdFreeNotifyList
  obtain ⟨five, fiveEq, fiveHolds, fiveSame⟩ :=
    fourHolds.releaseUnlessNull .controllerNameTable (by simp)
  rcases fiveHolds.freePool (by rintro (_ | _) <;> simp [PrivateData.point, closed]) with
    ⟨freed, released⟩
  have same : (five.freed consoleIn).protocols = ⟨false, none⟩ := by
    change five.protocols = _
    rw [fiveSame, fourSame, threeSame, twoSame, oneSame]
  rw [← same] at released
  refine ⟨five.freed consoleIn, ?_, released⟩
  simp only [Driver.stopTail, closeProtocol, protocols, if_true, Option.bind_eq_bind,
    Option.bind_some, oneEq, twoEq, threeEq, fourEq, fiveEq, freed]
  rfl

end Holds

/-! ## Starting -/

/-- The stages that remain have this result: with an error nothing is held, else the driver
runs. -/
def Concludes (result : Option (U32 × Driver)) : Prop :=
  ∃ status after, result = some (status, after) ∧
    (efiError status = true → after.Released) ∧ (efiError status = false → after.Running)

/-- Before the interfaces are installed. -/
structure Starting (driver : Driver) (consoleIn : U32) (data : PrivateData) (polled : Bool) :
    Prop where
  holds : driver.Holds consoleIn data [] []
  protocols : driver.protocols = ⟨true, none⟩
  polled : driver.polled = polled

section Starting

variable {driver : Driver} {consoleIn : U32} {data : PrivateData} {polled : Bool}
  {returns : Returns} {later : List Stage} {status : U32}

@[simp]
theorem efiError_success : efiError EFI_SUCCESS = false := by decide

@[simp]
theorem efiError_outOfResources : efiError EFI_OUT_OF_RESOURCES = true := by decide

@[simp]
theorem efiError_alreadyStarted : efiError EFI_ALREADY_STARTED = true := by decide

@[simp]
theorem efiError_unsupported : efiError EFI_UNSUPPORTED = true := by decide

/-- A stage that fails leads to the exit. -/
theorem Starting.fails (starting : driver.Starting consoleIn data polled) {stage : Stage}
    (error : U32) (failed : driver.performStage returns consoleIn stage = some (error, driver))
    (isError : efiError error = true) :
    Concludes (performStages returns consoleIn (stage :: later) status driver) := by
  obtain ⟨after, exited, released⟩ := starting.holds.errorExit starting.protocols error
  refine ⟨error, after, ?_, fun _ => released, fun success => ?_⟩
  · rw [performStages, failed, Option.bind_some, if_pos isError, exited]
  · exact absurd (success.symm.trans isError) Bool.false_ne_true

theorem performStages_cons {stage : Stage} (success : U32) (after : Driver)
    (performed : driver.performStage returns consoleIn stage = some (success, after))
    (noError : efiError success = false) :
    performStages returns consoleIn (stage :: later) status driver =
      performStages returns consoleIn later success after := by
  rw [performStages, performed, Option.bind_some]
  exact if_neg (by simp [noError])

/-- What is created is held. -/
theorem Starting.create (starting : driver.Starting consoleIn data polled) (pointer : Pointer) :
    ∃ after, driver.create consoleIn pointer = some after ∧
      after.Starting consoleIn (data.point pointer true) polled := by
  have holds := starting.holds
  refine ⟨{ driver with
      structures := Function.update (fun _ => none) consoleIn (some (data.point pointer true))
      created := Function.update driver.created pointer true }, ?_,
    { holds with structures := rfl, created := ?_, polled := ?_ }, starting.protocols,
    starting.polled⟩
  · have stored := holds.stored
    rw [Driver.create, Driver.point]
    simp only [stored, Option.map_some, holds.structures, Function.update_idem]
  · intro other
    have before := holds.created other
    simp only [PrivateData.point, Function.update_apply, List.not_mem_nil, if_false] at before ⊢
    rw [before]
  · intro runs
    simp only [Function.update_apply]
    split
    · rfl
    · exact holds.polled runs

theorem Starting.createEvent (starting : driver.Starting consoleIn data polled)
    (event : Pointer)
    (next : ∀ after, after.Starting consoleIn (data.point event true) polled →
      Concludes (performStages returns consoleIn later EFI_SUCCESS after)) :
    Concludes (performStages returns consoleIn (.createEvent event :: later) status driver) := by
  cases error : efiError (returns (.createEvent event)) with
  | true =>
      apply starting.fails EFI_OUT_OF_RESOURCES
      · rw [performStage, if_pos error]
      · exact efiError_outOfResources
  | false =>
      obtain ⟨after, created, afterStarting⟩ := starting.create event
      rw [performStages_cons EFI_SUCCESS after]
      · exact next after afterStarting
      · simp [performStage, error, created]
      · exact efiError_success

theorem Starting.setTimer (starting : driver.Starting consoleIn data polled)
    (timer : data.pointers .timerEvent = true)
    (next : ∀ after, after.Starting consoleIn data true →
      Concludes (performStages returns consoleIn later EFI_SUCCESS after)) :
    Concludes (performStages returns consoleIn (.setTimer :: later) status driver) := by
  have holds := starting.holds
  cases error : efiError (returns .setTimer) with
  | true =>
      apply starting.fails EFI_OUT_OF_RESOURCES
      · simp [performStage, holds.stored, error]
      · exact efiError_outOfResources
  | false =>
      rw [performStages_cons EFI_SUCCESS { driver with polled := true }]
      · apply next
        refine ⟨{ holds with polled := fun _ => ?_ }, starting.protocols, rfl⟩
        rw [holds.created, if_neg List.not_mem_nil, timer]
      · simp [performStage, holds.stored, error]
      · exact efiError_success

theorem Starting.reset (starting : driver.Starting consoleIn data polled)
    (works : data.keypadErr = false)
    (next : Concludes (performStages returns consoleIn later EFI_SUCCESS driver)) :
    Concludes (performStages returns consoleIn (.reset :: later) status driver) := by
  rw [performStages_cons EFI_SUCCESS driver]
  · exact next
  · simp [performStage, starting.holds.stored, keypadEfiReset, works]
  · exact efiError_success

/-- The table is created by the first string that can be stored. -/
theorem Starting.addUnicodeString2 (starting : driver.Starting consoleIn data polled)
    (error : U32) :
    ∃ after on, driver.addUnicodeString2 consoleIn error = some after ∧
      after.Starting consoleIn (data.point .controllerNameTable on) polled := by
  rw [Driver.addUnicodeString2]
  split
  · refine ⟨driver, data.pointers .controllerNameTable, rfl, ?_⟩
    rw [PrivateData.point, Function.update_eq_self]
    exact starting
  · obtain ⟨after, created, afterStarting⟩ := starting.create .controllerNameTable
    exact ⟨after, true, created, afterStarting⟩

theorem Starting.controllerNameTable (starting : driver.Starting consoleIn data polled)
    (null : data.pointers .controllerNameTable = false)
    (next : ∀ after on,
      after.Starting consoleIn (data.point .controllerNameTable on) polled →
        Concludes (performStages returns consoleIn later EFI_SUCCESS after)) :
    Concludes (performStages returns consoleIn (.controllerNameTable :: later) status driver) := by
  have holds := starting.holds
  have cleared : driver.point consoleIn .controllerNameTable false = some driver := by
    rw [holds.point, PrivateData.point, ← null, Function.update_eq_self, ← holds.structures]
  obtain ⟨one, oneOn, oneEq, oneStarting⟩ :=
    starting.addUnicodeString2 (returns (.addUnicodeString2 .eng))
  obtain ⟨two, twoOn, twoEq, twoStarting⟩ :=
    oneStarting.addUnicodeString2 (returns (.addUnicodeString2 .en))
  rw [performStages_cons EFI_SUCCESS two]
  · apply next two twoOn
    rw [PrivateData.point, PrivateData.point, Function.update_idem] at twoStarting
    exact twoStarting
  · simp only [performStage, cleared, Option.bind_eq_bind, Option.bind_some, oneEq, twoEq]
    rfl
  · exact efiError_success

theorem Starting.installMultipleProtocolInterfaces
    (starting : driver.Starting consoleIn data true) (works : data.keypadErr = false) :
    Concludes (performStages returns consoleIn [.installMultipleProtocolInterfaces] status
      driver) := by
  cases error : efiError (returns .installMultipleProtocolInterfaces) with
  | true =>
      apply starting.fails (returns .installMultipleProtocolInterfaces)
      · rw [performStage, if_pos error]
      · exact error
  | false =>
      have opened : driver.protocols.opened = true := by rw [starting.protocols]
      rw [performStages_cons (returns .installMultipleProtocolInterfaces)
        { driver with protocols := ⟨true, some consoleIn⟩ }]
      · refine ⟨_, _, rfl, fun failed => ?_, fun _ => ?_⟩
        · exact absurd (error.symm.trans failed) Bool.false_ne_true
        · exact ⟨consoleIn, data, [], starting.holds.ofProtocols _, rfl, starting.polled, works⟩
      · simp [performStage, error, opened]
      · exact error

end Starting

end Driver

end HtcLeo.Keypad
