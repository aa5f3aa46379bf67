import HtcLeo.Keypad.Traversal

/-!
# Starting and stopping the driver

`KeypadControllerDriverStart` acquires one thing after the other, and when a call fails it
leaves through one exit that releases what it finds in the private structure.  The exit
reads the notify list of a private structure that could not be allocated.
`KeypadControllerDriverStop` closes the timer event before the interfaces are uninstalled,
and returns without it if that fails.
-/

namespace HtcLeo.Keypad

open Transition

/-! ## What the driver holds -/

/-- The pointers of the private structure to what is created for it. -/
inductive Pointer where
  | waitForKey
  | waitForKeyEx
  | timerEvent
  | keyNotifyProcessEvent
  | controllerNameTable
  deriving DecidableEq, Repr

/-- What starting and stopping use of `KEYPAD_CONSOLE_IN_DEV`; a pointer is off when it is
null. -/
structure PrivateData where
  pointers : Pointer → Bool
  keypadErr : Bool

/-- One pointer of the structure stored or cleared. -/
def PrivateData.point (data : PrivateData) (pointer : Pointer) (on : Bool) : PrivateData :=
  { data with pointers := Function.update data.pointers pointer on }

/-- Whether the driver has opened the keypad device, and the private structure whose
interfaces are installed. -/
structure Protocols where
  opened : Bool
  installed : Option U32
  deriving DecidableEq, Repr

/-- The private structures in memory, what was created and not released, whether keys are
polled, and the notify list with the nodes of its entries. -/
structure Driver where
  protocols : Protocols
  structures : U32 → Option PrivateData
  created : Pointer → Bool
  polled : Bool
  heap : NotifyHeap

def EFI_SUCCESS : U32 := 0
def EFI_UNSUPPORTED : U32 := 0x80000003
def EFI_DEVICE_ERROR : U32 := 0x80000007
def EFI_OUT_OF_RESOURCES : U32 := 0x80000009
def EFI_ALREADY_STARTED : U32 := 0x80000014

/-- `EFI_ERROR`. -/
def efiError (status : U32) : Bool := status.msb

/-- The languages of the two name protocols. -/
inductive Language where
  | eng
  | en
  deriving DecidableEq, Repr

/-- The calls that can fail. -/
inductive BootCall where
  | openKeypadDevice
  | allocateZeroPool
  | createEvent (event : Pointer)
  | setTimer
  | addUnicodeString2 (language : Language)
  | installMultipleProtocolInterfaces
  | openSimpleTextIn
  | openSimpleTextInEx
  | uninstallMultipleProtocolInterfaces
  deriving DecidableEq, Repr

/-- The status that each call returns, and the address that `AllocateZeroPool` does. -/
abbrev Returns := BootCall → U32

/-- Where the list head is in a private structure. -/
def NOTIFY_LIST : U32 := 6248

namespace Driver

/-! ## Acquiring and releasing

What is not there cannot be accessed or released: then an operation has no result. -/

/-- A protocol that is open by the driver is not opened again. -/
def openProtocol (driver : Driver) (status : U32) : U32 × Driver :=
  if driver.protocols.opened then (EFI_ALREADY_STARTED, driver)
  else if efiError status then (status, driver)
  else (status, { driver with protocols := { driver.protocols with opened := true } })

/-- `CloseProtocol`; `none` where the protocol is not open. -/
def closeProtocol (driver : Driver) : Option Driver :=
  if driver.protocols.opened then
    some { driver with protocols := { driver.protocols with opened := false } }
  else none

/-- The driver with a private structure of zeros. -/
def allocated (driver : Driver) (consoleIn : U32) : Driver :=
  { driver with
    structures := Function.update driver.structures consoleIn (some ⟨fun _ => false, false⟩)
    heap := { driver.heap with
      listHead := consoleIn + NOTIFY_LIST
      links := Function.update driver.heap.links (consoleIn + NOTIFY_LIST) (some ⟨0, 0⟩) } }

/-- Memory that is not in use, or a null pointer. -/
def allocateZeroPool (driver : Driver) (candidate : U32) : U32 × Driver :=
  if candidate = 0 ∨ driver.structures candidate ≠ none ∨ candidate + NOTIFY_LIST = 0 ∨
      driver.heap.links (candidate + NOTIFY_LIST) ≠ none then (0, driver)
  else (candidate, driver.allocated candidate)

/-- The driver when the memory of the private structure is given up. -/
def freed (driver : Driver) (consoleIn : U32) : Driver :=
  { driver with
    structures := Function.update driver.structures consoleIn none
    heap := { driver.heap with
      links := Function.update driver.heap.links (consoleIn + NOTIFY_LIST) none } }

/-- `FreePool` of the device's structure. -/
def freePool (driver : Driver) (consoleIn : U32) : Option Driver :=
  (driver.structures consoleIn).map fun _ => driver.freed consoleIn

/-- `InitializeListHead` of the device's notify list. -/
def initializeListHead (driver : Driver) (consoleIn : U32) : Option Driver :=
  (driver.heap.links.initializeListHead (consoleIn + NOTIFY_LIST)).map fun links =>
    { driver with heap := { driver.heap with links := links } }

/-- Write a pointer of the private structure. -/
def point (driver : Driver) (consoleIn : U32) (pointer : Pointer) (on : Bool) :
    Option Driver :=
  (driver.structures consoleIn).map fun data =>
    { driver with
      structures := Function.update driver.structures consoleIn (some (data.point pointer on)) }

/-- What a pointer leads to is created, and the pointer written. -/
def create (driver : Driver) (consoleIn : U32) (pointer : Pointer) : Option Driver :=
  { driver with created := Function.update driver.created pointer true }.point consoleIn
    pointer true

/-- The driver when what a pointer led to is released; no timer runs without its event. -/
def without (driver : Driver) (pointer : Pointer) : Driver :=
  { driver with
    created := Function.update driver.created pointer false
    polled := driver.polled && pointer != .timerEvent }

/-- `CloseEvent`, or `FreeUnicodeStringTable`. -/
def release (driver : Driver) (pointer : Pointer) : Option Driver :=
  if driver.created pointer then some (driver.without pointer) else none

/-- What a pointer leads to is released unless the pointer is null. -/
def releaseUnlessNull (driver : Driver) (consoleIn : U32) (pointer : Pointer) :
    Option Driver :=
  (driver.structures consoleIn).bind fun data =>
    if data.pointers pointer then driver.release pointer else some driver

/-- `KbdFreeNotifyList` inside the driver's memory. -/
def kbdFreeNotifyList (driver : Driver) (listHead : U32) : Option Driver :=
  (driver.heap.kbdFreeNotifyList listHead).map fun freed => { driver with heap := freed.2 }

/-! ## Start -/

/-- The condition of the exit, which knows the private structure or a null pointer. -/
def exitRelease (driver : Driver) (consoleIn : U32) (pointer : Pointer) : Option Driver :=
  if consoleIn = 0 then some driver else driver.releaseUnlessNull consoleIn pointer

/-- `ErrorExit`. -/
def errorExit (driver : Driver) (consoleIn status : U32) : Option (U32 × Driver) := do
  let driver ← driver.exitRelease consoleIn .waitForKey
  let driver ← driver.exitRelease consoleIn .timerEvent
  let driver ← driver.exitRelease consoleIn .waitForKeyEx
  let driver ← driver.exitRelease consoleIn .keyNotifyProcessEvent
  let driver ← driver.kbdFreeNotifyList (consoleIn + NOTIFY_LIST)
  let driver ← driver.exitRelease consoleIn .controllerNameTable
  let driver ← if consoleIn = 0 then some driver else driver.freePool consoleIn
  let driver ← driver.closeProtocol
  return (status, driver)

/-- `KeypadEfiResetEx`, of which only the status counts here. -/
def keypadEfiReset (data : PrivateData) : U32 :=
  if data.keypadErr then EFI_DEVICE_ERROR else EFI_SUCCESS

/-- The first string creates the table, the second one extends it. -/
def addUnicodeString2 (driver : Driver) (consoleIn status : U32) : Option Driver :=
  if efiError status then some driver else driver.create consoleIn .controllerNameTable

/-- What starting does once it has the private structure. -/
inductive Stage where
  | createEvent (event : Pointer)
  | setTimer
  | reset
  | controllerNameTable
  | installMultipleProtocolInterfaces
  deriving DecidableEq, Repr

/-- The stages of `KeypadControllerDriverStart` after the allocation. -/
def stages : List Stage :=
  [.createEvent .waitForKey, .createEvent .waitForKeyEx, .createEvent .timerEvent, .setTimer,
    .createEvent .keyNotifyProcessEvent, .reset, .controllerNameTable,
    .installMultipleProtocolInterfaces]

/-- One stage, with its status; `none` where memory that is not there is read. -/
def performStage (returns : Returns) (consoleIn : U32) (driver : Driver) :
    Stage → Option (U32 × Driver)
  | .createEvent event =>
      if efiError (returns (.createEvent event)) then some (EFI_OUT_OF_RESOURCES, driver)
      else (driver.create consoleIn event).map fun driver => (EFI_SUCCESS, driver)
  | .setTimer =>
      (driver.structures consoleIn).map fun _ =>
        if efiError (returns .setTimer) then (EFI_OUT_OF_RESOURCES, driver)
        else (EFI_SUCCESS, { driver with polled := true })
  | .reset =>
      (driver.structures consoleIn).map fun data =>
        (if efiError (keypadEfiReset data) then EFI_DEVICE_ERROR else EFI_SUCCESS, driver)
  | .controllerNameTable => do
      let driver ← driver.point consoleIn .controllerNameTable false
      let driver ← driver.addUnicodeString2 consoleIn (returns (.addUnicodeString2 .eng))
      let driver ← driver.addUnicodeString2 consoleIn (returns (.addUnicodeString2 .en))
      return (EFI_SUCCESS, driver)
  | .installMultipleProtocolInterfaces =>
      let status := returns .installMultipleProtocolInterfaces
      some (status,
        if efiError status then driver
        else { driver with protocols := { driver.protocols with installed := some consoleIn } })

/-- Stage after stage, up to the first that fails. -/
def performStages (returns : Returns) (consoleIn : U32) :
    List Stage → U32 → Driver → Option (U32 × Driver)
  | [], status, driver => some (status, driver)
  | stage :: later, _, driver =>
      (driver.performStage returns consoleIn stage).bind fun done =>
        if efiError done.1 then done.2.errorExit consoleIn done.1
        else performStages returns consoleIn later done.1 done.2

/-- `KeypadControllerDriverStart`. -/
def keypadControllerDriverStart (driver : Driver) (returns : Returns) :
    Option (U32 × Driver) :=
  let opening := driver.openProtocol (returns .openKeypadDevice)
  if efiError opening.1 then some opening
  else
    let allocation := opening.2.allocateZeroPool (returns .allocateZeroPool)
    if allocation.1 = 0 then allocation.2.errorExit 0 EFI_OUT_OF_RESOURCES
    else
      (allocation.2.initializeListHead allocation.1).bind
        (performStages returns allocation.1 stages EFI_SUCCESS)

/-! ## Stop -/

/-- Close an event, unless it is null, and forget it. -/
def closeEvent (driver : Driver) (consoleIn : U32) (event : Pointer) : Option Driver :=
  (driver.structures consoleIn).bind fun data =>
    if data.pointers event then
      (driver.release event).bind fun driver => driver.point consoleIn event false
    else some driver

/-- What remains to do when the interfaces are uninstalled. -/
def stopTail (driver : Driver) (consoleIn : U32) : Option (U32 × Driver) := do
  let driver ← driver.closeProtocol
  let driver ← driver.closeEvent consoleIn .waitForKey
  let driver ← driver.closeEvent consoleIn .waitForKeyEx
  let driver ← driver.closeEvent consoleIn .keyNotifyProcessEvent
  let driver ← driver.kbdFreeNotifyList (consoleIn + NOTIFY_LIST)
  let driver ← driver.releaseUnlessNull consoleIn .controllerNameTable
  let driver ← driver.freePool consoleIn
  return (EFI_SUCCESS, driver)

/-- Without installed interfaces the protocols cannot be opened. -/
def keypadControllerDriverStop (driver : Driver) (returns : Returns) :
    Option (U32 × Driver) :=
  match driver.protocols.installed with
  | none => some (EFI_UNSUPPORTED, driver)
  | some consoleIn =>
    if efiError (returns .openSimpleTextIn) then some (returns .openSimpleTextIn, driver)
    else if efiError (returns .openSimpleTextInEx) then some (returns .openSimpleTextInEx, driver)
    else
      (driver.closeEvent consoleIn .timerEvent).bind fun driver =>
        if efiError (returns .uninstallMultipleProtocolInterfaces) then
          some (returns .uninstallMultipleProtocolInterfaces, driver)
        else
          { driver with
            protocols := { driver.protocols with installed := none } }.stopTail consoleIn

end Driver

/-! ## Runs -/

/-- The entry points that change what the driver holds. -/
inductive EntryPoint where
  | start (returns : Returns)
  | stop (returns : Returns)
  | notify (call : ListCall)

/-- One call into the driver, with its status. -/
def Driver.enter (driver : Driver) : EntryPoint → Option (U32 × Driver)
  | .start returns => driver.keypadControllerDriverStart returns
  | .stop returns => driver.keypadControllerDriverStop returns
  | .notify call =>
      (driver.heap.perform call).map fun heap => (EFI_SUCCESS, { driver with heap := heap })

/-- Entries of the notify list are registered and unregistered through the installed
interfaces.  After an access to what is not there anything may follow. -/
def Enters (before : Driver) (entryPoint : EntryPoint) (after : Driver) : Prop :=
  (∀ call, entryPoint = .notify call → before.protocols.installed ≠ none) ∧
    ∀ status driver, before.enter entryPoint = some (status, driver) → after = driver

/-- The driver holds what it held. -/
structure Driver.Same (before after : Driver) : Prop where
  protocols : after.protocols = before.protocols
  structures : after.structures = before.structures
  created : after.created = before.created
  polled : after.polled = before.polled
  links : after.heap.links = before.heap.links
  nodes : after.heap.nodes = before.heap.nodes

/-- The driver holds nothing. -/
structure Driver.Released (driver : Driver) : Prop where
  protocols : driver.protocols = ⟨false, none⟩
  structures : ∀ address, driver.structures address = none
  created : ∀ pointer, driver.created pointer = false
  polled : driver.polled = false
  links : ∀ address, driver.heap.links address = none
  nodes : ∀ address, driver.heap.nodes address = none

/-- Nothing is accessed or released that is not there; an error leaves all as it was, and
when stopping succeeds, nothing is left. -/
def Atomic (step : Step Driver EntryPoint) : Prop :=
  match step.label with
  | .start returns => ∃ status after,
      step.before.keypadControllerDriverStart returns = some (status, after) ∧
        (efiError status = true → step.before.Same after)
  | .stop returns => ∃ status after,
      step.before.keypadControllerDriverStop returns = some (status, after) ∧
        (efiError status = true → step.before.Same after) ∧
        (efiError status = false → after.Released)
  | .notify _ => True

/-- If starting opens the device, there is memory for the private structure; if stopping
opens the interfaces, they can be uninstalled. -/
def Spared (step : Step Driver EntryPoint) : Prop :=
  match step.label with
  | .start returns =>
      efiError (step.before.openProtocol (returns .openKeypadDevice)).1 = false →
        (step.before.allocateZeroPool (returns .allocateZeroPool)).1 ≠ 0
  | .stop returns =>
      step.before.protocols.installed ≠ none →
        efiError (returns .openSimpleTextIn) = false →
          efiError (returns .openSimpleTextInEx) = false →
            efiError (returns .uninstallMultipleProtocolInterfaces) = false
  | .notify _ => True

end HtcLeo.Keypad
