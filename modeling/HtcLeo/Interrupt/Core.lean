import HtcLeo.Word.Bitmap

/-!
# The interrupt controller and its driver

The vectored interrupt controller has 64 lines with one enable bit each, in two words.
The driver keeps a table of handlers for `NR_IRQS` sources, most of which are not lines
of this controller, and programs the bit `Source & 31` of the second word for each
source above 31.
-/

namespace HtcLeo.Interrupt

/-! ## The controller -/

/-- The registers the driver writes; those that come in pairs have a word index. -/
inductive Register where
  | clear (word : Nat)
  | select (word : Nat)
  | type (word : Nat)
  | config
  | en (word : Nat)
  | enset (word : Nat)
  | enclear (word : Nat)
  | masteren
  | vecWr
  deriving DecidableEq, Repr

/-- The enable bits, and the handlers by source; `0` is the null pointer. -/
structure Vic where
  en : Bitmap
  handlers : U32 → U32

/-- `MmioWrite32`: of the registers only these three groups change the enable bits. -/
def Vic.mmioWrite32 (vic : Vic) (write : Register × U32) : Vic :=
  match write.1 with
  | .en word => { vic with en := Function.update vic.en word write.2 }
  | .enset word => { vic with en := Function.update vic.en word (vic.en word ||| write.2) }
  | .enclear word =>
      { vic with en := Function.update vic.en word (Flags.clear (vic.en word) write.2) }
  | _ => vic

/-- The line `v` can interrupt. -/
def Vic.enabled (vic : Vic) (v : Nat) : Bool :=
  vic.en.test v

/-- The writes of `InitInterrupts`. -/
def initWrites : List (Register × U32) :=
  [(.clear 0, 0xffffffff), (.clear 1, 0xffffffff), (.select 0, 0), (.select 1, 0),
    (.type 0, 0xffffffff), (.type 1, 0xffffffff), (.config, 0), (.en 0, 1), (.en 1, 1),
    (.masteren, 1)]

/-- The writes of the driver's entry point. -/
def initInterrupts (vic : Vic) : Vic :=
  initWrites.foldl Vic.mmioWrite32 vic

/-! ## The protocol -/

/-- The statuses of the interrupt protocol. -/
inductive EfiStatus where
  | success
  | unsupported
  | invalidParameter
  | alreadyStarted
  deriving DecidableEq, Repr

def NR_MSM_IRQS : U32 := 64
def NR_SIRC_IRQS : U32 := 23
def NR_GPIO_IRQS : U32 := 165
def NR_BOARD_IRQS : U32 := 64
def NR_MICROP_IRQS : U32 := 16
def NR_IRQS : U32 :=
  NR_MSM_IRQS + NR_SIRC_IRQS + NR_GPIO_IRQS + NR_BOARD_IRQS + NR_MICROP_IRQS

def INT_GPIO_GROUP1 : U32 := 64 + 9
def INT_GPIO_GROUP2 : U32 := 64 + 10

/-- The word that the driver selects for a source. -/
def wordOf (source : U32) : Nat := if 31 < source then 1 else 0

/-- The bit that the driver selects for a source. -/
def bitOf (source : U32) : U32 := 1#32 <<< (source &&& 31).toNat

/-- `EnableInterruptSource`. -/
def enableInterruptSource (vic : Vic) (source : U32) : EfiStatus × Vic :=
  if NR_IRQS < source then (.unsupported, vic)
  else (.success, vic.mmioWrite32 (.enset (wordOf source), bitOf source))

/-- `DisableInterruptSource`. -/
def disableInterruptSource (vic : Vic) (source : U32) : EfiStatus × Vic :=
  if NR_IRQS < source then (.unsupported, vic)
  else (.success, vic.mmioWrite32 (.enclear (wordOf source), bitOf source))

/-- `RegisterInterruptSource`. -/
def registerInterruptSource (vic : Vic) (source handler : U32) : EfiStatus × Vic :=
  if NR_IRQS < source then (.unsupported, vic)
  else if handler = 0 ∧ vic.handlers source = 0 then (.invalidParameter, vic)
  else if handler ≠ 0 ∧ vic.handlers source ≠ 0 then (.alreadyStarted, vic)
  else
    enableInterruptSource
      { vic with handlers := Function.update vic.handlers source handler } source

/-- The handler called when the controller names a vector, and the writes around it. -/
def irqInterruptHandler (vic : Vic) (vector : U32) :
    List (Register × U32) × Option U32 :=
  ([(.clear (wordOf vector), bitOf vector), (.vecWr, 0)],
    if vic.handlers vector ≠ 0 then some (vic.handlers vector) else none)

/-! ## Sources and lines -/

/-- The line whose enable bit the driver programs for a source. -/
def lineOf (source : U32) : Nat :=
  if 31 < source then 32 + (source &&& 31).toNat else source.toNat

theorem and_thirty_one_toNat (source : U32) : (source &&& 31).toNat = source.toNat % 32 := by
  rw [BitVec.toNat_and]
  exact Bitmap.and_thirty_one _

/-- The sources below 64 are the lines. -/
theorem lineOf_of_lt {source : U32} (below : source.toNat < 64) :
    lineOf source = source.toNat := by
  have limit : (31 : U32).toNat = 31 := rfl
  unfold lineOf
  split
  · rename_i high
    rw [BitVec.lt_def] at high
    rw [and_thirty_one_toNat]
    omega
  · rfl

theorem wordOf_eq (source : U32) : wordOf source = lineOf source / 32 := by
  have limit : (31 : U32).toNat = 31 := rfl
  unfold wordOf lineOf
  split
  · rw [and_thirty_one_toNat]
    omega
  · rename_i low
    rw [BitVec.lt_def] at low
    omega

theorem bitOf_eq (source : U32) : bitOf source = Bitmap.mask (lineOf source) := by
  have limit : (31 : U32).toNat = 31 := rfl
  rw [bitOf, Bitmap.mask, Bitmap.and_thirty_one, and_thirty_one_toNat]
  unfold lineOf
  split
  · rw [and_thirty_one_toNat, Nat.add_mod_left, Nat.mod_mod]
  · rfl

/-- The driver's write makes one bit what it should be. -/
theorem mmioWrite32_enset (vic : Vic) (source : U32) :
    vic.mmioWrite32 (.enset (wordOf source), bitOf source) =
      { vic with en := vic.en.assign (lineOf source) true } := by
  rw [wordOf_eq, bitOf_eq]
  rfl

theorem mmioWrite32_enclear (vic : Vic) (source : U32) :
    vic.mmioWrite32 (.enclear (wordOf source), bitOf source) =
      { vic with en := vic.en.assign (lineOf source) false } := by
  rw [wordOf_eq, bitOf_eq]
  rfl

end HtcLeo.Interrupt
