import HtcLeo.Word.Flags

/-!
# Reserved memory

The platform describes its memory by resource descriptor HOBs.  It begins with one HOB for
system memory and walks the list; each reserved region, in the order of its table, is cut
out of the HOB that contains it.  The region in turn waits for its HOB, and the regions
behind it wait with it.
-/

namespace HtcLeo.Platform

/-! ## The table of reserved regions -/

/-- A region that the platform keeps to itself. -/
structure ReservedMemory where
  offset : U64
  size : U64
  deriving DecidableEq, Repr

def FB_ADDR : U64 := 0x02A00000
def FB_SIZE : U64 := 480 * 800 * (32 / 8)

/-- `ReservedMemoryBuffer`. -/
def reservedMemoryBuffer : List ReservedMemory := [
  ⟨0x00000000, 0x00100000⟩,   -- APPSBL
  ⟨0x00100000, 0x00100000⟩,   -- SMEM
  ⟨0x00200000, 0x00200000⟩,   -- OEMSBL
  ⟨0x00400000, 0x02100000⟩,   -- AMSS
  ⟨FB_ADDR, FB_SIZE⟩]         -- Display Reserved

/-! ## HOBs -/

/-- The resource types of the descriptors built here. -/
inductive ResourceType where
  | systemMemory
  | memoryReserved
  deriving DecidableEq, Repr

def EFI_RESOURCE_ATTRIBUTE_PRESENT : U32 := 0x1
def EFI_RESOURCE_ATTRIBUTE_INITIALIZED : U32 := 0x2
def EFI_RESOURCE_ATTRIBUTE_TESTED : U32 := 0x4
def EFI_RESOURCE_ATTRIBUTE_WRITE_COMBINEABLE : U32 := 0x800
def EFI_RESOURCE_ATTRIBUTE_WRITE_THROUGH_CACHEABLE : U32 := 0x1000
def EFI_RESOURCE_ATTRIBUTE_WRITE_BACK_CACHEABLE : U32 := 0x2000

/-- A resource descriptor, less its header and owner. -/
structure ResourceDescriptor where
  resourceType : ResourceType
  resourceAttribute : U32
  physicalStart : U64
  resourceLength : U64
  deriving DecidableEq, Repr

/-- A HOB of the list; of the other types nothing is used. -/
inductive Hob where
  | resourceDescriptor (descriptor : ResourceDescriptor)
  | other (hobType : U16)
  deriving DecidableEq, Repr

/-- What lies ahead, split at the next resource descriptor. -/
def getNextHob : List Hob → Option (List Hob × ResourceDescriptor × List Hob)
  | [] => none
  | .resourceDescriptor descriptor :: rest => some ([], descriptor, rest)
  | .other hobType :: rest =>
      (getNextHob rest).map fun (skipped, found) => (.other hobType :: skipped, found)

/-! ## The walk -/

/-- The region lies in a HOB of system memory. -/
def Fits (region : ReservedMemory) (descriptor : ResourceDescriptor) : Prop :=
  descriptor.resourceType = .systemMemory ∧ region.offset ≥ descriptor.physicalStart ∧
    region.offset + region.size ≤ descriptor.physicalStart + descriptor.resourceLength

instance (region : ReservedMemory) (descriptor : ResourceDescriptor) :
    Decidable (Fits region descriptor) :=
  inferInstanceAs (Decidable (_ ∧ _))

/-- `ReservedTop`, a `UINTN`. -/
def ReservedMemory.reservedTop (region : ReservedMemory) : U32 :=
  (region.offset + region.size).setWidth 32

/-- The end of a descriptor's range, which can wrap. -/
def ResourceDescriptor.resourceTop (descriptor : ResourceDescriptor) : U64 :=
  descriptor.physicalStart + descriptor.resourceLength

/-- The HOB of a reserved region. -/
def ReservedMemory.hob (region : ReservedMemory) : ResourceDescriptor where
  resourceType := .memoryReserved
  resourceAttribute := EFI_RESOURCE_ATTRIBUTE_PRESENT
  physicalStart := region.offset
  resourceLength := region.size

/-- What stays of the HOB: the memory below the region. -/
def ResourceDescriptor.below (descriptor : ResourceDescriptor) (region : ReservedMemory) :
    ResourceDescriptor :=
  { descriptor with resourceLength := region.offset - descriptor.physicalStart }

/-- The HOB of the memory on the top of the region, if there is some. -/
def ResourceDescriptor.above (descriptor : ResourceDescriptor) (region : ReservedMemory) :
    Option ResourceDescriptor :=
  if region.reservedTop.setWidth 64 < descriptor.resourceTop then
    some {
      resourceType := .systemMemory
      resourceAttribute := descriptor.resourceAttribute
      physicalStart := region.reservedTop.setWidth 64
      resourceLength := descriptor.resourceTop - region.reservedTop.setWidth 64 }
  else none

/-- The HOBs that are built when a region is carved out. -/
def built (region : ReservedMemory) (descriptor : ResourceDescriptor) : List Hob :=
  .resourceDescriptor region.hob ::
    ((descriptor.above region).map Hob.resourceDescriptor).toList

/-- The loop over the list: what was passed, what lies ahead, `Index`. -/
def carveLoop (regions : List ReservedMemory) :
    Nat → List Hob → List Hob → Nat → Option (List Hob)
  | 0, _, _, _ => none
  | rounds + 1, passed, ahead, index =>
      match getNextHob ahead with
      | none => some (passed ++ ahead)
      | some (skipped, descriptor, rest) =>
          match regions[index]? with
          | none => some (passed ++ ahead)
          | some region =>
              if Fits region descriptor then
                carveLoop regions rounds
                  (passed ++ skipped ++ [.resourceDescriptor (descriptor.below region)])
                  (rest ++ built region descriptor) (index + 1)
              else
                carveLoop regions rounds
                  (passed ++ skipped ++ [.resourceDescriptor descriptor]) rest index

/-- The first HOB, of all system memory. -/
def systemHob (base size : U64) : ResourceDescriptor where
  resourceType := .systemMemory
  resourceAttribute :=
    EFI_RESOURCE_ATTRIBUTE_PRESENT ||| EFI_RESOURCE_ATTRIBUTE_INITIALIZED |||
      EFI_RESOURCE_ATTRIBUTE_WRITE_COMBINEABLE |||
      EFI_RESOURCE_ATTRIBUTE_WRITE_THROUGH_CACHEABLE |||
      EFI_RESOURCE_ATTRIBUTE_WRITE_BACK_CACHEABLE ||| EFI_RESOURCE_ATTRIBUTE_TESTED
  physicalStart := base
  resourceLength := size

/-! ## The virtual memory map -/

/-- `ARM_MEMORY_REGION_ATTRIBUTES`, as far as the table has them. -/
inductive MemoryRegionAttribute where
  | uncachedUnbuffered
  | writeBack
  | device
  deriving DecidableEq, Repr

/-- `ARM_MEMORY_REGION_DESCRIPTOR`. -/
structure MemoryRegionDescriptor where
  physicalBase : U64
  virtualBase : U64
  length : U64
  attributes : MemoryRegionAttribute
  deriving DecidableEq, Repr

def MAX_VIRTUAL_MEMORY_MAP_DESCRIPTORS : Nat := 12
def QSD8250_PERIPH_BASE : U64 := 0xA0000000
def QSD8250_PERIPH_SIZE : U64 := 0x0C300000

/-- Every region is mapped to itself. -/
def mapped (base length : U64) (attributes : MemoryRegionAttribute) :
    MemoryRegionDescriptor where
  physicalBase := base
  virtualBase := base
  length := length
  attributes := attributes

/-- The table of the memory that the MMU maps. -/
def virtualMemoryTable (base size fdBase : U64) (fdSize : U32) : List MemoryRegionDescriptor :=
  [mapped base size .writeBack] ++
    (if base ≠ 0 then [mapped 0 base .device] else []) ++
    [mapped FB_ADDR FB_SIZE .uncachedUnbuffered,
      mapped fdBase (fdSize.setWidth 64) .writeBack,
      mapped QSD8250_PERIPH_BASE QSD8250_PERIPH_SIZE .device,
      mapped 0 0 .uncachedUnbuffered]

/-- The assertion at the end holds. -/
theorem virtualMemoryTable_length (base size fdBase : U64) (fdSize : U32) :
    (virtualMemoryTable base size fdBase fdSize).length + 1 ≤
      MAX_VIRTUAL_MEMORY_MAP_DESCRIPTORS := by
  rw [virtualMemoryTable]
  split
  · exact Nat.le_of_ble_eq_true rfl
  · exact Nat.le_of_ble_eq_true rfl

/-- Behind HOBs of other types; there is a table if pages are allocated for it. -/
def armPlatformGetVirtualMemoryMap (earlier : List U16) (base size fdBase : U64)
    (fdSize : U32) (allocated : Bool) :
    Option (List Hob × Option (List MemoryRegionDescriptor)) := do
  let hobs ← carveLoop reservedMemoryBuffer (2 * reservedMemoryBuffer.length + 2) []
    (earlier.map Hob.other ++ [.resourceDescriptor (systemHob base size)]) 0
  return (hobs,
    if allocated then some (virtualMemoryTable base size fdBase fdSize) else none)

/-! ## What the walk leaves -/

/-- What becomes of a HOB of system memory, region by region. -/
def carved : List ReservedMemory → ResourceDescriptor → List Hob
  | [], descriptor => [.resourceDescriptor descriptor]
  | region :: rest, descriptor =>
      if Fits region descriptor then
        .resourceDescriptor (descriptor.below region) :: .resourceDescriptor region.hob ::
          match descriptor.above region with
          | none => []
          | some above => carved rest above
      else [.resourceDescriptor descriptor]

section Walk

variable {regions rest : List ReservedMemory} {region : ReservedMemory}
  {descriptor above : ResourceDescriptor} {passed ahead : List Hob} {rounds index : Nat}

theorem getNextHob_others (earlier : List U16) :
    getNextHob (earlier.map Hob.other ++ .resourceDescriptor descriptor :: ahead) =
      some (earlier.map Hob.other, descriptor, ahead) := by
  induction earlier with
  | nil => rfl
  | cons hobType earlier ih => rw [List.map_cons, List.cons_append, getNextHob, ih]; rfl

theorem above_systemMemory (more : descriptor.above region = some above) :
    above.resourceType = .systemMemory := by
  rw [ResourceDescriptor.above] at more
  split at more
  · obtain rfl := Option.some.inj more
    rfl
  · cases more

theorem not_fits_hob (other : ReservedMemory) : ¬ Fits region other.hob := by
  rintro ⟨system, -⟩
  cases system

theorem carveLoop_nil : carveLoop regions (rounds + 1) passed [] index = some passed := by
  rw [carveLoop, getNextHob, List.append_nil]

/-- The region of the round fits in the HOB. -/
theorem carveLoop_fits (earlier : List U16) (present : regions[index]? = some region)
    (fits : Fits region descriptor) :
    carveLoop regions (rounds + 1) passed
        (earlier.map Hob.other ++ [.resourceDescriptor descriptor]) index =
      carveLoop regions rounds
        (passed ++ earlier.map Hob.other ++ [.resourceDescriptor (descriptor.below region)])
        (built region descriptor) (index + 1) := by
  rw [carveLoop, getNextHob_others]
  simp only [present, if_pos fits, List.nil_append]

theorem carveLoop_not_fits (earlier : List U16) (present : regions[index]? = some region)
    (fits : ¬ Fits region descriptor) :
    carveLoop regions (rounds + 1) passed
        (earlier.map Hob.other ++ .resourceDescriptor descriptor :: ahead) index =
      carveLoop regions rounds
        (passed ++ earlier.map Hob.other ++ [.resourceDescriptor descriptor]) ahead index := by
  rw [carveLoop, getNextHob_others]
  simp only [present, if_neg fits]

/-- After the last region the list stays as it is. -/
theorem carveLoop_done (done : regions[index]? = none) :
    carveLoop regions (rounds + 1) passed ahead index = some (passed ++ ahead) := by
  rw [carveLoop]
  cases getNextHob ahead with
  | none => rfl
  | some found => simp only [done]

/-- The HOB of a region is passed by. -/
theorem carveLoop_built {next : ReservedMemory} (present : regions[index]? = some next) :
    carveLoop regions (rounds + 1) passed (built region descriptor) index =
      carveLoop regions rounds (passed ++ [.resourceDescriptor region.hob])
        ((descriptor.above region).map Hob.resourceDescriptor).toList index := by
  have passes := @carveLoop_not_fits regions next region.hob passed
    ((descriptor.above region).map Hob.resourceDescriptor).toList rounds index []
    present (not_fits_hob region)
  rw [List.map_nil, List.nil_append, List.append_nil] at passes
  exact passes

theorem getElem?_of_drop (remaining : regions.drop index = rest) :
    regions[index]? = rest.head? := by
  rw [← List.head?_drop, remaining]

/-- The walk ends, and it has carved the remaining regions out of the last HOB, as long as
each fits in what the one before left on its top. -/
theorem carveLoop_eq (earlier : List U16) (remaining : regions.drop index = rest)
    (system : descriptor.resourceType = .systemMemory) (enough : 2 * rest.length + 2 ≤ rounds) :
    carveLoop regions rounds passed
        (earlier.map Hob.other ++ [.resourceDescriptor descriptor]) index =
      some (passed ++ earlier.map Hob.other ++ carved rest descriptor) := by
  induction rest generalizing index passed earlier descriptor rounds with
  | nil =>
      obtain ⟨rounds, rfl⟩ := Nat.exists_eq_succ_of_ne_zero (Nat.ne_zero_of_lt enough)
      rw [carveLoop_done (getElem?_of_drop remaining), carved, List.append_assoc]
  | cons region rest ih =>
      obtain ⟨rounds, rfl⟩ : ∃ fewer, rounds = fewer + 2 := ⟨rounds - 2, by omega⟩
      rw [List.length_cons] at enough
      have present : regions[index]? = some region := getElem?_of_drop remaining
      have following : regions.drop (index + 1) = rest := by
        rw [← List.tail_drop, remaining, List.tail_cons]
      rw [carved]
      split
      · rename_i fits
        rw [carveLoop_fits earlier present fits]
        -- the HOB of the region itself is passed, unless there are no more regions
        cases rest with
        | nil =>
            rw [carveLoop_done (getElem?_of_drop following), built]
            cases descriptor.above region <;> simp [carved]
        | cons next rest =>
            rw [carveLoop_built (getElem?_of_drop following)]
            cases more : descriptor.above region with
            | none =>
                obtain ⟨rounds, rfl⟩ : ∃ fewer, rounds = fewer + 1 := ⟨rounds - 1, by omega⟩
                refine carveLoop_nil.trans ?_
                simp
            | some above =>
                refine (ih [] following (above_systemMemory more) (by omega)).trans ?_
                simp
      · rename_i fits
        rw [carveLoop_not_fits earlier present fits, carveLoop_nil]

end Walk

end HtcLeo.Platform
