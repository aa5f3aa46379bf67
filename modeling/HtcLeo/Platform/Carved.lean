import HtcLeo.Platform.ReservedMemory
import Mathlib.Algebra.Group.Nat.Defs

/-!
# System memory without the reserved regions

Where the reserved regions ascend from the beginning of system memory, the walk leaves
exactly the addresses that lie in none of the regions inside.  A region that lies outside
ends the carving for all regions behind it.
-/

namespace HtcLeo.Platform

/-! ## Addresses -/

namespace ReservedMemory

/-- The end of the region. -/
def top (region : ReservedMemory) : Nat := region.offset.toNat + region.size.toNat

/-- The address is inside the reserved region. -/
def Contains (region : ReservedMemory) (address : Nat) : Prop :=
  region.offset.toNat ≤ address ∧ address < region.top

/-- The region lies inside system memory. -/
def Inside (region : ReservedMemory) (base size : U64) : Prop :=
  base.toNat ≤ region.offset.toNat ∧ region.top ≤ base.toNat + size.toNat

instance (region : ReservedMemory) (base size : U64) : Decidable (region.Inside base size) :=
  inferInstanceAs (Decidable (_ ∧ _))

end ReservedMemory

namespace ResourceDescriptor

/-- The end of the resource. -/
def top (descriptor : ResourceDescriptor) : Nat :=
  descriptor.physicalStart.toNat + descriptor.resourceLength.toNat

/-- The address is inside the descriptor's range. -/
def Contains (descriptor : ResourceDescriptor) (address : Nat) : Prop :=
  descriptor.physicalStart.toNat ≤ address ∧ address < descriptor.top

end ResourceDescriptor

/-- Some HOB of system memory has the address. -/
def SystemMemory (hobs : List Hob) (address : Nat) : Prop :=
  ∃ descriptor, .resourceDescriptor descriptor ∈ hobs ∧
    descriptor.resourceType = .systemMemory ∧ descriptor.Contains address

/-- Some HOB of tested system memory has the address. -/
def TestedMemory (hobs : List Hob) (address : Nat) : Prop :=
  ∃ descriptor, .resourceDescriptor descriptor ∈ hobs ∧
    descriptor.resourceType = .systemMemory ∧
    Flags.test descriptor.resourceAttribute EFI_RESOURCE_ATTRIBUTE_TESTED ∧
    descriptor.Contains address

/-- No region inside overlaps tested memory, and together they are system memory. -/
def FullyCarved (regions : List ReservedMemory) (base size : U64) (hobs : List Hob) : Prop :=
  (∀ region ∈ regions, region.Inside base size → ∀ address, region.Contains address →
    ¬ TestedMemory hobs address) ∧
  ∀ address, (base.toNat ≤ address ∧ address < base.toNat + size.toNat ↔
    SystemMemory hobs address ∨
      ∃ region ∈ regions, region.Inside base size ∧ region.Contains address)

/-- The regions ascend from an address on, within 32 bits. -/
def Ascending : Nat → List ReservedMemory → Prop
  | _, [] => True
  | start, region :: rest =>
      start ≤ region.offset.toNat ∧ region.top < 2 ^ 32 ∧ Ascending region.top rest

instance decidableAscending (start : Nat) (regions : List ReservedMemory) :
    Decidable (Ascending start regions) :=
  match regions with
  | [] => inferInstanceAs (Decidable True)
  | region :: rest =>
      have := decidableAscending region.top rest
      inferInstanceAs (Decidable (_ ∧ _ ∧ _))

section Pieces

variable {start address : Nat} {regions : List ReservedMemory} {region : ReservedMemory}
  {descriptor above : ResourceDescriptor} {hobs : List Hob}

theorem TestedMemory.systemMemory (tested : TestedMemory hobs address) :
    SystemMemory hobs address := by
  obtain ⟨descriptor, member, system, -, contains⟩ := tested
  exact ⟨descriptor, member, system, contains⟩

theorem Ascending.start_le (ascending : Ascending start regions) (member : region ∈ regions) :
    start ≤ region.offset.toNat := by
  induction regions generalizing start with
  | nil => cases member
  | cons first rest ih =>
      rcases List.mem_cons.mp member with rfl | member
      · exact ascending.1
      · have later := ih ascending.2.2 member
        exact Nat.le_trans ascending.1 (Nat.le_trans (Nat.le_add_right _ _) later)

@[simp]
theorem systemMemory_nil : ¬ SystemMemory [] address := by
  rintro ⟨descriptor, member, -⟩
  cases member

theorem systemMemory_cons (system : descriptor.resourceType = .systemMemory) :
    SystemMemory (.resourceDescriptor descriptor :: hobs) address ↔
      descriptor.Contains address ∨ SystemMemory hobs address := by
  simp only [SystemMemory, List.mem_cons, Hob.resourceDescriptor.injEq, or_and_right, exists_or,
    exists_eq_left, system, true_and]

theorem systemMemory_reserved :
    SystemMemory (.resourceDescriptor region.hob :: hobs) address ↔
      SystemMemory hobs address := by
  simp [SystemMemory, or_and_right, exists_or, ReservedMemory.hob]

/-- The HOBs of other types have no memory. -/
theorem systemMemory_others (earlier : List U16) :
    SystemMemory (earlier.map Hob.other ++ hobs) address ↔ SystemMemory hobs address := by
  simp [SystemMemory]

/-- A HOB whose end is an address. -/
def ResourceDescriptor.Bounded (descriptor : ResourceDescriptor) : Prop :=
  descriptor.resourceType = .systemMemory ∧ descriptor.top < 2 ^ 64

theorem toNat_reserved (small : region.top < 2 ^ 32) :
    (region.offset + region.size).toNat = region.top ∧
      (region.reservedTop.setWidth 64).toNat = region.top := by
  have sum : (region.offset + region.size).toNat = region.top := by
    rw [BitVec.toNat_add]
    exact Nat.mod_eq_of_lt (by rw [ReservedMemory.top] at small; omega)
  refine ⟨sum, ?_⟩
  rw [BitVec.toNat_setWidth, ReservedMemory.reservedTop, BitVec.toNat_setWidth, sum,
    Nat.mod_eq_of_lt small]
  exact Nat.mod_eq_of_lt (Nat.lt_trans small (by decide))

theorem toNat_resourceTop (bounded : descriptor.Bounded) :
    descriptor.resourceTop.toNat = descriptor.top := by
  rw [ResourceDescriptor.resourceTop, BitVec.toNat_add]
  exact Nat.mod_eq_of_lt bounded.2

theorem fits_iff (bounded : descriptor.Bounded) (small : region.top < 2 ^ 32)
    (behind : descriptor.physicalStart.toNat ≤ region.offset.toNat) :
    Fits region descriptor ↔ region.top ≤ descriptor.top := by
  have sum := (toNat_reserved small).1
  have ends := toNat_resourceTop bounded
  rw [ResourceDescriptor.resourceTop] at ends
  rw [Fits, ge_iff_le, BitVec.le_def, BitVec.le_def, sum, ends]
  exact ⟨fun fits => fits.2.2, fun fits => ⟨bounded.1, behind, fits⟩⟩

/-- The memory below the region. -/
theorem contains_below (behind : descriptor.physicalStart.toNat ≤ region.offset.toNat) :
    (descriptor.below region).Contains address ↔
      descriptor.physicalStart.toNat ≤ address ∧ address < region.offset.toNat := by
  have length : (descriptor.below region).resourceLength.toNat =
      region.offset.toNat - descriptor.physicalStart.toNat :=
    BitVec.toNat_sub_of_le behind
  have start : (descriptor.below region).physicalStart = descriptor.physicalStart := rfl
  rw [ResourceDescriptor.Contains, ResourceDescriptor.top, length, start,
    Nat.add_sub_cancel' behind]

theorem above_eq_none_iff (bounded : descriptor.Bounded) (small : region.top < 2 ^ 32) :
    descriptor.above region = none ↔ descriptor.top ≤ region.top := by
  have compared : region.reservedTop.setWidth 64 < descriptor.resourceTop ↔
      region.top < descriptor.top := by
    rw [BitVec.lt_def, (toNat_reserved small).2, toNat_resourceTop bounded]
  rw [ResourceDescriptor.above, ← Nat.not_lt, ← compared]
  split
  · rename_i more
    exact iff_of_false (Option.some_ne_none _) (not_not.mpr more)
  · rename_i less
    exact iff_of_true rfl less

/-- The memory on the top of the region. -/
theorem above_spec (bounded : descriptor.Bounded) (small : region.top < 2 ^ 32)
    (more : descriptor.above region = some above) :
    region.top < descriptor.top ∧ above.physicalStart.toNat = region.top ∧
      above.top = descriptor.top ∧ above.Bounded := by
  have higher : region.top < descriptor.top := by
    rw [← Nat.not_le, ← above_eq_none_iff bounded small, more]
    exact Option.some_ne_none above
  have system := above_systemMemory more
  have reserved := (toNat_reserved small).2
  have ends := toNat_resourceTop bounded
  rw [ResourceDescriptor.above] at more
  split at more
  · have begins : above.physicalStart = region.reservedTop.setWidth 64 := by
      rw [← Option.some.inj more]
    have length : above.resourceLength =
        descriptor.resourceTop - region.reservedTop.setWidth 64 := by
      rw [← Option.some.inj more]
    have top : above.top = descriptor.top := by
      rw [ResourceDescriptor.top, begins, length, BitVec.toNat_sub_of_le, ends, reserved,
        Nat.add_sub_cancel' (Nat.le_of_lt higher)]
      rw [BitVec.le_def, ends, reserved]
      exact Nat.le_of_lt higher
    refine ⟨higher, ?_, top, system, ?_⟩
    · rw [begins, reserved]
    · rw [top]
      exact bounded.2
  · cases more

/-- An interval without a middle part, and with what is said of the part behind. -/
theorem between_iff {start offset top bottom : Nat} {others : Prop} (begins : start ≤ offset)
    (middle : offset ≤ top) (ends : top ≤ bottom) (low : address < offset → others) :
    ((start ≤ address ∧ address < offset) ∨ (top ≤ address ∧ address < bottom) ∧ others) ↔
      (start ≤ address ∧ address < bottom) ∧ ¬ (offset ≤ address ∧ address < top) ∧ others := by
  constructor
  · rintro (⟨above, below⟩ | ⟨⟨above, below⟩, holds⟩)
    · exact ⟨⟨above, by omega⟩, by omega, low below⟩
    · exact ⟨⟨by omega, below⟩, by omega, holds⟩
  · rintro ⟨⟨above, below⟩, outside, holds⟩
    by_cases before : address < offset
    · exact .inl ⟨above, before⟩
    · exact .inr ⟨⟨by omega, below⟩, holds⟩

/-- What is left of a HOB: its addresses that lie in none of the regions inside. -/
theorem systemMemory_carved (bounded : descriptor.Bounded)
    (ascending : Ascending descriptor.physicalStart.toNat regions) :
    SystemMemory (carved regions descriptor) address ↔
      descriptor.Contains address ∧
        ∀ region ∈ regions, region.top ≤ descriptor.top → ¬ region.Contains address := by
  induction regions generalizing descriptor with
  | nil => simp [carved, systemMemory_cons bounded.1]
  | cons region rest ih =>
      obtain ⟨behind, small, later⟩ := ascending
      have higher (other : ReservedMemory) (member : other ∈ rest) :
          region.top ≤ other.offset.toNat := later.start_le member
      have wide (other : ReservedMemory) : other.offset.toNat ≤ other.top := Nat.le_add_right _ _
      rw [carved, List.forall_mem_cons]
      split
      · rename_i fits
        rw [fits_iff bounded small behind] at fits
        -- below the region there is none of the regions behind it
        have low : address < region.offset.toNat →
            ∀ other ∈ rest, other.top ≤ descriptor.top → ¬ other.Contains address :=
          fun before other member _ contains =>
            absurd (Nat.le_trans (wide region) (Nat.le_trans (higher other member) contains.1))
              (Nat.not_le.mpr before)
        rw [systemMemory_cons (by exact bounded.1), systemMemory_reserved, contains_below behind,
          imp_iff_right fits]
        refine Iff.trans (or_congr_right ?_) (between_iff behind (wide region) fits low)
        cases more : descriptor.above region with
        | none =>
            have reached := (above_eq_none_iff bounded small).mp more
            refine iff_of_false systemMemory_nil fun left => ?_
            exact absurd (Nat.lt_of_lt_of_le left.1.2 reached) (Nat.not_lt.mpr left.1.1)
        | some above =>
            obtain ⟨_, begins, ends, bounds⟩ := above_spec bounded small more
            rw [← begins] at later
            have left := @ih above bounds later
            rw [ResourceDescriptor.Contains, begins, ends] at left
            exact left
      · rename_i outside
        rw [fits_iff bounded small behind] at outside
        -- the regions behind end above the HOB, too
        have others (other : ReservedMemory) (member : other ∈ rest) :
            ¬ other.top ≤ descriptor.top := fun fits =>
          outside (Nat.le_trans (higher other member) (Nat.le_trans (wide other) fits))
        rw [systemMemory_cons bounded.1, or_iff_left systemMemory_nil]
        exact ⟨fun contains => ⟨contains, fun fits => absurd fits outside,
          fun other member fits => absurd fits (others other member)⟩, fun left => left.1⟩

end Pieces

/-! ## The platform -/

/-- Whatever the earlier HOBs are, and whether or not there is a table, the walk ends. -/
theorem armPlatformGetVirtualMemoryMap_eq (earlier : List U16) (base size fdBase : U64)
    (fdSize : U32) (allocated : Bool) :
    armPlatformGetVirtualMemoryMap earlier base size fdBase fdSize allocated =
      some (earlier.map Hob.other ++ carved reservedMemoryBuffer (systemHob base size),
        if allocated then some (virtualMemoryTable base size fdBase fdSize) else none) := by
  rw [armPlatformGetVirtualMemoryMap, carveLoop_eq earlier (List.drop_zero) rfl (Nat.le_refl _)]
  rfl

theorem reservedMemoryBuffer_ascending : Ascending 0 reservedMemoryBuffer := by
  decide

theorem reservedMemoryBuffer_nonempty :
    ∀ region ∈ reservedMemoryBuffer, 0 < region.size.toNat := by
  decide

theorem systemHob_tested (base size : U64) :
    Flags.test (systemHob base size).resourceAttribute EFI_RESOURCE_ATTRIBUTE_TESTED = true := by
  have constant : (systemHob base size).resourceAttribute = (systemHob 0 0).resourceAttribute :=
    rfl
  rw [constant]
  decide

/-- Behind the beginning of system memory, the first region waits for its HOB for ever. -/
theorem carved_of_base_ne_zero {base : U64} (above : base ≠ 0) (size : U64) :
    carved reservedMemoryBuffer (systemHob base size) =
      [.resourceDescriptor (systemHob base size)] := by
  refine if_neg fun fits => above ?_
  have behind : (0 : U64) ≥ base := fits.2.1
  exact BitVec.le_zero_iff.mp behind

/-- The claim of the walk about its HOBs. -/
def ReservedCarvedOut (earlier : List U16) (base size fdBase : U64) (fdSize : U32)
    (allocated : Bool) : Prop :=
  ∃ hobs table,
    armPlatformGetVirtualMemoryMap earlier base size fdBase fdSize allocated =
      some (hobs, table) ∧ FullyCarved reservedMemoryBuffer base size hobs

theorem fullyCarved_of_base_zero (earlier : List U16) (size : U64) :
    FullyCarved reservedMemoryBuffer 0 size
      (earlier.map Hob.other ++ carved reservedMemoryBuffer (systemHob 0 size)) := by
  have bounded : (systemHob 0 size).Bounded := by
    refine ⟨rfl, ?_⟩
    have top : (systemHob 0 size).top = size.toNat := Nat.zero_add _
    rw [top]
    exact size.isLt
  have memory (address : Nat) := (systemMemory_others earlier).trans
    (@systemMemory_carved address reservedMemoryBuffer (systemHob 0 size) bounded
      reservedMemoryBuffer_ascending)
  have inside (region : ReservedMemory) :
      region.Inside 0 size ↔ region.top ≤ (systemHob 0 size).top :=
    and_iff_right (Nat.zero_le _)
  constructor
  · intro region member within address contains tested
    exact ((memory address).mp tested.systemMemory).2 region member ((inside region).mp within)
      contains
  · intro address
    rw [memory]
    constructor
    · intro contains
      by_cases reserved : ∃ region ∈ reservedMemoryBuffer,
          region.Inside 0 size ∧ region.Contains address
      · exact .inr reserved
      · refine .inl ⟨contains, fun region member within holds => reserved ?_⟩
        exact ⟨region, member, (inside region).mpr within, holds⟩
    · rintro (⟨contains, -⟩ | ⟨region, -, within, contains⟩)
      · exact contains
      · exact ⟨Nat.le_trans within.1 contains.1, Nat.lt_of_lt_of_le contains.2 within.2⟩

/-- Above address zero nothing is carved. -/
theorem fullyCarved_iff_of_base_ne_zero (earlier : List U16) {base : U64} (above : base ≠ 0)
    (size : U64) :
    FullyCarved reservedMemoryBuffer base size
        (earlier.map Hob.other ++ carved reservedMemoryBuffer (systemHob base size)) ↔
      ∀ region ∈ reservedMemoryBuffer, ¬ region.Inside base size := by
  rw [carved_of_base_ne_zero above]
  have member : Hob.resourceDescriptor (systemHob base size) ∈
      earlier.map Hob.other ++ [.resourceDescriptor (systemHob base size)] :=
    List.mem_append_right _ List.mem_cons_self
  constructor
  · rintro ⟨apart, -⟩ region reserved within
    have first : region.Contains region.offset.toNat := by
      exact ⟨Nat.le_refl _,
        Nat.lt_add_of_pos_right (reservedMemoryBuffer_nonempty region reserved)⟩
    exact apart region reserved within region.offset.toNat first
      ⟨systemHob base size, member, rfl, systemHob_tested base size, within.1,
        Nat.lt_of_lt_of_le first.2 within.2⟩
  · intro outside
    refine ⟨fun region reserved within => absurd within (outside region reserved), ?_⟩
    intro address
    rw [systemMemory_others, systemMemory_cons rfl, or_iff_left systemMemory_nil]
    constructor
    · exact .inl
    · rintro (contains | ⟨region, reserved, within, -⟩)
      · exact contains
      · exact absurd within (outside region reserved)

/-- The reserved regions are carved out exactly if system memory begins at address zero, or
no region lies inside. -/
theorem reservedCarvedOut_iff (earlier : List U16) (base size fdBase : U64) (fdSize : U32)
    (allocated : Bool) :
    ReservedCarvedOut earlier base size fdBase fdSize allocated ↔
      base = 0 ∨ ∀ region ∈ reservedMemoryBuffer, ¬ region.Inside base size := by
  have returned : ReservedCarvedOut earlier base size fdBase fdSize allocated ↔
      FullyCarved reservedMemoryBuffer base size
        (earlier.map Hob.other ++ carved reservedMemoryBuffer (systemHob base size)) := by
    rw [ReservedCarvedOut, armPlatformGetVirtualMemoryMap_eq]
    constructor
    · rintro ⟨hobs, table, same, full⟩
      cases same
      exact full
    · exact fun full => ⟨_, _, rfl, full⟩
  rw [returned]
  by_cases zero : base = 0
  · subst zero
    exact iff_of_true (fullyCarved_of_base_zero earlier size) (.inl rfl)
  · rw [fullyCarved_iff_of_base_ne_zero earlier zero, or_iff_right zero]

/-- System memory of 512 MiB that begins behind the first region. -/
theorem not_reservedCarvedOut :
    ¬ ReservedCarvedOut [] 0x00100000 0x1FF00000 0x2C000000 0x00100000 true := by
  rintro ⟨hobs, table, returned, full⟩
  rw [armPlatformGetVirtualMemoryMap_eq] at returned
  cases returned
  have outside := (fullyCarved_iff_of_base_ne_zero [] (by decide) 0x1FF00000).mp full
  exact outside ⟨0x00100000, 0x00100000⟩ (by decide) (by decide)

end HtcLeo.Platform
