import HtcLeo.Smem.RamTable

/-!
# The versions of the RAM partition table mean the same

A list of partitions can be laid out in each of the three versions.  Whatever the version
and whatever stands in the other bytes, the driver's copy has the length and the entries
of the list, and so the same start of the RAM is found.
-/

namespace HtcLeo.Smem

open Packed Memory

/-! ## Laying out a list of partitions -/

/-- The versions of the RAM table. -/
inductive Version where
  | v0
  | v1
  | v2
  deriving DecidableEq, Repr

namespace Version

/-- The number in the header. -/
def number : Version → Nat
  | v0 => SMEM_RAM_PTABLE_VERSION_0
  | v1 => SMEM_RAM_PTABLE_VERSION_1
  | v2 => SMEM_RAM_PTABLE_VERSION_2

/-- The layout of an entry. -/
def ptn : Version → Struct PtnField
  | v0 => smemRamPtn
  | v1 => smemRamPtnV1
  | v2 => smemRamPtnV2

/-- The offset of the entries. -/
def parts : Version → Nat
  | v0 => partsOffset
  | v1 | v2 => partsOffsetAligned

/-- The bytes of a table. -/
def encode : Version → RamTable → List U8
  | v0 => smemRamPtable
  | v1 => smemRamPtableV1
  | v2 => smemRamPtableV2

/-- The start and the size fit the members of the version. -/
def Fits (version : Version) (partition : RamPartition) : Prop :=
  partition.start.toNat < 256 ^ version.ptn.width .start ∧
    partition.size.toNat < 256 ^ version.ptn.width .size

end Version

/-- The values of the members; `others` are those that no version means anything by. -/
def RamPartition.values (partition : RamPartition) (others : PtnField → Nat) : PtnField → Nat
  | .start => partition.start.toNat
  | .size => partition.size.toNat
  | .attr => partition.attr.toNat
  | .category => partition.category.toNat
  | .domain => partition.domain.toNat
  | .type => partition.type.toNat
  | .numPartitions => partition.numPartitions.toNat
  | other => others other

/-- A table of a version that lists the partitions, with anything else as in `others`. -/
def RamTable.listing (others : RamTable) (version : Version) (partitions : List RamPartition) :
    RamTable where
  hdr
    | .version => version.number
    | .len => partitions.length
    | other => others.hdr other
  padding := others.padding
  parts i :=
    match partitions[i]? with
    | some partition => partition.values (others.parts i)
    | none => others.parts i

/-- What `get_ddr_start` is to find. -/
def ddrStart : List RamPartition → U32
  | [] => 0
  | partition :: rest =>
      if partition.type = SYS_MEMORY ∧
          (partition.category = SDRAM ∨ partition.category = IMEM) then
        partition.start.setWidth 32
      else ddrStart rest

/-! ## The layouts -/

section Layout

variable {s : Struct PtnField} {parts : Nat → PtnField → Nat} {buf : Bytes} {place count i : Nat}

theorem length_encodeParts : (encodeParts s parts count).length = count * s.size := by
  induction count with
  | zero => rw [Nat.zero_mul]; rfl
  | succ count ih =>
      rw [encodeParts, List.length_append, ih, Struct.length_encode, Nat.succ_mul]

theorem holds_part (holds : Holds buf place (encodeParts s parts count)) (below : i < count) :
    Holds buf (place + i * s.size) (s.encode (parts i)) := by
  induction count with
  | zero => exact absurd below (Nat.not_lt_zero i)
  | succ count ih =>
      rw [encodeParts, holds_append, length_encodeParts] at holds
      rcases Nat.lt_succ_iff_lt_or_eq.mp below with earlier | rfl
      · exact ih holds.1 earlier
      · exact holds.2

theorem holds_smemRamPtable {table : RamTable} (holds : Holds buf 0 (smemRamPtable table)) :
    Holds buf 0 (smemRamPtableHdr.encode table.hdr) ∧
      Holds buf partsOffset (encodeParts smemRamPtn table.parts RAM_NUM_PART_ENTRIES) := by
  simp only [smemRamPtable, holds_append, Struct.length_encode, Nat.zero_add] at holds
  exact holds.1

theorem holds_smemRamPtableWith {table : RamTable}
    (holds : Holds buf 0 (smemRamPtableWith s table)) :
    Holds buf 0 (smemRamPtableHdr.encode table.hdr) ∧
      Holds buf partsOffsetAligned (encodeParts s table.parts RAM_NUM_PART_ENTRIES) := by
  simp only [smemRamPtableWith, holds_append, List.length_append, Struct.length_encode,
    length_toBytes, Nat.zero_add] at holds
  rcases holds with ⟨⟨hdr, -⟩, parts⟩
  exact ⟨hdr, parts⟩

theorem Version.holds_table {version : Version} {table : RamTable}
    (holds : Holds buf 0 (version.encode table)) :
    Holds buf 0 (smemRamPtableHdr.encode table.hdr) ∧
      Holds buf version.parts (encodeParts version.ptn table.parts RAM_NUM_PART_ENTRIES) := by
  cases version with
  | v0 => exact holds_smemRamPtable holds
  | v1 => exact holds_smemRamPtableWith holds
  | v2 => exact holds_smemRamPtableWith holds

end Layout

/-- Every copied member is at least as wide in the driver's table. -/
theorem Version.width_le (version : Version) :
    ∀ f ∈ copiedFields, version.ptn.width f ≤ smemRamPtnV2.width f := by
  cases version <;> decide

theorem Version.Fits.values_lt {version : Version} {partition : RamPartition}
    (fits : version.Fits partition) (others : PtnField → Nat) :
    ∀ f ∈ copiedFields, partition.values others f < 256 ^ version.ptn.width f := by
  have words : ∀ f ∈ [PtnField.attr, .category, .domain, .type, .numPartitions],
      version.ptn.width f = 4 := by
    cases version <;> decide
  simp only [List.forall_mem_cons] at words
  rcases words with ⟨attr, category, domain, type, numPartitions, -⟩
  simp only [copiedFields, List.forall_mem_cons, attr, category, domain, type, numPartitions]
  exact ⟨fits.1, fits.2, partition.attr.isLt, partition.category.isLt, partition.domain.isLt,
    partition.type.isLt, partition.numPartitions.isLt,
    fun _ member => absurd member List.not_mem_nil⟩

/-! ## The copy -/

section Copy

variable {s : Struct PtnField} {parts count i : Nat} {buf ptable : Bytes}

/-- The place of an entry in the driver's table. -/
def entryPlace (i : Nat) : Nat :=
  partsOffsetAligned + i * smemRamPtnV2.size

theorem entryPlace_le {j : Nat} (before : i < j) :
    entryPlace i + smemRamPtnV2.size ≤ entryPlace j := by
  have more := Nat.mul_le_mul_right smemRamPtnV2.size before
  rw [Nat.succ_mul] at more
  unfold entryPlace
  omega

theorem copyParts_outside {place : Nat}
    (outside : place < entryPlace 0 ∨ entryPlace count ≤ place) :
    copyParts s parts buf count ptable place = ptable place := by
  induction count with
  | zero => rfl
  | succ count ih =>
      have next := entryPlace_le (Nat.lt_add_one count)
      have first : entryPlace 0 ≤ entryPlace count := by
        unfold entryPlace
        omega
      rw [copyParts, Struct.assign_outside, ih (by omega)]
      change place < entryPlace count ∨ entryPlace count + _ ≤ place
      omega

theorem get_copyParts {f : PtnField} (wide : ∀ f ∈ copiedFields, s.width f ≤ smemRamPtnV2.width f)
    (copied : f ∈ copiedFields) (below : i < count) :
    smemRamPtnV2.get (copyParts s parts buf count ptable) (entryPlace i) f =
      s.get buf (parts + i * s.size) f := by
  induction count with
  | zero => exact absurd below (Nat.not_lt_zero i)
  | succ count ih =>
      rcases Nat.lt_succ_iff_lt_or_eq.mp below with earlier | rfl
      · rw [← ih earlier, copyParts]
        apply Struct.get_congr
        intro byte inside
        apply Struct.assign_outside
        left
        have before := entryPlace_le earlier
        change _ < entryPlace count
        omega
      · apply Struct.get_assign
        · exact fun f member => Nat.lt_of_lt_of_le load_lt
            (Nat.pow_le_pow_right (by decide) (wide f member))
        · exact .inl copied

/-- A copy of at least the header, as a whole. -/
theorem get_copyRange {F : Type} [DecidableEq F] {t : Struct F} {f : F} {place bytes : Nat}
    (inside : place + t.size ≤ bytes) :
    t.get (copyRange buf ptable 0 0 bytes) place f = t.get buf place f := by
  apply Struct.get_congr
  intro byte below
  have copied := @copyRange_inside _ buf ptable 0 0 bytes (place + byte) (by omega)
  rwa [Nat.zero_add] at copied

/-- The loop leaves the header alone. -/
theorem smemGetRamPtableLen_copyParts :
    smemGetRamPtableLen (copyParts s parts buf count ptable) = smemGetRamPtableLen ptable := by
  apply Struct.get_congr
  intro byte (below : byte < 20)
  apply copyParts_outside
  left
  rw [Nat.zero_add]
  exact Nat.lt_of_lt_of_le below (by decide)

theorem smemGetRamPtableLen_copyRange {bytes : Nat} (whole : smemRamPtableHdr.size ≤ bytes) :
    smemGetRamPtableLen (copyRange buf ptable 0 0 bytes) = smemRamPtableHdr.get buf 0 .len :=
  get_copyRange (by rwa [Nat.zero_add])

/-- The copy of a table of at most 32 entries has its length, and the members of its entries
as the version's layout holds them. -/
theorem smemCopyRamPtable_spec {version : Version} {table : RamTable}
    (holds : Holds buf 0 (version.encode table)) (numbered : table.hdr .version = version.number)
    (few : table.hdr .len ≤ RAM_NUM_PART_ENTRIES) :
    smemGetRamPtableLen (smemCopyRamPtable buf ptable) = table.hdr .len ∧
      ∀ i < table.hdr .len, ∀ f ∈ copiedFields,
        smemRamPtnV2.get (smemCopyRamPtable buf ptable) (entryPlace i) f =
          table.parts i f % 256 ^ version.ptn.width f := by
  rcases version.holds_table holds with ⟨hdr, entries⟩
  have version_seen : smemRamPtableHdr.get buf 0 .version = version.number := by
    rw [Struct.get_of_holds hdr, numbered]
    cases version <;> rfl
  have len_seen : smemRamPtableHdr.get buf 0 .len = table.hdr .len := by
    rw [Struct.get_of_holds hdr]
    exact Nat.mod_eq_of_lt (Nat.lt_of_le_of_lt few (by decide))
  have copied_version : smemRamPtableHdr.get (copyRange buf ptable 0 0 smemRamPtableHdr.size) 0
      .version = version.number := by
    rw [get_copyRange (Nat.le_of_eq (Nat.zero_add _)), version_seen]
  have entry_seen : ∀ i < table.hdr .len, ∀ f : PtnField,
      version.ptn.get buf (version.parts + i * version.ptn.size) f =
        table.parts i f % 256 ^ version.ptn.width f :=
    fun i below f => Struct.get_of_holds (holds_part entries (Nat.lt_of_lt_of_le below few))
  have looped : ∀ i < table.hdr .len, ∀ f ∈ copiedFields,
      smemRamPtnV2.get (copyParts version.ptn version.parts buf (table.hdr .len)
        (copyRange buf ptable 0 0 smemRamPtableHdr.size)) (entryPlace i) f =
        table.parts i f % 256 ^ version.ptn.width f := by
    intro i below f copied
    rw [get_copyParts version.width_le copied below, entry_seen i below]
  have len_looped : smemGetRamPtableLen (copyParts version.ptn version.parts buf (table.hdr .len)
      (copyRange buf ptable 0 0 smemRamPtableHdr.size)) = table.hdr .len := by
    rw [smemGetRamPtableLen_copyParts, smemGetRamPtableLen_copyRange (Nat.le_refl _), len_seen]
  unfold smemCopyRamPtable
  dsimp only
  rw [copied_version, len_seen]
  cases version with
  | v0 => exact ⟨len_looped, looped⟩
  | v1 => exact ⟨len_looped, looped⟩
  | v2 =>
      refine ⟨?_, fun i below f _ => ?_⟩
      · exact (smemGetRamPtableLen_copyRange (by decide)).trans len_seen
      · have inside : entryPlace i + smemRamPtnV2.size ≤ ramPartitionTableSize :=
          entryPlace_le (Nat.lt_of_lt_of_le below few)
        rw [← entry_seen i below]
        exact get_copyRange inside

end Copy

/-! ## The answers -/

/-- An entry of the driver's table, by the values of its members. -/
theorem ramPartition_entry {ptable ptn : Bytes} {i : Nat} {partition : RamPartition}
    {others : PtnField → Nat} (members : ∀ f ∈ copiedFields,
      smemRamPtnV2.get ptable (entryPlace i) f = partition.values others f) :
    ramPartition (smemGetRamPtableEntry ptable ptn i) = partition := by
  have seen : ∀ f, smemRamPtnV2.get (smemGetRamPtableEntry ptable ptn i) 0 f =
      smemRamPtnV2.get ptable (entryPlace i) f := by
    intro f
    apply Struct.get_congr
    intro byte below
    exact copyRange_inside below
  simp only [copiedFields, List.forall_mem_cons] at members
  rcases members with ⟨start, size, attr, category, domain, type, numPartitions, -⟩
  simp only [ramPartition, seen, start, size, attr, category, domain, type, numPartitions,
    RamPartition.values, BitVec.ofNat_toNat, BitVec.setWidth_eq]

theorem ddrSearch_eq {ptable : Bytes} {partitions : List RamPartition}
    (entries : ∀ i (below : i < partitions.length) ptn,
      ramPartition (smemGetRamPtableEntry ptable ptn i) = partitions[i])
    (left i : Nat) (ptn : Bytes) (rest : left + i = partitions.length) :
    ddrSearch ptable left i ptn = ddrStart (partitions.drop i) := by
  induction left generalizing i ptn with
  | zero => rw [ddrSearch, List.drop_of_length_le (by omega)]; rfl
  | succ left ih =>
      have below : i < partitions.length := by omega
      rw [ddrSearch, List.drop_eq_getElem_cons below, ddrStart, entries i below]
      rw [ih _ _ (by omega)]

/-- Every version of a table of the partitions is read back as the partitions. -/
theorem smemCopyRamPtable_listing (version : Version) (others : RamTable)
    (partitions : List RamPartition) (few : partitions.length ≤ RAM_NUM_PART_ENTRIES)
    (fit : ∀ partition ∈ partitions, version.Fits partition) {buf : Bytes}
    (holds : Holds buf 0 (version.encode (others.listing version partitions)))
    (ptable : Bytes) :
    let after := smemCopyRamPtable buf ptable
    smemGetRamPtableLen after = partitions.length ∧
      (∀ i (below : i < partitions.length) ptn,
        ramPartition (smemGetRamPtableEntry after ptn i) = partitions[i]) ∧
      ∀ ptn, getDdrStart after ptn = ddrStart partitions := by
  intro after
  rcases @smemCopyRamPtable_spec buf ptable _ _ holds rfl few with ⟨len, members⟩
  have entries : ∀ i (below : i < partitions.length) ptn,
      ramPartition (smemGetRamPtableEntry after ptn i) = partitions[i] := by
    intro i below ptn
    apply @ramPartition_entry after ptn i partitions[i] (others.parts i)
    intro f f_copied
    have listed : (others.listing version partitions).parts i =
        partitions[i].values (others.parts i) := by
      simp only [RamTable.listing, List.getElem?_eq_getElem below]
    rw [members i below f f_copied, listed]
    exact Nat.mod_eq_of_lt ((fit _ (List.getElem_mem below)).values_lt _ f f_copied)
  refine ⟨len, entries, fun ptn => ?_⟩
  have count : smemGetRamPtableLen after = partitions.length := len
  rw [getDdrStart, count]
  exact ddrSearch_eq entries _ 0 ptn rfl

/-! ## A table of two partitions -/

/-- The modem's own RAM, and that of the applications. -/
def leoPartitions : List RamPartition :=
  [⟨0, 0x1000000, 0xFFFFFFFF, SDRAM, 2, 5, 0⟩, ⟨0x11800000, 0x1E800000, 0xFFFFFFFF, SDRAM, 1, 1, 0⟩]

/-- Nothing but ones around the partitions. -/
def ones : RamTable := ⟨fun _ => 0xFFFFFFFF, 0xFFFFFFFF, fun _ _ => 2 ^ 128 - 1⟩

theorem smemCopyRamPtable_listing_leo :
    let after := smemCopyRamPtable (ofList (Version.v0.encode (ones.listing .v0 leoPartitions)))
      fun _ => 0
    smemGetRamPtableLen after = leoPartitions.length ∧
      (∀ i (below : i < leoPartitions.length) ptn,
        ramPartition (smemGetRamPtableEntry after ptn i) = leoPartitions[i]) ∧
      ∀ ptn, getDdrStart after ptn = ddrStart leoPartitions := by
  apply smemCopyRamPtable_listing .v0 ones leoPartitions
  · decide
  · simp only [leoPartitions, List.forall_mem_cons]
    exact ⟨⟨by decide, by decide⟩, ⟨by decide, by decide⟩,
      fun _ member => absurd member List.not_mem_nil⟩
  · exact holds_ofList _

end HtcLeo.Smem
