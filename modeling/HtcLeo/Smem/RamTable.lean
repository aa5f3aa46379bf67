import HtcLeo.Word.Packed

/-!
# The RAM partition table of the modem

The modem leaves a table of RAM partitions in shared memory, in one of three packed
layouts.  The driver copies it to a table of its own, which has the layout of version 2,
and answers from there.  An assertion that fails prints a message at most, and the driver
goes on.
-/

namespace HtcLeo.Smem

open Packed Memory

/-! ## Layouts -/

/-- The members of `smem_ram_ptable_hdr`. -/
inductive HdrField where
  | magic0
  | magic1
  | version
  | reserved1
  | len
  deriving DecidableEq, Repr

/-- The members of `smem_ram_ptn` and of its later versions. -/
inductive PtnField where
  | name
  | start
  | size
  | attr
  | category
  | domain
  | type
  | numPartitions
  | reserved3
  | reserved4
  | reserved5
  | hwInfo
  | reserved
  | availableLength
  deriving DecidableEq, Repr

def RAM_PART_NAME_LENGTH : Nat := 16
def RAM_NUM_PART_ENTRIES : Nat := 32

/-- `smem_ram_ptn`. -/
def smemRamPtn : Struct PtnField :=
  [(.name, 16), (.start, 4), (.size, 4), (.attr, 4), (.category, 4), (.domain, 4), (.type, 4),
    (.numPartitions, 4), (.reserved3, 4), (.reserved4, 4), (.reserved5, 4)]

/-- `smem_ram_ptn_v1`. -/
def smemRamPtnV1 : Struct PtnField :=
  [(.name, RAM_PART_NAME_LENGTH), (.start, 8), (.size, 8), (.attr, 4), (.category, 4),
    (.domain, 4), (.type, 4), (.numPartitions, 4), (.reserved3, 4), (.reserved4, 4),
    (.reserved5, 4)]

/-- `smem_ram_ptn_v2`. -/
def smemRamPtnV2 : Struct PtnField :=
  [(.name, RAM_PART_NAME_LENGTH), (.start, 8), (.size, 8), (.attr, 4), (.category, 4),
    (.domain, 4), (.type, 4), (.numPartitions, 4), (.hwInfo, 4), (.reserved, 8),
    (.availableLength, 8)]

/-- The header that the three tables share. -/
def smemRamPtableHdr : Struct HdrField :=
  [(.magic0, 4), (.magic1, 4), (.version, 4), (.reserved1, 4), (.len, 4)]

/-- The values in a table; `padding` is `reserved2`, or `buf` in version 0. -/
structure RamTable where
  hdr : HdrField → Nat
  padding : Nat
  parts : Nat → PtnField → Nat

/-- The first entries of a table, one after the other. -/
def encodeParts (s : Struct PtnField) (parts : Nat → PtnField → Nat) : Nat → List U8
  | 0 => []
  | count + 1 => encodeParts s parts count ++ s.encode (parts count)

/-- `smem_ram_ptable`. -/
def smemRamPtable (table : RamTable) : List U8 :=
  smemRamPtableHdr.encode table.hdr ++ encodeParts smemRamPtn table.parts 32 ++
    toBytes 4 table.padding

/-- `smem_ram_ptable_v1` and `smem_ram_ptable_v2`, which differ in the entries. -/
def smemRamPtableWith (s : Struct PtnField) (table : RamTable) : List U8 :=
  smemRamPtableHdr.encode table.hdr ++ toBytes 4 table.padding ++
    encodeParts s table.parts RAM_NUM_PART_ENTRIES

/-- `smem_ram_ptable_v1`. -/
def smemRamPtableV1 : RamTable → List U8 := smemRamPtableWith smemRamPtnV1

/-- `smem_ram_ptable_v2`. -/
def smemRamPtableV2 : RamTable → List U8 := smemRamPtableWith smemRamPtnV2

/-- The offset of `parts` in `smem_ram_ptable`. -/
def partsOffset : Nat := smemRamPtableHdr.size

/-- The offset of `parts` in the later versions, after `reserved2`. -/
def partsOffsetAligned : Nat := smemRamPtableHdr.size + 4

/-- `sizeof(ram_partition_table)`. -/
def ramPartitionTableSize : Nat :=
  partsOffsetAligned + RAM_NUM_PART_ENTRIES * smemRamPtnV2.size

/-! ## The copy -/

def SMEM_RAM_PTABLE_VERSION_0 : Nat := 0
def SMEM_RAM_PTABLE_VERSION_1 : Nat := 1
def SMEM_RAM_PTABLE_VERSION_2 : Nat := 2

/-- The members that the loops of `smem_copy_ram_ptable` copy, in their order. -/
def copiedFields : List PtnField :=
  [.start, .size, .attr, .category, .domain, .type, .numPartitions]

/-- The loop over the entries of a table with entries `s` at `parts`. -/
def copyParts (s : Struct PtnField) (parts : Nat) (buf : Bytes) : Nat → Bytes → Bytes
  | 0, ptable => ptable
  | pentry + 1, ptable =>
      smemRamPtnV2.assign (partsOffsetAligned + pentry * smemRamPtnV2.size)
        (s.get buf (parts + pentry * s.size)) copiedFields (copyParts s parts buf pentry ptable)

/-- Of a table of an unknown version, on which the assertion fails, only the header is copied. -/
def smemCopyRamPtable (buf ptable : Bytes) : Bytes :=
  let ptable := copyRange buf ptable 0 0 smemRamPtableHdr.size
  let version := smemRamPtableHdr.get ptable 0 .version
  let len := smemRamPtableHdr.get buf 0 .len
  if version = SMEM_RAM_PTABLE_VERSION_2 then
    copyRange buf ptable 0 0 ramPartitionTableSize
  else if version = SMEM_RAM_PTABLE_VERSION_1 then
    copyParts smemRamPtnV1 partsOffsetAligned buf len ptable
  else if version = SMEM_RAM_PTABLE_VERSION_0 then
    copyParts smemRamPtn partsOffset buf len ptable
  else ptable

/-! ## The accessors -/

/-- `smem_get_ram_ptable_entry`. -/
def smemGetRamPtableEntry (ptable ptn : Bytes) (entry : Nat) : Bytes :=
  copyRange ptable ptn (partsOffsetAligned + entry * smemRamPtnV2.size) 0 smemRamPtnV2.size

/-- `smem_get_ram_ptable_len`. -/
def smemGetRamPtableLen (ptable : Bytes) : Nat :=
  smemRamPtableHdr.get ptable 0 .len

/-- What a partition says. -/
structure RamPartition where
  start : U64
  size : U64
  attr : U32
  category : U32
  domain : U32
  type : U32
  numPartitions : U32
  deriving DecidableEq, Repr

/-- The members of a `ram_partition`. -/
def ramPartition (ptn : Bytes) : RamPartition where
  start := BitVec.ofNat 64 (smemRamPtnV2.get ptn 0 .start)
  size := BitVec.ofNat 64 (smemRamPtnV2.get ptn 0 .size)
  attr := BitVec.ofNat 32 (smemRamPtnV2.get ptn 0 .attr)
  category := BitVec.ofNat 32 (smemRamPtnV2.get ptn 0 .category)
  domain := BitVec.ofNat 32 (smemRamPtnV2.get ptn 0 .domain)
  type := BitVec.ofNat 32 (smemRamPtnV2.get ptn 0 .type)
  numPartitions := BitVec.ofNat 32 (smemRamPtnV2.get ptn 0 .numPartitions)

def SYS_MEMORY : U32 := 1
def IMEM : U32 := 5
def SDRAM : U32 := 0xE

/-- The search of `get_ddr_start` from an index on.  The assertion on the alignment decides
nothing. -/
def ddrSearch (ptable : Bytes) : Nat → Nat → Bytes → U32
  | 0, _, _ => 0
  | left + 1, i, ptn =>
      let ptn := smemGetRamPtableEntry ptable ptn i
      let entry := ramPartition ptn
      if entry.type = SYS_MEMORY ∧ (entry.category = SDRAM ∨ entry.category = IMEM) then
        entry.start.setWidth 32
      else ddrSearch ptable left (i + 1) ptn

/-- `ptn` is what the uninitialized local variable holds. -/
def getDdrStart (ptable ptn : Bytes) : U32 :=
  ddrSearch ptable (smemGetRamPtableLen ptable) 0 ptn

end HtcLeo.Smem
