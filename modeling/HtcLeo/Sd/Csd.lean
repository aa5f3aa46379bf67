import Mathlib.Data.Fin.VecNotation
import HtcLeo.Sd.Block

/-!
# The CSD register

`mmc_decode_csd` fills the device structure from the CSD, and `SdCardInitialize`
copies the number of blocks and the block size into `gMMCHSMedia`.
-/

namespace HtcLeo.Sd

/-! ## Fields of a response -/

/-- The field of `size` bits from bit `start` of a response, whose first word holds the
most significant bits. -/
def unstuffBits (resp : Int → U32) (start size : Nat) : U32 :=
  let mask : U32 := (if size < 32 then (1 : U32) <<< size else 0) - 1
  let off : Int := 3 - (start / 32 : Nat)
  let shft := start % 32
  let res := resp off >>> shft
  let res := if 32 < size + shft then res ||| (resp (off - 1) <<< ((32 - shft) % 32)) else res
  res &&& mask

/-- The response as one number. -/
def register (resp : Int → U32) : BitVec 128 :=
  resp 0 ++ resp 1 ++ resp 2 ++ resp 3

/-- A bit of the register is a bit of one of its words. -/
theorem register_getLsbD (resp : Int → U32) {i : Nat} (inside : i < 128) :
    (register resp).getLsbD i = (resp (3 - (i / 32 : Nat))).getLsbD (i % 32) := by
  simp only [register, BitVec.getLsbD_append]
  have word : i / 32 = 0 ∨ i / 32 = 1 ∨ i / 32 = 2 ∨ i / 32 = 3 := by omega
  rcases word with word | word | word | word
  · rw [if_pos (by omega), word, show i % 32 = i by omega]
    rfl
  · rw [if_neg (by omega), if_pos (by omega), word, show i % 32 = i - 32 by omega]
    rfl
  · rw [if_neg (by omega), if_neg (by omega), if_pos (by omega), word,
      show i % 32 = i - 32 - 32 by omega]
    rfl
  · rw [if_neg (by omega), if_neg (by omega), if_neg (by omega), word,
      show i % 32 = i - 32 - 32 - 32 by omega]
    rfl

theorem mask_getLsbD {size : Nat} (small : size ≤ 32) (i : Nat) :
    ((if size < 32 then (1 : U32) <<< size else 0) - 1).getLsbD i = decide (i < size) := by
  have value : ((if size < 32 then (1 : U32) <<< size else 0) - 1).toNat = 2 ^ size - 1 := by
    have positive : 0 < 2 ^ size := Nat.two_pow_pos size
    split
    · have below : 2 ^ size < 2 ^ 32 := Nat.pow_lt_pow_right (by decide) ‹_›
      have one : (1 : U32).toNat = 1 := rfl
      rw [BitVec.toNat_sub, BitVec.toNat_shiftLeft, Nat.shiftLeft_eq, one]
      omega
    · have full : size = 32 := by omega
      rw [full]
      rfl
  rw [BitVec.getLsbD, value, Nat.testBit_two_pow_sub_one]

theorem unstuffBits_getLsbD (resp : Int → U32) {start size : Nat} (small : size ≤ 32)
    (inside : start + size ≤ 128) {i : Nat} (below : i < 32) :
    (unstuffBits resp start size).getLsbD i =
      (decide (i < size) && (register resp).getLsbD (start + i)) := by
  rw [unstuffBits, BitVec.getLsbD_and, mask_getLsbD small, Bool.and_comm]
  by_cases field : i < size
  · simp only [field, decide_true, Bool.true_and]
    rw [register_getLsbD resp (by omega)]
    by_cases straddles : 32 < size + start % 32
    · rw [if_pos straddles, BitVec.getLsbD_or, BitVec.getLsbD_ushiftRight,
        BitVec.getLsbD_shiftLeft]
      by_cases low : start % 32 + i < 32
      · -- A bit of the lower word, which the upper one is shifted past.
        rw [show (start + i) / 32 = start / 32 by omega,
          show (start + i) % 32 = start % 32 + i by omega]
        simp [show i < (32 - start % 32) % 32 by omega]
      · -- A bit of the upper word.
        have past : ¬ i < (32 - start % 32) % 32 := by omega
        have word : (3 : Int) - (start / 32 : Nat) - 1 = 3 - (start / 32 + 1 : Nat) := by omega
        rw [BitVec.getLsbD_of_ge _ _ (by omega : 32 ≤ start % 32 + i),
          show ((start + i) / 32 : Nat) = start / 32 + 1 by omega,
          show (start + i) % 32 = i - (32 - start % 32) % 32 by omega, word]
        simp [below, past]
    · rw [if_neg straddles, BitVec.getLsbD_ushiftRight,
        show (start + i) / 32 = start / 32 by omega,
        show (start + i) % 32 = start % 32 + i by omega]
  · simp [field]

/-- `UNSTUFF_BITS` extracts the field that its arguments name. -/
theorem unstuffBits_toNat (resp : Int → U32) {start size : Nat} (small : size ≤ 32)
    (inside : start + size ≤ 128) :
    (unstuffBits resp start size).toNat = (register resp).toNat / 2 ^ start % 2 ^ size := by
  apply Nat.eq_of_testBit_eq
  intro i
  rw [Nat.testBit_mod_two_pow, Nat.testBit_div_two_pow]
  by_cases below : i < 32
  · have bit := unstuffBits_getLsbD resp small inside below
    rw [BitVec.getLsbD, BitVec.getLsbD] at bit
    rw [bit, Nat.add_comm]
  · rw [Nat.testBit_lt_two_pow, decide_eq_false, Bool.false_and]
    · omega
    · exact Nat.lt_of_lt_of_le (BitVec.isLt _) (Nat.pow_le_pow_right (by decide) (by omega))

/-! ## The words that are read -/

/-- A word of a response; an index that is not in 0..3 has none. -/
def wordAt (resp : Fin 4 → U32) (i : Int) : Option U32 :=
  if inside : 0 ≤ i ∧ i < 4 then some (resp ⟨i.toNat, by omega⟩) else none

/-- `unstuffBits` where every read of a word can fail. -/
def unstuffBitsFrom (read : Int → Option U32) (start size : Nat) : Option U32 := do
  let mask : U32 := (if size < 32 then (1 : U32) <<< size else 0) - 1
  let off : Int := 3 - (start / 32 : Nat)
  let shft := start % 32
  let word ← read off
  let res := word >>> shft
  let res ←
    if 32 < size + shft then do
      let word ← read (off - 1)
      pure (res ||| (word <<< ((32 - shft) % 32)))
    else pure res
  return res &&& mask

section Words

variable {resp : Int → U32} {read : Int → Option U32} {start size : Nat}

/-- The second word is read only where the field straddles two words. -/
theorem unstuffBitsFrom_eq
    (first : read (3 - (start / 32 : Nat)) = some (resp (3 - (start / 32 : Nat))))
    (second : 32 < size + start % 32 →
      read (3 - (start / 32 : Nat) - 1) = some (resp (3 - (start / 32 : Nat) - 1))) :
    unstuffBitsFrom read start size = some (unstuffBits resp start size) := by
  rw [unstuffBitsFrom, unstuffBits]
  dsimp only
  rw [first, Option.bind_eq_bind, Option.bind_some]
  by_cases straddles : 32 < size + start % 32
  · rw [second straddles, if_pos straddles, if_pos straddles]
    rfl
  · rw [if_neg straddles, if_neg straddles]
    rfl

theorem wordAt_eq (resp : Fin 4 → U32) {i : Int} (above : 0 ≤ i) (below : i < 4) :
    wordAt resp i = some ((wordAt resp i).getD 0) := by
  rw [wordAt, dif_pos ⟨above, below⟩]
  rfl

end Words

/-- A field of a response is read from words with an index in 0..3 alone, whether it lies in
one of them or straddles two. -/
theorem unstuffBitsFrom_wordAt (resp : Fin 4 → U32) {start size : Nat} (positive : 1 ≤ size)
    (small : size ≤ 32) (inside : start + size ≤ 128) :
    ∃ value, unstuffBitsFrom (wordAt resp) start size = some value ∧
      value.toNat =
        (resp 0 ++ resp 1 ++ resp 2 ++ resp 3).toNat / 2 ^ start % 2 ^ size := by
  have read : unstuffBitsFrom (wordAt resp) start size =
      some (unstuffBits (fun i => (wordAt resp i).getD 0) start size) :=
    unstuffBitsFrom_eq (wordAt_eq resp (by omega) (by omega))
      fun straddles => wordAt_eq resp (by omega) (by omega)
  exact ⟨_, read, unstuffBits_toNat _ small inside⟩

/-- Twelve bits of which the upper word has ten. -/
theorem unstuffBitsFrom_wordAt_straddling :
    ∃ value, unstuffBitsFrom (wordAt ![0, 0x155, 0x80000000, 0]) 62 12 = some value ∧
      value.toNat =
        ((0 : U32) ++ (0x155 : U32) ++ (0x80000000 : U32) ++ (0 : U32)).toNat / 2 ^ 62 % 2 ^ 12 :=
  unstuffBitsFrom_wordAt ![0, 0x155, 0x80000000, 0] (by decide) (by decide) (by decide)

/-! ## Decoding -/

/-- The kinds of cards. -/
inductive IfType where
  | unknown
  | sd
  | mmc
  deriving DecidableEq, Repr

/-- The functions that the device structure points to. -/
inductive BlockFunction where
  | mmcBread
  | mmcBwrite
  deriving DecidableEq, Repr

/-- The fields of `block_dev_desc_t` that the driver looks at.  A null pointer is `none`. -/
structure BlockDev where
  ifType : IfType
  lba : U32
  blksz : U32
  blockRead : Option BlockFunction
  blockWrite : Option BlockFunction
  deriving DecidableEq, Repr

/-- Whether a structure version is known: for an SD card it says whether the card has
high capacity, everything else becomes an MMC card without. -/
def acceptCsd (ifType : IfType) (csdStruct : U32) : Option (Bool × IfType) :=
  if ifType = .sd then
    if csdStruct = 0 then some (false, .sd)
    else if csdStruct = 1 then some (true, .sd)
    else none
  else if csdStruct ≠ 1 ∧ csdStruct ≠ 2 then none
  else some (false, .mmc)

/-- The device structure as an accepted CSD fills it. -/
def filledDev (resp : Int → U32) (highCapacity : Bool) (ifType : IfType) : BlockDev where
  ifType
  blksz := (1 : U32) <<< unstuffBits resp 80 4
  lba :=
    if highCapacity = false then
      (1 + unstuffBits resp 62 12) * ((1 : U32) <<< (unstuffBits resp 47 3 + 2))
    else (1 + unstuffBits resp 48 16) * 1024
  blockRead := some .mmcBread
  blockWrite := some .mmcBwrite

/-- With an unknown structure version the device structure stays as it is. -/
def mmcDecodeCsd (resp : Int → U32) (dev : BlockDev) : BlockDev :=
  match acceptCsd dev.ifType (unstuffBits resp 126 2) with
  | none => dev
  | some (highCapacity, ifType) => filledDev resp highCapacity ifType

/-- What `SdCardInitialize` copies into `gMMCHSMedia`. -/
def publish (dev : BlockDev) : Media where
  lastBlock := dev.lba.setWidth 64
  blockSize := dev.blksz

/-! ## What the fields mean -/

/-- A field of the register. -/
def csdField (resp : Int → U32) (start size : Nat) : Nat :=
  (register resp).toNat / 2 ^ start % 2 ^ size

/-- The structure version of the CSD. -/
def csdVersion (resp : Int → U32) : Nat := csdField resp 126 2

/-- The read block length of the CSD is 2 to this power. -/
def readBlLen (resp : Int → U32) : Nat := csdField resp 80 4

/-- The bytes of the card, as its CSD encodes them. -/
def csdCapacity (resp : Int → U32) : Nat :=
  if csdVersion resp = 0 then
    (csdField resp 62 12 + 1) * 2 ^ (csdField resp 47 3 + 2) * 2 ^ readBlLen resp
  else (csdField resp 48 22 + 1) * (512 * 1024)

theorem csdField_lt (resp : Int → U32) (start size : Nat) : csdField resp start size < 2 ^ size :=
  Nat.mod_lt _ (Nat.two_pow_pos size)

theorem unstuffBits_eq_csdField (resp : Int → U32) {start size : Nat} (small : size ≤ 32)
    (inside : start + size ≤ 128) :
    (unstuffBits resp start size).toNat = csdField resp start size :=
  unstuffBits_toNat resp small inside

theorem csdStruct_eq_iff (resp : Int → U32) (version : U32) :
    unstuffBits resp 126 2 = version ↔ csdVersion resp = version.toNat := by
  rw [← BitVec.toNat_inj, unstuffBits_eq_csdField resp (by decide) (by decide), csdVersion]

section Decode

variable {resp : Int → U32} {dev : BlockDev}

theorem mmcDecodeCsd_zero (sd : dev.ifType = .sd) (version : csdVersion resp = 0) :
    mmcDecodeCsd resp dev = filledDev resp false .sd := by
  have zero := (csdStruct_eq_iff resp 0).mpr version
  rw [mmcDecodeCsd, acceptCsd, if_pos sd, if_pos zero]

theorem mmcDecodeCsd_one (sd : dev.ifType = .sd) (version : csdVersion resp = 1) :
    mmcDecodeCsd resp dev = filledDev resp true .sd := by
  have one := (csdStruct_eq_iff resp 1).mpr version
  rw [mmcDecodeCsd, acceptCsd, if_pos sd, if_neg (by rw [one]; decide), if_pos one]

theorem mmcDecodeCsd_unknown (sd : dev.ifType = .sd) (version : 2 ≤ csdVersion resp) :
    mmcDecodeCsd resp dev = dev := by
  have notZero : unstuffBits resp 126 2 ≠ 0 := fun zero => by
    have := (csdStruct_eq_iff resp 0).mp zero
    simp at this
    omega
  have notOne : unstuffBits resp 126 2 ≠ 1 := fun one => by
    have := (csdStruct_eq_iff resp 1).mp one
    simp at this
    omega
  rw [mmcDecodeCsd, acceptCsd, if_pos sd, if_neg notZero, if_neg notOne]

theorem toNat_one_shiftLeft {shift : U32} (small : shift.toNat < 32) :
    ((1 : U32) <<< shift).toNat = 2 ^ shift.toNat := by
  have below : 2 ^ shift.toNat < 2 ^ 32 := Nat.pow_lt_pow_right (by decide) small
  have one : (1 : U32).toNat = 1 := rfl
  rw [BitVec.shiftLeft_eq', BitVec.toNat_shiftLeft, Nat.shiftLeft_eq, one, Nat.one_mul,
    Nat.mod_eq_of_lt below]

theorem filledDev_blksz (resp : Int → U32) (highCapacity : Bool) (ifType : IfType) :
    (filledDev resp highCapacity ifType).blksz.toNat = 2 ^ readBlLen resp := by
  have field : (unstuffBits resp 80 4).toNat = readBlLen resp :=
    unstuffBits_eq_csdField resp (by decide) (by decide)
  have small : readBlLen resp < 2 ^ 4 := csdField_lt resp 80 4
  rw [filledDev, toNat_one_shiftLeft (by omega), field]

theorem filledDev_lba_standard (resp : Int → U32) (ifType : IfType) :
    (filledDev resp false ifType).lba.toNat =
      (csdField resp 62 12 + 1) * 2 ^ (csdField resp 47 3 + 2) := by
  have size : (unstuffBits resp 62 12).toNat = csdField resp 62 12 :=
    unstuffBits_eq_csdField resp (by decide) (by decide)
  have mult : (unstuffBits resp 47 3).toNat = csdField resp 47 3 :=
    unstuffBits_eq_csdField resp (by decide) (by decide)
  have sizeSmall : csdField resp 62 12 < 2 ^ 12 := csdField_lt ..
  have multSmall : csdField resp 47 3 < 2 ^ 3 := csdField_lt ..
  have one : (1 : U32).toNat = 1 := rfl
  have two : (2 : U32).toNat = 2 := rfl
  have shift : (unstuffBits resp 47 3 + 2).toNat = csdField resp 47 3 + 2 := by
    rw [BitVec.toNat_add, mult, two]
    omega
  have powerSmall : 2 ^ (csdField resp 47 3 + 2) ≤ 2 ^ 9 :=
    Nat.pow_le_pow_right (by decide) (by omega)
  have productSmall : (csdField resp 62 12 + 1) * 2 ^ (csdField resp 47 3 + 2) ≤
      2 ^ 12 * 2 ^ 9 := Nat.mul_le_mul (by omega) powerSmall
  rw [filledDev, if_pos rfl, BitVec.toNat_mul, BitVec.toNat_add,
    toNat_one_shiftLeft (by omega), shift, size, one, Nat.add_comm 1,
    Nat.mod_eq_of_lt (show csdField resp 62 12 + 1 < 2 ^ 32 by omega), Nat.mod_eq_of_lt]
  omega

theorem filledDev_lba_high (resp : Int → U32) (ifType : IfType) :
    (filledDev resp true ifType).lba.toNat = (csdField resp 48 16 + 1) * 1024 := by
  have size : (unstuffBits resp 48 16).toNat = csdField resp 48 16 :=
    unstuffBits_eq_csdField resp (by decide) (by decide)
  have small : csdField resp 48 16 < 2 ^ 16 := csdField_lt ..
  have one : (1 : U32).toNat = 1 := rfl
  have factor : (1024 : U32).toNat = 1024 := rfl
  rw [filledDev, if_neg (by decide), BitVec.toNat_mul, BitVec.toNat_add, size, one, factor]
  omega

end Decode

/-! ## The published capacity -/

/-- The bytes that a caller can address. -/
def Media.bytes (media : Media) : Nat :=
  (media.lastBlock.toNat + 1) * media.blockSize.toNat

theorem publish_bytes (dev : BlockDev) :
    (publish dev).bytes = (dev.lba.toNat + 1) * dev.blksz.toNat := by
  rw [Media.bytes, publish, BitVec.toNat_setWidth, Nat.mod_eq_of_lt]
  exact Nat.lt_of_lt_of_le dev.lba.isLt (by decide)

/-- With version 0 the last block is published as one too many. -/
theorem publish_bytes_standard (resp : Int → U32) (ifType : IfType)
    (version : csdVersion resp = 0) :
    (publish (filledDev resp false ifType)).bytes = csdCapacity resp + 2 ^ readBlLen resp := by
  rw [publish_bytes, filledDev_lba_standard, filledDev_blksz, csdCapacity, if_pos version,
    Nat.add_mul _ 1, Nat.one_mul]

/-- With version 1 an odd number of blocks is published, each of at most 32 KiB. -/
theorem publish_bytes_high_ne (resp : Int → U32) (ifType : IfType)
    (version : csdVersion resp = 1) :
    (publish (filledDev resp true ifType)).bytes ≠ csdCapacity resp := by
  rw [publish_bytes, filledDev_lba_high, filledDev_blksz, csdCapacity, if_neg (by omega)]
  intro same
  have small : readBlLen resp < 2 ^ 4 := csdField_lt resp 80 4
  have power : 512 * 1024 = 2 ^ readBlLen resp * (2 * 2 ^ (18 - readBlLen resp)) := by
    rw [← Nat.pow_succ', ← Nat.pow_add, show readBlLen resp + (18 - readBlLen resp + 1) = 19
      by omega]
  rw [power, Nat.mul_left_comm, Nat.mul_comm _ (2 ^ readBlLen resp)] at same
  have blocks := Nat.eq_of_mul_eq_mul_left (Nat.two_pow_pos _) same
  rw [Nat.mul_left_comm] at blocks
  omega

/-- The published capacity is not the one that the CSD encodes, whatever the CSD. -/
theorem publish_bytes_ne_csdCapacity {resp : Int → U32} {dev : BlockDev} (sd : dev.ifType = .sd)
    (known : csdVersion resp = 0 ∨ csdVersion resp = 1) :
    (publish (mmcDecodeCsd resp dev)).bytes ≠ csdCapacity resp := by
  rcases known with version | version
  · rw [mmcDecodeCsd_zero sd version, publish_bytes_standard resp .sd version]
    have positive := Nat.two_pow_pos (readBlLen resp)
    omega
  · rw [mmcDecodeCsd_one sd version]
    exact publish_bytes_high_ne resp .sd version

/-- The device structure before it is decoded, but for its type. -/
def blankDev (ifType : IfType) : BlockDev := ⟨ifType, 0, 0, none, none⟩

/-- The CSD of a card with high capacity, of 7563 units of 512 KiB. -/
def sdhcCsd : Int → U32
  | 0 => 0x400e0032
  | 1 => 0x5b590000
  | 2 => 0x1d8a7f80
  | _ => 0x0a404000

end HtcLeo.Sd
