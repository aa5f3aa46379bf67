import Mathlib.Data.List.Forall2
import HtcLeo.Sd.Geometry
import HtcLeo.Sd.Runs

/-!
# Requests beyond the end

A request names its first block by 64 bits, the driver a block by 32, and a standard
capacity card a byte by 32.  A request that leaves the device should be refused, and one
that does not should reach its own blocks only.  The driver makes no such check, so what
happens depends on the widths.
-/

namespace HtcLeo.Sd

open Poll Flags Memory

/-! ## What a request should reach -/

/-- The blocks that a request asks for. -/
def blockCount (media : Media) (bufferSize : U32) : Nat :=
  (bufferSize / media.blockSize).toNat

/-- Some block of a request is beyond the last one. -/
def BeyondEnd (media : Media) (lba : U64) (bufferSize : U32) : Prop :=
  ∃ j < blockCount media bufferSize, media.lastBlock.toNat < lba.toNat + j

/-- The address of a block on the card, in blocks or in bytes. -/
def cardAddress (highCapacity : Bool) (block : Nat) : Nat :=
  if highCapacity then block else block * 512

/-- A request is refused without a command if it is beyond the end; otherwise the blocks that
it transfers are, from the first one on, those that it names. -/
structure Guarded (direction : Direction) (highCapacity : Bool) (media : Media) (lba : U64)
    (bufferSize : U32) (buffer : Option Nat) : Prop where
  refused : BeyondEnd media lba bufferSize → ∀ port sd tape, sd.highCapacity = highCapacity →
    ∃ final rest,
      direction.blocks port media lba bufferSize buffer sd tape =
        some (.invalidParameter, final, rest) ∧
      (history port final.log).phases = (history port sd.log).phases
  reached : ¬ BeyondEnd media lba bufferSize → ∀ port sd tape status final rest,
    sd.highCapacity = highCapacity →
    direction.blocks port media lba bufferSize buffer sd tape = some (status, final, rest) →
      ∃ phases, transfers port final = transfers port sd ++ phases ∧
        phases.length ≤ blockCount media bufferSize ∧
        ∀ (j : Nat) (phase : Phase), phases[j]? = some phase →
          phase.argument.toNat = cardAddress highCapacity (lba.toNat + j)

/-! ## What it does reach -/

theorem InOrder.length_le {port : Port} {direction : Direction} {blknr blkcnt n : U32}
    {buffer : Nat} {results : List Bool} {blocks : List (List U32)} {before after : Sdcc}
    (inOrder : InOrder port direction blknr blkcnt buffer n results blocks before after) :
    blocks.length ≤ blkcnt.toNat := by
  have counted : n.toNat ≤ blkcnt.toNat := BitVec.le_def.mp inOrder.counted
  rw [← inOrder.sizes.length_eq, inOrder.completed, List.length_append, List.length_replicate]
  split
  case isTrue => exact counted
  case isFalse other =>
    exact Nat.lt_of_le_of_ne counted fun same => other (BitVec.eq_of_toNat_eq same)

/-- Within its limit, and only there, a block number of 32 bits gives the right address. -/
theorem blockAddress_eq_iff (highCapacity : Bool) (lba : U64) (j : Nat) :
    (blockAddress highCapacity (lba.setWidth 32 + BitVec.ofNat 32 j)).toNat =
        cardAddress highCapacity (lba.toNat + j) ↔
      lba.toNat + j < blockLimit highCapacity := by
  have number : (lba.setWidth 32 + BitVec.ofNat 32 j).toNat = (lba.toNat + j) % 2 ^ 32 := by
    rw [BitVec.toNat_add, BitVec.toNat_setWidth, BitVec.toNat_ofNat, ← Nat.add_mod]
  have size : BLOCK_SIZE.toNat = 512 := rfl
  cases highCapacity with
  | false =>
      rw [blockAddress, if_pos rfl, BitVec.toNat_mul, number, size, cardAddress,
        if_neg (by decide), blockLimit, if_neg (by decide)]
      omega
  | true =>
      rw [blockAddress, if_neg (by decide), number, cardAddress, if_pos rfl, blockLimit,
        if_pos rfl]
      omega

theorem length_blockPhases (direction : Direction) (highCapacity : Bool) (blknr : U32)
    (blocks : List (List U32)) :
    (blockPhases direction highCapacity blknr blocks).length = blocks.length := by
  induction blocks generalizing blknr with
  | nil => rfl
  | cons words blocks ih => rw [blockPhases, List.length_cons, List.length_cons, ih]

theorem blockPhases_getElem? (direction : Direction) (highCapacity : Bool) (blknr : U32)
    (blocks : List (List U32)) (j : Nat) :
    (blockPhases direction highCapacity blknr blocks)[j]? = blocks[j]?.map fun words =>
      ⟨direction.index, blockAddress highCapacity (blknr + BitVec.ofNat 32 j), words⟩ := by
  induction blocks generalizing blknr j with
  | nil => rfl
  | cons words blocks ih =>
      cases j with
      | zero =>
          have same : blknr + BitVec.ofNat 32 0 = blknr := BitVec.add_zero blknr
          rw [same]
          rfl
      | succ j =>
          have next : blknr + 1 + BitVec.ofNat 32 j = blknr + BitVec.ofNat 32 (j + 1) := by
            rw [BitVec.add_assoc, Nat.add_comm, BitVec.ofNat_add]
            rfl
          rw [← next]
          exact ih (blknr + 1) j

section Requests

variable {direction : Direction} {highCapacity : Bool} {media : Media} {lba : U64}
  {bufferSize : U32} {buffer : Option Nat} {port : Port} {sd final : Sdcc}
  {tape rest : List U32} {status : EfiStatus}

theorem Direction.blocks_eq (port : Port) (direction : Direction) :
    direction.blocks port = mmchsBlocks (Polled.run readStatus port direction) := by
  cases direction <;> rfl

theorem blocks_odd (odd : bufferSize % media.blockSize ≠ 0) :
    direction.blocks port media lba bufferSize buffer = pure .badBufferSize := by
  rw [Direction.blocks_eq]
  cases buffer <;> exact if_pos odd

theorem blocks_none (multiple : bufferSize % media.blockSize = 0) :
    direction.blocks port media lba bufferSize none = pure .invalidParameter := by
  rw [Direction.blocks_eq]
  exact if_neg (not_not.mpr multiple)

/-- Whatever a request does, its blocks are in order, and it moves some only for a buffer. -/
theorem request_sequenced
    (returned : direction.blocks port media lba bufferSize buffer sd tape =
      some (status, final, rest)) :
    ∃ place results blocks,
      Sequenced port direction (lba.setWidth 32) place results blocks sd final ∧
        blocks.length ≤ blockCount media bufferSize ∧
        (blocks ≠ [] → bufferSize % media.blockSize = 0 ∧ buffer ≠ none) := by
  have early (same : final = sd) : ∃ place results blocks,
      Sequenced port direction (lba.setWidth 32) place results blocks sd final ∧
        blocks.length ≤ blockCount media bufferSize ∧
        (blocks ≠ [] → bufferSize % media.blockSize = 0 ∧ buffer ≠ none) := by
    subst same
    exact ⟨0, [], [], sequenced_nil _, Nat.zero_le _, fun some => absurd rfl some⟩
  by_cases multiple : bufferSize % media.blockSize = 0
  · cases buffer with
    | none =>
        rw [blocks_none multiple] at returned
        cases returned
        exact early rfl
    | some place =>
        rw [Direction.blocks_eq, mmchsBlocks, if_neg (not_not.mpr multiple)] at returned
        by_cases none : bufferSize = 0
        · rw [if_pos none] at returned
          cases returned
          exact early rfl
        · rw [if_neg none] at returned
          rcases bind_eq_some_iff.mp returned with ⟨n, middle, left, moved, returned⟩
          cases returned
          rcases blockRun_inOrder record_readStatus moved with ⟨results, blocks, -, inOrder⟩
          exact ⟨place, results, blocks, inOrder.toSequenced, inOrder.length_le,
            fun _ => ⟨multiple, Option.some_ne_none place⟩⟩
  · rw [blocks_odd multiple] at returned
    cases returned
    exact early rfl

/-- A card can let every request of a buffer succeed. -/
theorem exists_request {place : Nat} (multiple : bufferSize % media.blockSize = 0)
    (some : blockCount media bufferSize ≠ 0) :
    ∃ tape final blocks,
      direction.blocks zeroPort media lba bufferSize (.some place) (ready highCapacity zeros)
        tape = .some (.success, final, []) ∧
      Sequenced zeroPort direction (lba.setWidth 32) place
        (List.replicate (blockCount media bufferSize) true) blocks (ready highCapacity zeros)
        final := by
  have positive : 0 < media.blockSize.toNat := by
    refine Nat.pos_of_ne_zero fun none => some ?_
    rw [blockCount, BitVec.toNat_udiv, none, Nat.div_zero]
  have whole : blockCount media bufferSize * media.blockSize.toNat = bufferSize.toNat := by
    have remainder : bufferSize.toNat % media.blockSize.toNat = 0 := by
      rw [← BitVec.toNat_umod, multiple]
      rfl
    rw [blockCount, BitVec.toNat_udiv]
    exact Nat.div_mul_cancel (Nat.dvd_of_mod_eq_zero remainder)
  have clean : (ready highCapacity zeros).Lacks direction.watched := test_zero_left
  obtain ⟨tape, final, successful⟩ :=
    exists_fullySuccessful zeroPort direction lba place positive whole some clean
  have moved := successful.moved
  rw [requestResults] at moved
  rcases blockResults_sequenced record_readStatus moved with ⟨blocks, sequenced⟩
  exact ⟨tape, final, blocks, successful.success, sequenced⟩

end Requests

/-! ## Refused and reached -/

section Guarded

variable {direction : Direction} {highCapacity : Bool} {media : Media} {lba : U64}
  {bufferSize : U32} {buffer : Option Nat}

/-- Beyond the end, only a missing buffer stops a request. -/
theorem Guarded.without_buffer
    (guarded : Guarded direction highCapacity media lba bufferSize buffer)
    (beyond : BeyondEnd media lba bufferSize) :
    bufferSize % media.blockSize = 0 ∧ buffer = none := by
  have refused := guarded.refused beyond zeroPort
  by_cases multiple : bufferSize % media.blockSize = 0
  · refine ⟨multiple, ?_⟩
    cases buffer with
    | none => rfl
    | some place =>
        rcases beyond with ⟨j, below, -⟩
        obtain ⟨tape, final, blocks, succeeded, -⟩ := @exists_request direction highCapacity media
          lba bufferSize place multiple (Nat.ne_zero_of_lt below)
        rcases refused (ready highCapacity zeros) tape rfl with ⟨final', rest, returned, -⟩
        cases succeeded.symm.trans returned
  · rcases refused (ready highCapacity zeros) [] rfl with ⟨final, rest, returned, -⟩
    rw [blocks_odd multiple] at returned
    cases returned

/-- Before the end, the blocks that are transferred have addresses. -/
theorem Guarded.fits
    (guarded : Guarded direction highCapacity media lba bufferSize buffer)
    (inside : ¬ BeyondEnd media lba bufferSize) (multiple : bufferSize % media.blockSize = 0)
    (given : buffer ≠ none) (some : blockCount media bufferSize ≠ 0) :
    lba.toNat + blockCount media bufferSize ≤ blockLimit highCapacity := by
  cases buffer with
  | none => exact absurd rfl given
  | some place =>
      obtain ⟨tape, final, blocks, succeeded, sequenced⟩ :=
        @exists_request direction highCapacity media lba bufferSize place multiple some
      rcases guarded.reached inside _ _ _ _ _ _ rfl succeeded with ⟨phases, added, -, exact_⟩
      have same : phases = blockPhases direction highCapacity (lba.setWidth 32) blocks :=
        List.append_cancel_left (added.symm.trans sequenced.added)
      have count : blocks.length = blockCount media bufferSize := by
        rw [← sequenced.sizes.length_eq, List.length_replicate]
      have last : blockCount media bufferSize - 1 < blocks.length := by omega
      have phase := blockPhases_getElem? direction highCapacity (lba.setWidth 32) blocks
        (blockCount media bufferSize - 1)
      rw [List.getElem?_eq_getElem last, ← same] at phase
      have within := (blockAddress_eq_iff highCapacity lba _).mp (exact_ _ _ phase)
      omega

/-- A request is treated as it should be exactly in these cases: beyond the end, if there is no
buffer; before it, if nothing is transferred or the blocks are within the limit of an address. -/
theorem guarded_iff (direction : Direction) (highCapacity : Bool) (media : Media) (lba : U64)
    (bufferSize : U32) (buffer : Option Nat) :
    Guarded direction highCapacity media lba bufferSize buffer ↔
      (BeyondEnd media lba bufferSize → bufferSize % media.blockSize = 0 ∧ buffer = none) ∧
      (¬ BeyondEnd media lba bufferSize →
        bufferSize % media.blockSize ≠ 0 ∨ buffer = none ∨ blockCount media bufferSize = 0 ∨
          lba.toNat + blockCount media bufferSize ≤ blockLimit highCapacity) := by
  constructor
  · intro guarded
    refine ⟨guarded.without_buffer, fun inside => ?_⟩
    by_contra moving
    rcases not_or.mp moving with ⟨multiple, moving⟩
    rcases not_or.mp moving with ⟨given, moving⟩
    rcases not_or.mp moving with ⟨some, beyond⟩
    exact beyond (guarded.fits inside (not_not.mp multiple) given some)
  · rintro ⟨refused, fits⟩
    constructor
    · intro beyond port sd tape _
      rcases refused beyond with ⟨multiple, rfl⟩
      rw [blocks_none multiple]
      exact ⟨sd, tape, rfl, rfl⟩
    · rintro inside port sd tape status final rest rfl returned
      obtain ⟨place, results, blocks, sequenced, few, moving⟩ := request_sequenced returned
      refine ⟨_, sequenced.added, ?_, fun j phase member => ?_⟩
      · rw [length_blockPhases]
        exact few
      · rw [blockPhases_getElem?] at member
        rcases Option.map_eq_some_iff.mp member with ⟨words, found, rfl⟩
        have below := (List.getElem?_eq_some_iff.mp found).1
        have some : blocks ≠ [] := List.ne_nil_of_length_pos (Nat.zero_lt_of_lt below)
        rcases moving some with ⟨multiple, given⟩
        apply (blockAddress_eq_iff sd.highCapacity lba j).mpr
        rcases fits inside with other | other | other | within
        · exact absurd multiple other
        · exact absurd other given
        · omega
        · omega

end Guarded

/-- A write of the block 2^32 blocks after block 3 goes to block 3. -/
theorem mmchsWriteBlocks_wraps :
    BeyondEnd media512 0x100000003 512 ∧
      (∃ tape final blocks,
        mmchsWriteBlocks zeroPort media512 0x100000003 512 (some 0) (ready true zeros) tape =
          some (.success, final, []) ∧
        transfers zeroPort final = transfers zeroPort (ready true zeros) ++
          blockPhases .write true 3 blocks) ∧
      ¬ Guarded .write true media512 0x100000003 512 (some 0) := by
  have beyond : BeyondEnd media512 0x100000003 512 := ⟨0, by decide, by decide⟩
  refine ⟨beyond, ?_, fun guarded => ?_⟩
  · obtain ⟨tape, final, blocks, succeeded, sequenced⟩ :=
      @exists_request .write true media512 0x100000003 512 0 (by decide) (by decide)
    exact ⟨tape, final, blocks, succeeded, sequenced.added⟩
  · cases (guarded.without_buffer beyond).2

/-! ## Published sizes -/

/-- No SD card publishes blocks beyond the limit of an address. -/
theorem sdMedia_lastBlock_lt {csd : Int → U32} (known : csdVersion csd ≤ 1) :
    (sdMedia csd).lastBlock.toNat < blockLimit (csdHighCapacity csd) := by
  rcases Nat.le_one_iff_eq_zero_or_eq_one.mp known with version | version
  · have sizeSmall : csdField csd 62 12 < 2 ^ 12 := csdField_lt ..
    have multSmall : csdField csd 47 3 < 2 ^ 3 := csdField_lt ..
    have powerSmall : 2 ^ (csdField csd 47 3 + 2) ≤ 2 ^ 9 :=
      Nat.pow_le_pow_right (by decide) (by omega)
    have small : (csdField csd 62 12 + 1) * 2 ^ (csdField csd 47 3 + 2) ≤ 2 ^ 12 * 2 ^ 9 :=
      Nat.mul_le_mul (by omega) powerSmall
    rw [sdMedia, mmcDecodeCsd_zero rfl version, publish, BitVec.toNat_setWidth,
      filledDev_lba_standard, csdHighCapacity, version]
    exact Nat.lt_of_le_of_lt (Nat.mod_le _ _) (Nat.lt_of_le_of_lt small (by decide))
  · rw [sdMedia, mmcDecodeCsd_one rfl version, publish, BitVec.toNat_setWidth, csdHighCapacity,
      version]
    exact Nat.lt_of_le_of_lt (Nat.mod_le _ _) (BitVec.isLt _)

/-- So a request of an SD card that stays before the end has addresses for its blocks. -/
theorem inside_sdMedia {csd : Int → U32} (known : csdVersion csd ≤ 1) {lba : U64}
    {bufferSize : U32} (inside : ¬ BeyondEnd (sdMedia csd) lba bufferSize)
    (some : blockCount (sdMedia csd) bufferSize ≠ 0) :
    lba.toNat + blockCount (sdMedia csd) bufferSize ≤ blockLimit (csdHighCapacity csd) := by
  have limit := sdMedia_lastBlock_lt known
  by_contra beyond
  exact inside ⟨blockCount (sdMedia csd) bufferSize - 1, by omega, by omega⟩

end HtcLeo.Sd
