import HtcLeo.Sd.Card
import HtcLeo.Sd.Csd

/-!
# Block sizes

`gMMCHSMedia` publishes the block size of the CSD, by which a request is cut into
blocks.  The blocks themselves have 512 bytes, on the card and in the buffer, so a
request moves the bytes that it names only if the CSD says 512 too, and if its blocks
do not leave the range of a 32-bit argument.
-/

namespace HtcLeo.Sd

open Poll Flags Memory

/-! ## What a request should move -/

/-- The bit of the OCR that goes with a CSD. -/
def csdHighCapacity (csd : Int → U32) : Bool :=
  csdVersion csd == 1

/-- What is published for the CSD of an SD card. -/
def sdMedia (csd : Int → U32) : Media :=
  publish (mmcDecodeCsd csd (blankDev .sd))

/-- A request that returns success and moves all its blocks. -/
structure FullySuccessful (port : Port) (direction : Direction) (media : Media) (lba : U64)
    (bufferSize : U32) (buffer : Nat) (sd : Sdcc) (tape : List U32) (final : Sdcc)
    (rest : List U32) : Prop where
  success : direction.blocks port media lba bufferSize (some buffer) sd tape =
    some (.success, final, rest)
  moved : requestResults (direction.aBlock port) media lba bufferSize (some buffer) sd tape =
    some (List.replicate (bufferSize / media.blockSize).toNat true, final, rest)

/-- `size` bytes have moved between `place` on the card and `buffer`, and nothing else has
changed. -/
def Direction.MovesBytes (before after : Contents) (place buffer size : Nat) :
    Direction → Prop
  | .read =>
      byteAt after.memory =
          copyRange (byteAt before.card) (byteAt before.memory) place buffer size ∧
        after.card = before.card
  | .write =>
      byteAt after.card =
          copyRange (byteAt before.memory) (byteAt before.card) buffer place size ∧
        after.memory = before.memory

/-- Whenever a request is fully successful, with any card that has the CSD, it has moved
`bufferSize` bytes from byte `lba * BlockSize` on. -/
def MovesItsRange (csd : Int → U32) (direction : Direction) (lba : U64) (bufferSize : U32) :
    Prop :=
  ∀ (card : Card) (port : Port) (buffer : Nat) (sd : Sdcc) (tape : List U32) (final : Sdcc)
    (rest : List U32), card.Serves port →
    card.highCapacity = csdHighCapacity csd → sd.highCapacity = csdHighCapacity csd →
    FullySuccessful port direction (sdMedia csd) lba bufferSize buffer sd tape final rest →
    direction.MovesBytes (contents card sd) (contents card final)
      (lba.toNat * (sdMedia csd).blockSize.toNat) (4 * buffer) bufferSize.toNat

/-! ## What a request moves -/

theorem sdMedia_blockSize {csd : Int → U32} (known : csdVersion csd ≤ 1) :
    (sdMedia csd).blockSize.toNat = 2 ^ readBlLen csd := by
  rcases Nat.le_one_iff_eq_zero_or_eq_one.mp known with version | version
  · rw [sdMedia, mmcDecodeCsd_zero rfl version]
    exact filledDev_blksz csd false .sd
  · rw [sdMedia, mmcDecodeCsd_one rfl version]
    exact filledDev_blksz csd true .sd

section Count

variable {media : Media} {bufferSize : U32} {k : Nat}

theorem blockCount_of_whole (positive : 0 < media.blockSize.toNat)
    (whole : k * media.blockSize.toNat = bufferSize.toNat) :
    (bufferSize / media.blockSize).toNat = k := by
  rw [BitVec.toNat_udiv, ← whole, Nat.mul_div_cancel k positive]

theorem multiple_of_whole (whole : k * media.blockSize.toNat = bufferSize.toNat) :
    bufferSize % media.blockSize = 0 := by
  apply BitVec.eq_of_toNat_eq
  rw [BitVec.toNat_umod, ← whole, Nat.mul_mod_left]
  rfl

end Count

/-- A fully successful request moves its blocks in order. -/
theorem FullySuccessful.moves {card : Card} {port : Port} {direction : Direction}
    {media : Media} {lba : U64} {bufferSize : U32} {buffer : Nat} {sd final : Sdcc}
    {tape rest : List U32} (serves : card.Serves port)
    (capacity : sd.highCapacity = card.highCapacity)
    (successful : FullySuccessful port direction media lba bufferSize buffer sd tape final rest) :
    contents card final = direction.moveBlocks (contents card sd)
      (blockPlace card.highCapacity lba.toNat) (buffer + 128 * ·)
      (bufferSize / media.blockSize).toNat := by
  have moved := successful.moved
  rw [requestResults, ← BitVec.add_zero (lba.setWidth 32)] at moved
  have before : contents card sd = direction.moveBlocks (contents card sd)
      (blockPlace card.highCapacity lba.toNat) (buffer + 128 * ·) 0 := by
    cases direction <;> rfl
  rw [← Nat.zero_add (bufferSize / media.blockSize).toNat]
  exact blockResults_moves serves capacity before moved

/-- Within the range of the argument, blocks of 512 bytes are the bytes of the request. -/
theorem moveBlocks_movesBytes (direction : Direction) (before : Contents) {highCapacity : Bool}
    {lba k : Nat} (fits : lba + k ≤ blockLimit highCapacity) (buffer : Nat) :
    direction.MovesBytes before
      (direction.moveBlocks before (blockPlace highCapacity lba) (buffer + 128 * ·) k)
      (lba * 512) (4 * buffer) (k * 512) := by
  have places : ∀ j < k, blockPlace highCapacity lba j = 128 * lba + 128 * j := by
    intro j below
    rw [blockPlace, Nat.mod_eq_of_lt (by omega), Nat.mul_add]
  have pointers : ∀ j < k, buffer + 128 * j = buffer + 128 * j := fun _ _ => rfl
  have bytes (blocks : Nat) : blocks * 512 = 4 * (128 * blocks) := by omega
  rw [bytes lba, bytes k]
  cases direction with
  | read =>
      constructor
      · rw [Direction.moveBlocks, copyBlocks_contiguous places pointers, byteAt_copyRange]
      · rfl
  | write =>
      constructor
      · rw [Direction.moveBlocks, copyBlocks_contiguous pointers places, byteAt_copyRange]
      · rfl

/-! ## Astray -/

section Astray

variable {highCapacity : Bool} {lba k place size : Nat}

/-- The memory of a buffer that is to be seen on the card, or the other way round. -/
def ones : Nat → U32 := fun _ => BitVec.allOnes 32

/-- A response of zeros. -/
def zeros : Nat → U32 := fun _ => 0

theorem byteAt_ones (i : Nat) : byteAt ones i ≠ 0 :=
  byteAt_ne_zero rfl

theorem byteAt_zeros (i : Nat) : byteAt zeros i = 0 :=
  byteAt_of_zero rfl

/-- A read fills 512 bytes for each block. -/
theorem read_size_ne (other : 4 * (128 * k) ≠ size) :
    ¬ Direction.read.MovesBytes ⟨ones, zeros⟩
      (Direction.read.moveBlocks ⟨ones, zeros⟩ (blockPlace highCapacity lba) (0 + 128 * ·) k)
      place 0 size := by
  rintro ⟨bytes, -⟩
  have filled : copyBlocks ones zeros 128 (blockPlace highCapacity lba) (0 + 128 * ·) k =
      copyRange ones zeros 0 0 (128 * k) :=
    (copyBlocks_const _ (0 + 128 * ·) k).trans
      (copyBlocks_contiguous (fun _ _ => rfl) (fun _ _ => rfl))
  rw [Direction.moveBlocks, filled, byteAt_copyRange] at bytes
  refine copyRange_count_ne (fun i j same => ?_) other bytes
  exact byteAt_ones i (same.trans (byteAt_zeros j))

/-- A byte that should have moved and is not there. -/
theorem byteAt_ne_copyRange {source target after : Nat → U32} {start offset : Nat}
    (inside : offset < size) (moves : byteAt source (start + offset) ≠ 0)
    (missed : byteAt after (place + offset) = 0) :
    byteAt after ≠ copyRange (byteAt source) (byteAt target) start place size := by
  intro bytes
  have cell := congrFun bytes (place + offset)
  rw [copyRange_inside inside] at cell
  exact moves (cell.symm.trans missed)

/-- A write stores nothing of the buffer beyond 512 bytes for each block. -/
theorem write_size_gt (more : 512 * k < size) :
    ¬ Direction.write.MovesBytes ⟨zeros, marked (128 * k)⟩
      (Direction.write.moveBlocks ⟨zeros, marked (128 * k)⟩ (blockPlace highCapacity lba)
        (0 + 128 * ·) k) place 0 size := by
  rintro ⟨bytes, -⟩
  refine byteAt_ne_copyRange more (byteAt_marked_ne_zero (by omega)) (byteAt_of_zero ?_) bytes
  exact copyBlocks_eq rfl fun j below offset inside _ => if_neg (by omega)

/-- A write stores the last word of its last block, which a smaller buffer does not
have. -/
theorem write_size_lt (some : k ≠ 0) (less : size ≤ 256 * k) :
    ¬ Direction.write.MovesBytes ⟨zeros, marked (128 * k - 1)⟩
      (Direction.write.moveBlocks ⟨zeros, marked (128 * k - 1)⟩ (blockPlace highCapacity lba)
        (0 + 128 * ·) k) place 0 size := by
  rintro ⟨bytes, -⟩
  rcases Nat.exists_eq_succ_of_ne_zero some with ⟨last, rfl⟩
  have stored : byteAt (copyBlocks (marked (128 * (last + 1) - 1)) zeros 128 (0 + 128 * ·)
      (blockPlace highCapacity lba) (last + 1)) (4 * (blockPlace highCapacity lba last + 127)) ≠
        0 := by
    apply byteAt_ne_zero
    rw [Nat.mul_div_cancel_left _ (by decide), copyBlocks_last (by decide)]
    exact if_pos (by omega)
  refine stored ((congrFun bytes _).trans ?_)
  rw [copyRange]
  split
  · exact byteAt_marked (by omega)
  · exact byteAt_zeros _

/-- Nothing moves to or from the blocks beyond the range of the argument. -/
theorem exists_beyond (direction : Direction) (some : k ≠ 0)
    (beyond : blockLimit highCapacity < lba + k) :
    ∃ before : Contents, ¬ direction.MovesBytes before
      (direction.moveBlocks before (blockPlace highCapacity lba) (0 + 128 * ·) k)
      (lba * 512) 0 (k * 512) := by
  have within (j : Nat) : (lba + j) % blockLimit highCapacity < blockLimit highCapacity :=
    Nat.mod_lt _ (by cases highCapacity <;> decide)
  have last : k * 512 - 1 < k * 512 := by omega
  cases direction with
  | read =>
      refine ⟨⟨marked (128 * blockLimit highCapacity), zeros⟩, fun moves => ?_⟩
      refine byteAt_ne_copyRange last (byteAt_marked_ne_zero (by omega)) (byteAt_of_zero ?_)
        moves.1
      refine copyBlocks_eq rfl fun j below offset inside _ => if_neg ?_
      have low := within j
      rw [blockPlace]
      omega
  | write =>
      refine ⟨⟨zeros, ones⟩, fun moves => ?_⟩
      refine byteAt_ne_copyRange last (byteAt_ones _) (byteAt_of_zero ?_) moves.1
      refine copyBlocks_eq rfl fun j below offset inside stored => ?_
      have low := within j
      rw [blockPlace] at stored
      omega

/-- With another block size, or beyond the range of the argument, some bytes go astray. -/
theorem exists_astray (direction : Direction) (highCapacity : Bool) {lba k blLen : Nat}
    (some : k ≠ 0) (misfit : ¬ (blLen = 9 ∧ lba + k ≤ blockLimit highCapacity)) :
    ∃ before : Contents, ¬ direction.MovesBytes before
      (direction.moveBlocks before (blockPlace highCapacity lba) (0 + 128 * ·) k)
      (lba * 2 ^ blLen) 0 (k * 2 ^ blLen) := by
  rcases Nat.lt_trichotomy blLen 9 with small | rfl | large
  · have power : 2 ^ blLen ≤ 2 ^ 8 := Nat.pow_le_pow_right (by decide) (by omega)
    have less : k * 2 ^ blLen ≤ k * 2 ^ 8 := Nat.mul_le_mul_left k power
    cases direction with
    | read => exact ⟨_, read_size_ne (by omega)⟩
    | write => exact ⟨_, write_size_lt some (by omega)⟩
  · have beyond : blockLimit highCapacity < lba + k :=
      Nat.lt_of_not_le fun fits => misfit ⟨rfl, fits⟩
    exact exists_beyond direction some beyond
  · have power : 2 ^ 10 ≤ 2 ^ blLen := Nat.pow_le_pow_right (by decide) (by omega)
    have more : k * 2 ^ 10 ≤ k * 2 ^ blLen := Nat.mul_le_mul_left k power
    cases direction with
    | read => exact ⟨_, read_size_ne (by omega)⟩
    | write => exact ⟨_, write_size_gt (by omega)⟩

end Astray

/-! ## Requests that succeed -/

/-- The flags that a block looks at. -/
def Direction.watched : Direction → U32
  | .read => endFlags readErrors
  | .write => endFlags writeErrors

/-- A block that succeeds. -/
def Direction.goodTape : Direction → List U32
  | .read => goodReadTape
  | .write => goodWriteTape

theorem aBlock_returns (port : Port) (direction : Direction) (blockNumber : U32) (buffer : Nat)
    {sd : Sdcc} (clean : sd.Lacks direction.watched) (tape : List U32) :
    ∃ final, direction.aBlock port blockNumber buffer sd (direction.goodTape ++ tape) =
        some (true, final, tape) ∧ final.Lacks direction.watched := by
  cases direction with
  | read => exact readABlock_returns port blockNumber buffer clean tape
  | write =>
      rw [Direction.aBlock, Polled.aBlock, Polled.writeSelected, get_bind_apply]
      exact writeABlock_returns port blockNumber buffer sd.rca clean tape

/-- Good blocks follow one another. -/
theorem blockResults_all (port : Port) (direction : Direction) (count : Nat) (blknr : U32)
    (buffer : Nat) {sd : Sdcc} (clean : sd.Lacks direction.watched) :
    ∃ final, blockResults (direction.aBlock port) count blknr buffer sd
      (List.replicate count direction.goodTape).flatten =
        some (List.replicate count true, final, []) := by
  induction count generalizing blknr buffer sd with
  | zero => exact ⟨sd, rfl⟩
  | succ count ih =>
      obtain ⟨middle, good, clean⟩ := aBlock_returns port direction blknr buffer clean
        (List.replicate count direction.goodTape).flatten
      rcases ih (blknr + 1) (buffer + 128) clean with ⟨final, others⟩
      refine ⟨final, ?_⟩
      rw [List.replicate_succ, List.flatten_cons]
      exact (bind_of_eq_some good).trans (bind_of_eq_some others)

/-- From a clean state every request can be fully successful. -/
theorem exists_fullySuccessful (port : Port) (direction : Direction) {media : Media} (lba : U64)
    {bufferSize : U32} {k : Nat} (buffer : Nat) (positive : 0 < media.blockSize.toNat)
    (whole : k * media.blockSize.toNat = bufferSize.toNat) (some : k ≠ 0) {sd : Sdcc}
    (clean : sd.Lacks direction.watched) :
    ∃ tape final, FullySuccessful port direction media lba bufferSize buffer sd tape final [] := by
  rcases blockResults_all port direction k (lba.setWidth 32) buffer clean with ⟨final, moved⟩
  have count := blockCount_of_whole positive whole
  have moved : requestResults (direction.aBlock port) media lba bufferSize (.some buffer) sd
      (List.replicate k direction.goodTape).flatten =
        .some (List.replicate (bufferSize / media.blockSize).toNat true, final, []) := by
    rw [requestResults, count]
    exact moved
  have nonzero : bufferSize ≠ 0 := fun none => by
    rw [none] at whole
    exact (Nat.mul_ne_zero some (Nat.pos_iff_ne_zero.mp positive)) whole
  have status : statusOf (List.replicate (bufferSize / media.blockSize).toNat true) =
      .success := by
    rw [count, statusOf, if_neg (by rw [List.count_replicate_self]; exact some)]
  refine ⟨_, final, ?_, moved⟩
  rw [← status]
  cases direction with
  | read => exact mmchsBlocks_of_results (fun _ _ _ => rfl) (multiple_of_whole whole) nonzero moved
  | write => exact mmchsBlocks_of_results (fun _ _ _ => rfl) (multiple_of_whole whole) nonzero moved

/-! ## Geometry and addressing -/

theorem movesBytes_zero (direction : Direction) (before : Contents) (place buffer : Nat) :
    direction.MovesBytes before before place buffer 0 := by
  cases direction with
  | read => exact ⟨copyRange_zero.symm, rfl⟩
  | write => exact ⟨copyRange_zero.symm, rfl⟩

/-- A card with given words, before the first command. -/
def fresh (highCapacity : Bool) (words : Nat → U32) : Card := ⟨highCapacity, words, 0, 0, 0, 0⟩

/-- The driver before the first request. -/
def ready (highCapacity : Bool) (memory : Nat → U32) : Sdcc :=
  { idle with memory, highCapacity }

/-- The requests of an SD card move the bytes that they name exactly if its blocks have 512
bytes and the request stays within the range of a 32-bit argument. -/
theorem movesItsRange_iff {csd : Int → U32} (known : csdVersion csd ≤ 1) (direction : Direction)
    (lba : U64) {bufferSize : U32} {k : Nat}
    (whole : k * (sdMedia csd).blockSize.toNat = bufferSize.toNat) :
    MovesItsRange csd direction lba bufferSize ↔
      k = 0 ∨ (readBlLen csd = 9 ∧ lba.toNat + k ≤ blockLimit (csdHighCapacity csd)) := by
  have size := sdMedia_blockSize known
  have positive : 0 < (sdMedia csd).blockSize.toNat := by
    rw [size]
    exact Nat.two_pow_pos _
  have count := blockCount_of_whole positive whole
  constructor
  · intro moves
    by_contra misfit
    rcases not_or.mp misfit with ⟨some, misfit⟩
    rcases exists_astray direction (csdHighCapacity csd) some misfit with ⟨before, astray⟩
    set card := fresh (csdHighCapacity csd) before.card
    have clean : (ready (csdHighCapacity csd) before.memory).Lacks direction.watched :=
      test_zero_left
    obtain ⟨tape, final, successful⟩ := exists_fullySuccessful (card.port fun _ _ => 0) direction
      lba 0 positive whole some clean
    have moved := moves card _ 0 _ tape final [] (card.serves_port _) rfl rfl successful
    rw [successful.moves (card.serves_port _) rfl, count, size, ← whole, size] at moved
    exact astray moved
  · intro fits card port buffer sd tape final rest serves capacity capacity' successful
    rw [successful.moves serves (capacity'.trans capacity.symm), count, ← whole, size, capacity]
    rcases fits with rfl | ⟨nine, fits⟩
    · rw [Nat.zero_mul]
      cases direction with
      | read => exact movesBytes_zero .read _ _ _
      | write => exact movesBytes_zero .write _ _ _
    · rw [nine]
      exact moveBlocks_movesBytes direction _ fits buffer

/-- Two blocks of a card whose CSD has blocks of 512 bytes. -/
theorem movesItsRange_sdhc :
    (sdMedia sdhcCsd).blockSize = 512 ∧ MovesItsRange sdhcCsd .write 5 1024 :=
  ⟨by decide +kernel, (movesItsRange_iff (by decide +kernel) .write 5 (k := 2)
    (by decide +kernel)).mpr (.inr ⟨by decide +kernel, by decide +kernel⟩)⟩

/-- The CSD of a card with standard capacity and blocks of 1024 bytes. -/
def standardCsd : Int → U32
  | 0 => 0x00260032
  | 1 => 0x5b5a83d3
  | 2 => 0xf6dbff9f
  | _ => 0x96800000

/-- From this card, a read of block 1 brings byte 512 to the start of the buffer, in place
of byte 1024. -/
theorem mmchsReadBlocks_wrong_block :
    ∃ tape final, FullySuccessful ((fresh false (marked 256)).port fun _ _ => 0) .read
        (sdMedia standardCsd) 1 1024 0 (ready false zeros) tape final [] ∧
      (sdMedia standardCsd).blockSize = 1024 ∧
      byteAt (marked 256) 1024 ≠ 0 ∧ byteAt final.memory 0 = 0 ∧
      ¬ MovesItsRange standardCsd .read 1 1024 := by
  set card := fresh false (marked 256)
  have blockSize : (sdMedia standardCsd).blockSize = 1024 := by decide +kernel
  have whole : 1 * (sdMedia standardCsd).blockSize.toNat = (1024 : U32).toNat := by
    rw [blockSize, Nat.one_mul]
  have clean : (ready false zeros).Lacks Direction.read.watched := test_zero_left
  obtain ⟨tape, final, successful⟩ := exists_fullySuccessful (card.port fun _ _ => 0) .read 1 0
    (by rw [blockSize]; decide) whole Nat.one_ne_zero clean
  have expected : byteAt (marked 256) 1024 ≠ 0 := byteAt_marked_ne_zero (by decide)
  have moved := successful.moves (card.serves_port _) rfl
  have read : byteAt final.memory 0 = 0 := by
    have memory : final.memory = _ := congrArg Contents.memory moved
    rw [memory, blockSize]
    exact byteAt_of_zero rfl
  refine ⟨tape, final, successful, blockSize, expected, read, fun moves => ?_⟩
  have bytes := moves card _ 0 _ tape final [] (card.serves_port _) (by decide +kernel)
    (by decide +kernel) successful
  rw [blockSize] at bytes
  exact expected ((congrFun bytes.1 0).symm.trans read)

end HtcLeo.Sd
