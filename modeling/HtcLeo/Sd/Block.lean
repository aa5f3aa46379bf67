import HtcLeo.Sd.Completes

/-!
# Requests of several blocks

`mmc_bread` and `mmc_bwrite` stop at the first block that fails and return how many
succeeded before it; the `EFI_BLOCK_IO` functions call everything but `0` a success.
-/

namespace HtcLeo.Sd

open Poll Flags

/-- What moves one block. -/
abbrev BlockOp := U32 → Nat → Poll U32 Sdcc Bool

/-- The loop of `mmc_bread` and `mmc_bwrite`.  Without the data mover
`NUM_BLOCKS_MULT` is 1, so every round moves one block. -/
def blockRun (aBlock : BlockOp) : Nat → U32 → Nat → U32 → Poll U32 Sdcc U32
  | 0, _, _, runBlkcnt => pure runBlkcnt
  | blkcnt + 1, blknr, buffer, runBlkcnt =>
      aBlock blknr buffer >>= fun ok =>
        if !ok then pure runBlkcnt
        else blockRun aBlock blkcnt (blknr + 1) (buffer + 128) (runBlkcnt + 1)

namespace Polled

variable (status : Poll U32 Sdcc U32)

/-- `mmc_bread`. -/
def mmcBread (port : Port) (blknr blkcnt : U32) (dst : Nat) : Poll U32 Sdcc U32 :=
  blockRun (readABlock status port) blkcnt.toNat blknr dst 0

/-- `mmc_bwrite`. -/
def mmcBwrite (port : Port) (blknr blkcnt : U32) (buffer : Nat) : Poll U32 Sdcc U32 :=
  blockRun (writeSelected status port) blkcnt.toNat blknr buffer 0

end Polled

/-- `mmc_bread`. -/
def mmcBread (port : Port) (blknr blkcnt : U32) (dst : Nat) : Poll U32 Sdcc U32 :=
  Polled.mmcBread readStatus port blknr blkcnt dst

/-- `mmc_bwrite`. -/
def mmcBwrite (port : Port) (blknr blkcnt : U32) (buffer : Nat) : Poll U32 Sdcc U32 :=
  Polled.mmcBwrite readStatus port blknr blkcnt buffer

/-- The statuses of the block protocol. -/
inductive EfiStatus where
  | success
  | badBufferSize
  | invalidParameter
  | deviceError
  deriving DecidableEq, Repr

/-- The fields of `gMMCHSMedia` that the driver publishes. -/
structure Media where
  lastBlock : U64
  blockSize : U32
  deriving DecidableEq, Repr

/-- `MMCHSReadBlocks` and `MMCHSWriteBlocks`, which differ in what they call. -/
def mmchsBlocks (blocks : U32 → U32 → Nat → Poll U32 Sdcc U32) (media : Media) (lba : U64)
    (bufferSize : U32) (buffer : Option Nat) : Poll U32 Sdcc EfiStatus :=
  if bufferSize % media.blockSize ≠ 0 then pure .badBufferSize
  else match buffer with
    | none => pure .invalidParameter
    | some buffer =>
        if bufferSize = 0 then pure .success
        else
          blocks (lba.setWidth 32) (bufferSize / media.blockSize) buffer >>= fun ret =>
            pure (if ret ≠ 0 then .success else .deviceError)

/-- `MMCHSReadBlocks`. -/
def mmchsReadBlocks (port : Port) : Media → U64 → U32 → Option Nat → Poll U32 Sdcc EfiStatus :=
  mmchsBlocks (mmcBread port)

/-- `MMCHSWriteBlocks`. -/
def mmchsWriteBlocks (port : Port) : Media → U64 → U32 → Option Nat → Poll U32 Sdcc EfiStatus :=
  mmchsBlocks (mmcBwrite port)

/-! ## Block results -/

/-- Move blocks up to the first one that fails; the result says how each one went. -/
def blockResults (aBlock : BlockOp) : Nat → U32 → Nat → Poll U32 Sdcc (List Bool)
  | 0, _, _ => pure []
  | blkcnt + 1, blknr, buffer =>
      aBlock blknr buffer >>= fun ok =>
        if !ok then pure [false]
        else blockResults aBlock blkcnt (blknr + 1) (buffer + 128) >>= fun results =>
          pure (true :: results)

/-- The loop counts the blocks that succeed. -/
theorem blockRun_eq (aBlock : BlockOp) (blkcnt : Nat) (blknr : U32) (buffer : Nat)
    (runBlkcnt : U32) :
    blockRun aBlock blkcnt blknr buffer runBlkcnt =
      blockResults aBlock blkcnt blknr buffer >>= fun results =>
        pure (runBlkcnt + BitVec.ofNat 32 (results.count true)) := by
  induction blkcnt generalizing blknr buffer runBlkcnt with
  | zero => rw [blockRun, blockResults, Poll.pure_bind, List.count_nil, BitVec.add_zero]
  | succ blkcnt ih =>
      rw [blockRun, blockResults, Poll.bind_assoc]
      refine congrArg (aBlock blknr buffer >>= ·) (funext fun ok => ?_)
      cases ok with
      | false => exact congrArg pure (BitVec.add_zero runBlkcnt).symm
      | true =>
          have counted (results : List Bool) :
              runBlkcnt + 1 + BitVec.ofNat 32 (results.count true) =
                runBlkcnt + BitVec.ofNat 32 ((true :: results).count true) := by
            rw [List.count_cons_self, BitVec.add_assoc, Nat.add_comm, BitVec.ofNat_add]
            rfl
          rw [if_neg (by decide), if_neg (by decide), ih, Poll.bind_assoc]
          simp only [counted, Poll.pure_bind]

/-- The first failure ends the blocks. -/
theorem blockResults_shape {aBlock : BlockOp} {blkcnt : Nat} {blknr : U32} {buffer : Nat}
    {sd final : Sdcc} {tape rest : List U32} {results : List Bool}
    (returned : blockResults aBlock blkcnt blknr buffer sd tape = some (results, final, rest)) :
    results = List.replicate blkcnt true ∨
      ∃ good < blkcnt, results = List.replicate good true ++ [false] := by
  induction blkcnt generalizing blknr buffer sd tape results with
  | zero =>
      cases returned
      exact .inl rfl
  | succ blkcnt ih =>
      rcases bind_eq_some_iff.mp returned with ⟨ok, middle, left, -, returned⟩
      cases ok with
      | false =>
          cases returned
          exact .inr ⟨0, Nat.succ_pos _, rfl⟩
      | true =>
          rcases bind_eq_some_iff.mp returned with ⟨others, last, _, moved, finished⟩
          cases finished
          rcases ih moved with rfl | ⟨good, below, rfl⟩
          · exact .inl rfl
          · exact .inr ⟨good + 1, Nat.succ_lt_succ below, rfl⟩

/-! ## The status of a request -/

/-- What a caller expects: success for a complete transfer only, and a device error
when a block fails. -/
structure Honest (blkcnt : Nat) (results : List Bool) (status : EfiStatus) : Prop where
  complete : status = .success → results = List.replicate blkcnt true
  failed : false ∈ results → status = .deviceError

/-- No block fails, or already the first one does. -/
def FailsFirst (results : List Bool) : Prop :=
  false ∉ results ∨ results.head? = some false

instance (results : List Bool) : Decidable (FailsFirst results) :=
  inferInstanceAs (Decidable (_ ∨ _))

/-- The status is that of the first block. -/
def statusOf (results : List Bool) : EfiStatus :=
  if results.count true = 0 then .deviceError else .success

theorem honest_statusOf_iff {blkcnt : Nat} {results : List Bool} (some : blkcnt ≠ 0)
    (shape : results = List.replicate blkcnt true ∨
      ∃ good < blkcnt, results = List.replicate good true ++ [false]) :
    Honest blkcnt results (statusOf results) ↔ FailsFirst results := by
  rcases shape with rfl | ⟨good, below, rfl⟩
  · have status : statusOf (List.replicate blkcnt true) = .success := by
      simp [statusOf, some]
    have good : false ∉ List.replicate blkcnt true := by simp
    exact iff_of_true ⟨fun _ => rfl, fun member => absurd member good⟩ (.inl good)
  · cases good with
    | zero =>
        have error : statusOf [false] = .deviceError := rfl
        have honest : Honest blkcnt [false] (statusOf [false]) :=
          ⟨fun success => (by rw [error] at success; cases success), fun _ => error⟩
        exact iff_of_true honest (.inr rfl)
    | succ good =>
        have status : statusOf (List.replicate (good + 1) true ++ [false]) = .success := by
          simp [statusOf]
        refine iff_of_false (fun honest => ?_) ?_
        · have error := honest.failed (by simp)
          rw [status] at error
          cases error
        · simp [FailsFirst, List.replicate_succ]

/-- The blocks of a request; a request without a buffer moves none. -/
def requestResults (aBlock : BlockOp) (media : Media) (lba : U64) (bufferSize : U32) :
    Option Nat → Poll U32 Sdcc (List Bool)
  | none => pure []
  | some buffer =>
      blockResults aBlock (bufferSize / media.blockSize).toNat (lba.setWidth 32) buffer

theorem count_blockResults_le {aBlock : BlockOp} {blkcnt : Nat} {blknr : U32} {buffer : Nat}
    {sd final : Sdcc} {tape rest : List U32} {results : List Bool}
    (returned : blockResults aBlock blkcnt blknr buffer sd tape = some (results, final, rest)) :
    results.count true ≤ blkcnt := by
  rcases blockResults_shape returned with rfl | ⟨good, below, rfl⟩
  · exact Nat.le_of_eq List.count_replicate_self
  · rw [List.count_append, List.count_replicate_self]
    exact Nat.le_of_lt below

/-- A request runs its blocks and has their status. -/
theorem mmchsBlocks_of_results {aBlock : BlockOp} {blocks : U32 → U32 → Nat → Poll U32 Sdcc U32}
    (runs : ∀ blknr blkcnt buffer,
      blocks blknr blkcnt buffer = blockRun aBlock blkcnt.toNat blknr buffer 0)
    {media : Media} {lba : U64} {bufferSize : U32} {buffer : Nat}
    (multiple : bufferSize % media.blockSize = 0) (positive : bufferSize ≠ 0)
    {sd final : Sdcc} {tape rest : List U32} {results : List Bool}
    (moved : requestResults aBlock media lba bufferSize (some buffer) sd tape =
      some (results, final, rest)) :
    mmchsBlocks blocks media lba bufferSize (some buffer) sd tape =
      some (statusOf results, final, rest) := by
  have below : results.count true < 2 ^ 32 :=
    Nat.lt_of_le_of_lt (count_blockResults_le moved) (bufferSize / media.blockSize).isLt
  have counted : 0 + BitVec.ofNat 32 (results.count true) = 0 ↔ results.count true = 0 := by
    have zero : (0 : U32).toNat = 0 := rfl
    rw [← BitVec.toNat_inj, BitVec.toNat_add, BitVec.toNat_ofNat, zero, Nat.zero_add,
      Nat.mod_mod, Nat.mod_eq_of_lt below]
  have status : (if 0 + BitVec.ofNat 32 (results.count true) ≠ 0 then EfiStatus.success
      else .deviceError) = statusOf results := by
    rw [ite_not, statusOf]
    simp only [counted]
  rw [requestResults] at moved
  rw [mmchsBlocks, if_neg (not_not.mpr multiple), if_neg positive, runs, blockRun_eq,
    Poll.bind_assoc, bind_of_eq_some moved, Poll.pure_bind, status]
  rfl

theorem mmchsBlocks_honest {aBlock : BlockOp} {blocks : U32 → U32 → Nat → Poll U32 Sdcc U32}
    (runs : ∀ blknr blkcnt buffer,
      blocks blknr blkcnt buffer = blockRun aBlock blkcnt.toNat blknr buffer 0)
    {media : Media} {lba : U64} {bufferSize : U32} {buffer : Option Nat}
    (multiple : bufferSize % media.blockSize = 0) (positive : bufferSize ≠ 0)
    {sd final : Sdcc} {tape rest : List U32} {results : List Bool}
    (moved : requestResults aBlock media lba bufferSize buffer sd tape =
      some (results, final, rest)) :
    ∃ status, mmchsBlocks blocks media lba bufferSize buffer sd tape =
        some (status, final, rest) ∧
      (Honest (bufferSize / media.blockSize).toNat results status ↔ FailsFirst results) := by
  cases buffer with
  | none =>
      cases moved
      refine ⟨.invalidParameter, ?_, iff_of_true ⟨nofun, nofun⟩ (.inl (List.not_mem_nil))⟩
      rw [mmchsBlocks, if_neg (not_not.mpr multiple)]
      rfl
  | some buffer =>
      refine ⟨_, mmchsBlocks_of_results runs multiple positive moved,
        honest_statusOf_iff ?_ (blockResults_shape moved)⟩
      -- A size that fits no block would be its own remainder.
      intro none
      have none : bufferSize.toNat / media.blockSize.toNat = 0 := by
        rw [← BitVec.toNat_udiv, none]
      have remainder : bufferSize.toNat % media.blockSize.toNat = 0 := by
        rw [← BitVec.toNat_umod, multiple]
        rfl
      have split := Nat.div_add_mod bufferSize.toNat media.blockSize.toNat
      rw [none, remainder] at split
      exact positive (BitVec.eq_of_toNat_eq split.symm)

/-! ## Reads and writes -/

/-- Read or write. -/
inductive Direction where
  | read
  | write
  deriving DecidableEq, Repr

/-- `read_a_block` or `write_a_block`. -/
def Polled.aBlock (status : Poll U32 Sdcc U32) (port : Port) : Direction → BlockOp
  | .read => readABlock status port
  | .write => writeSelected status port

/-- The transfer of one block. -/
def Direction.aBlock (port : Port) (direction : Direction) : BlockOp :=
  Polled.aBlock readStatus port direction

/-- The `EFI_BLOCK_IO` function of a direction. -/
def Direction.blocks (port : Port) :
    Direction → Media → U64 → U32 → Option Nat → Poll U32 Sdcc EfiStatus
  | .read => mmchsReadBlocks port
  | .write => mmchsWriteBlocks port

/-- A read or write request whose size is a multiple of the block size ends as a caller
expects exactly when no block fails or already the first one does. -/
theorem mmchsBlocks_honest_iff (port : Port) (direction : Direction) {media : Media} (lba : U64)
    {bufferSize : U32} (buffer : Option Nat) (multiple : bufferSize % media.blockSize = 0)
    (positive : bufferSize ≠ 0) {sd final : Sdcc} {tape rest : List U32} {results : List Bool}
    (moved : requestResults (direction.aBlock port) media lba bufferSize buffer sd tape =
      some (results, final, rest)) :
    ∃ status, direction.blocks port media lba bufferSize buffer sd tape =
        some (status, final, rest) ∧
      (Honest (bufferSize / media.blockSize).toNat results status ↔ FailsFirst results) := by
  cases direction with
  | read => exact mmchsBlocks_honest (fun _ _ _ => rfl) multiple positive moved
  | write => exact mmchsBlocks_honest (fun _ _ _ => rfl) multiple positive moved

/-! ## Two blocks -/

/-- The media of a card with blocks of 512 bytes. -/
def media512 : Media := ⟨7, 512⟩

/-- The first block is good. -/
theorem blockResults_two {aBlock : BlockOp} {blknr : U32} {buffer : Nat} {sd middle final : Sdcc}
    {tape left rest : List U32} {ok : Bool}
    (first : aBlock blknr buffer sd tape = some (true, middle, left))
    (second : aBlock (blknr + 1) (buffer + 128) middle left = some (ok, final, rest)) :
    blockResults aBlock 2 blknr buffer sd tape = some ([true, ok], final, rest) := by
  refine (bind_of_eq_some first).trans (bind_of_eq_some ((bind_of_eq_some second).trans ?_))
  cases ok <;> rfl

/-- A request of two good blocks succeeds, as it should. -/
theorem mmchsReadBlocks_two_honest :
    ∃ final status, mmchsReadBlocks zeroPort media512 0 1024 (some 0) idle
        (goodReadTape ++ (goodReadTape ++ [])) = some (status, final, []) ∧
      Honest 2 [true, true] status := by
  obtain ⟨middle, first, clean⟩ :=
    @readABlock_returns zeroPort 0 0 idle rfl (goodReadTape ++ [])
  obtain ⟨final, second, -⟩ := readABlock_returns zeroPort 1 128 clean []
  have moved : requestResults (Direction.read.aBlock zeroPort) media512 0 1024 (some 0) idle
      (goodReadTape ++ (goodReadTape ++ [])) = some ([true, true], final, []) :=
    blockResults_two first second
  obtain ⟨status, returned, honest⟩ :=
    mmchsBlocks_honest_iff zeroPort .read 0 (some 0) (by decide) (by decide) moved
  exact ⟨final, status, returned, honest.mpr (by decide)⟩

/-- The second of two blocks fails, and the request is called a success. -/
theorem mmchsReadBlocks_partial_success :
    ∃ final, requestResults (readABlock zeroPort) media512 0 1024 (some 0) idle
        (goodReadTape ++ crcFailTape) = some ([true, false], final, []) ∧
      mmchsReadBlocks zeroPort media512 0 1024 (some 0) idle (goodReadTape ++ crcFailTape) =
        some (.success, final, []) ∧
      ¬ Honest 2 [true, false] .success := by
  obtain ⟨middle, first, -⟩ := @readABlock_returns zeroPort 0 0 idle rfl crcFailTape
  obtain ⟨final, second, -⟩ := readABlock_crcFail zeroPort 1 128 middle
  have moved : requestResults (readABlock zeroPort) media512 0 1024 (some 0) idle
      (goodReadTape ++ crcFailTape) = some ([true, false], final, []) :=
    blockResults_two first second
  refine ⟨final, moved, ?_, fun honest => ?_⟩
  · exact mmchsBlocks_of_results (fun _ _ _ => rfl) (by decide) (by decide) moved
  · have error := honest.failed (by decide)
    cases error

end HtcLeo.Sd
