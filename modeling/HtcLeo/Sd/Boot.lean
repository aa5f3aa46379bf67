import HtcLeo.Sd.Init
import HtcLeo.Word.Memory

/-!
# Publishing the card

`SdCardInitialize` ignores the result of `mmc_legacy_init`, looks for a boot record
through the function pointers of a device structure that a failed initialisation
leaves empty, and installs `EFI_BLOCK_IO` when it has found one.
-/

namespace HtcLeo.Sd

open Poll Flags Memory

/-! ## The driver's entry point -/

/-- What the entry point finds: whether a card is inserted, what installing the protocol
returns, and where its two buffers are on the stack. -/
structure Platform where
  cardPresent : Bool
  installStatus : EfiStatus
  initBuffer : Nat
  blkDump : Nat

/-- The state of the whole driver, with the blocks asked for through `block_read` and
whether `EFI_BLOCK_IO` is installed. -/
structure Boot where
  sd : Sdcc
  dev : BlockDev
  media : Media
  blockReads : List U32
  installed : Bool

/-- How the entry point ends. -/
inductive BootResult where
  | returned (status : EfiStatus)
  | nullCall
  | deadLoop
  deriving DecidableEq, Repr

/-- The driver when it is loaded: `mmc_dev` is zero. -/
def Boot.loaded (sd : Sdcc) : Boot where
  sd
  dev := blankDev .unknown
  media := ⟨0, 512⟩
  blockReads := []
  installed := false

/-- Run a function of the controller. -/
def onSdcc {α : Type} (action : Poll U32 Sdcc α) : Poll U32 Boot α :=
  zoom Boot.sd (fun sd boot => { boot with sd }) action

/-- The result is `rc`, which the caller ignores. -/
def mmcLegacyInit (port : Port) (buffer : Nat) : Poll U32 Boot Int := do
  modify fun boot => { boot with dev := { boot.dev with ifType := .unknown } }
  let csd ← onSdcc (initSteps port buffer)
  match csd with
  | none => pure (-19)
  | some csd => do
      modify fun boot =>
        { boot with dev := mmcDecodeCsd csd { boot.dev with ifType := .sd } }
      pure 0

/-- The function that a pointer of the device refers to. -/
def BlockFunction.call (port : Port) : BlockFunction → U32 → U32 → Nat → Poll U32 Sdcc U32
  | .mmcBread => Sd.mmcBread port
  | .mmcBwrite => Sd.mmcBwrite port

/-- `BlkDump[510] == 0x55 && BlkDump[511] == 0xAA`. -/
def hasMbr (memory : Nat → U32) (blkDump : Nat) : Bool :=
  byteAt memory (4 * blkDump + 510) == 0x55 && byteAt memory (4 * blkDump + 511) == 0xaa

/-- The loop that looks for a boot record from block `i` on; `none` is a call through a
null pointer. -/
def findMbr (port : Port) (blkDump : Nat) : Nat → U32 → Poll U32 Boot (Option Bool)
  | 0, _ => pure (some false)
  | count + 1, i => do
      modify fun boot => { boot with blockReads := i :: boot.blockReads }
      let boot ← get
      match boot.dev.blockRead with
      | none => pure none
      | some function => do
          let blk ← onSdcc (function.call port i 1 blkDump)
          let boot ← get
          if blk ≠ 0 ∧ hasMbr boot.sd.memory blkDump then pure (some true)
          else findMbr port blkDump count (i + 1)

/-- Blocks `0` to `MIN(LastBlock, 50)` are looked at. -/
def Media.probed (media : Media) : Nat :=
  min media.lastBlock.toNat 50 + 1

/-- The part of `SdCardInitialize` after `mmc_legacy_init`. -/
def publishCard (platform : Platform) (port : Port) : Poll U32 Boot BootResult := do
  modify fun boot => { boot with media := publish boot.dev }
  let boot ← get
  let found ← findMbr port platform.blkDump boot.media.probed 0
  match found with
  | none => pure .nullCall
  | some false => pure .deadLoop
  | some true => do
      modify fun boot =>
        { boot with installed := boot.installed || platform.installStatus == .success }
      pure (.returned platform.installStatus)

/-- `SdCardInitialize`. -/
def sdCardInitialize (platform : Platform) (port : Port) : Poll U32 Boot BootResult :=
  if platform.cardPresent then
    mmcLegacyInit port platform.initBuffer >>= fun _ => publishCard platform port
  else pure (.returned .deviceError)

/-! ## What is published -/

/-- The entry point refuses the card without touching it, or it installs a device that can
be used. -/
inductive Usable (result : BootResult) (boot : Boot) : Prop
  | refused (status : EfiStatus) (error : status ≠ .success)
      (returned : result = .returned status) (untouched : boot.blockReads = [])
      (private_ : boot.installed = false) : Usable result boot
  | published (installed : boot.installed = true) (blocks : 512 ≤ boot.media.blockSize.toNat)
      (reads : boot.dev.blockRead ≠ none) (writes : boot.dev.blockWrite ≠ none) :
      Usable result boot

/-- One of the blocks from `i` on is read and carries a boot record. -/
def FindsMbr (port : Port) (blkDump : Nat) : Nat → U32 → Sdcc → List U32 → Prop
  | 0, _, _, _ => False
  | count + 1, i, sd, tape => ∃ blk after rest,
      mmcBread port i 1 blkDump sd tape = some (blk, after, rest) ∧
        ((blk ≠ 0 ∧ hasMbr after.memory blkDump = true) ∨
          FindsMbr port blkDump count (i + 1) after rest)

/-- The card that the steps of the initialisation find can be used: its CSD is known and
has blocks of at least 512 bytes, and it has a boot record. -/
def FindsUsableCard (platform : Platform) (port : Port) (sd : Sdcc) (tape : List U32) : Prop :=
  ∃ csd after rest, initSteps port platform.initBuffer sd tape = some (some csd, after, rest) ∧
    csdVersion csd ≤ 1 ∧ 9 ≤ readBlLen csd ∧
    FindsMbr port platform.blkDump (publish (mmcDecodeCsd csd (blankDev .sd))).probed 0 after rest

/-- `mmc_legacy_init` leaves a filled device structure exactly when its steps give a CSD
that is known. -/
theorem mmcLegacyInit_returned {port : Port} {buffer : Nat} {sd : Sdcc} {boot : Boot}
    {tape rest : List U32} {rc : Int}
    (returned : mmcLegacyInit port buffer (Boot.loaded sd) tape = some (rc, boot, rest)) :
    ∃ csd after, initSteps port buffer sd tape = some (csd, after, rest) ∧
      boot = { Boot.loaded sd with
        sd := after
        dev := csd.elim (blankDev .unknown) fun csd => mmcDecodeCsd csd (blankDev .sd) } := by
  rw [mmcLegacyInit, modify_bind_apply] at returned
  rcases bind_eq_some_iff.mp returned with ⟨csd, _, _, stepped, returned⟩
  rcases zoom_eq_some_iff.mp stepped with ⟨after, steps, rfl⟩
  cases csd with
  | none =>
      cases returned
      exact ⟨none, after, steps, rfl⟩
  | some csd =>
      cases returned
      exact ⟨some csd, after, steps, rfl⟩

/-- Without a device the first probe calls through a null pointer. -/
theorem findMbr_null {port : Port} {blkDump count : Nat} {i : U32} {boot after : Boot}
    {tape rest : List U32} {found : Option Bool} (null : boot.dev.blockRead = none)
    (returned : findMbr port blkDump (count + 1) i boot tape = some (found, after, rest)) :
    found = none ∧ after = { boot with blockReads := i :: boot.blockReads } := by
  rw [findMbr, modify_bind_apply, get_bind_apply] at returned
  simp only [null] at returned
  cases returned
  exact ⟨rfl, rfl⟩

/-- With a device the loop finds a boot record when there is one, and changes nothing but
the controller. -/
theorem findMbr_device {port : Port} {blkDump count : Nat} {i : U32} {boot after : Boot}
    {tape rest : List U32} {found : Option Bool} (device : boot.dev.blockRead = some .mmcBread)
    (returned : findMbr port blkDump count i boot tape = some (found, after, rest)) :
    (∃ mbr, found = some mbr ∧ (mbr = true ↔ FindsMbr port blkDump count i boot.sd tape)) ∧
      ∃ sd reads, after = { boot with sd, blockReads := reads ++ boot.blockReads } ∧
        (0 < count → reads ≠ []) := by
  induction count generalizing i boot tape with
  | zero =>
      cases returned
      exact ⟨⟨false, rfl, by simp [FindsMbr]⟩, _, [], rfl, nofun⟩
  | succ count ih =>
      rw [findMbr, modify_bind_apply, get_bind_apply] at returned
      simp only [device] at returned
      rcases bind_eq_some_iff.mp returned with ⟨blk, _, left, called, returned⟩
      rcases zoom_eq_some_iff.mp called with ⟨sd, read, rfl⟩
      rw [get_bind_apply] at returned
      have unfolded : FindsMbr port blkDump (count + 1) i boot.sd tape ↔
          (blk ≠ 0 ∧ hasMbr sd.memory blkDump = true) ∨
            FindsMbr port blkDump count (i + 1) sd left := by
        constructor
        · rintro ⟨blk', sd', left', read', finds⟩
          rw [show mmcBread port i 1 blkDump boot.sd tape = _ from read] at read'
          cases read'
          exact finds
        · exact fun finds => ⟨blk, sd, left, read, finds⟩
      split at returned
      · rename_i here
        cases returned
        exact ⟨⟨true, rfl, fun _ => unfolded.mpr (.inl here), fun _ => rfl⟩, sd, [i], rfl,
          fun _ => List.cons_ne_nil i []⟩
      · rename_i notHere
        rcases ih (by exact device) returned with ⟨⟨mbr, foundEq, finds⟩, sd', reads, rfl, -⟩
        refine ⟨⟨mbr, foundEq, ?_⟩, sd', reads ++ [i], ?_, by simp⟩
        · rw [unfolded, or_iff_right notHere]
          exact finds
        · rw [List.append_assoc]
          rfl

/-- The device structure of an SD card is filled exactly when the structure version is
known. -/
theorem mmcDecodeCsd_sd (csd : Int → U32) :
    (csdVersion csd ≤ 1 ∧ ∃ highCapacity,
        mmcDecodeCsd csd (blankDev .sd) = filledDev csd highCapacity .sd) ∨
      (2 ≤ csdVersion csd ∧ mmcDecodeCsd csd (blankDev .sd) = blankDev .sd) := by
  have version : csdVersion csd = 0 ∨ csdVersion csd = 1 ∨ 2 ≤ csdVersion csd := by omega
  rcases version with zero | one | unknown
  · exact .inl ⟨by omega, false, mmcDecodeCsd_zero rfl zero⟩
  · exact .inl ⟨by omega, true, mmcDecodeCsd_one rfl one⟩
  · exact .inr ⟨unknown, mmcDecodeCsd_unknown rfl unknown⟩

theorem publishCard_null {platform : Platform} {port : Port} {boot after : Boot}
    {tape rest : List U32} {result : BootResult} (null : boot.dev.blockRead = none)
    (returned : publishCard platform port boot tape = some (result, after, rest)) :
    result = .nullCall ∧ after.installed = boot.installed ∧
      after.media = publish boot.dev := by
  rw [publishCard, modify_bind_apply, get_bind_apply] at returned
  rcases bind_eq_some_iff.mp returned with ⟨found, _, _, searched, returned⟩
  rcases findMbr_null (by exact null) searched with ⟨rfl, rfl⟩
  cases returned
  exact ⟨rfl, rfl, rfl⟩

/-- With a device the driver publishes it when there is a boot record, and stops for ever
when there is none. -/
theorem publishCard_device {platform : Platform} {port : Port} {boot after : Boot}
    {tape rest : List U32} {result : BootResult} (device : boot.dev.blockRead = some .mmcBread)
    (returned : publishCard platform port boot tape = some (result, after, rest)) :
    after.dev = boot.dev ∧ after.media = publish boot.dev ∧ after.blockReads ≠ [] ∧
      ((FindsMbr port platform.blkDump (publish boot.dev).probed 0 boot.sd tape ∧
          result = .returned platform.installStatus ∧
          after.installed = (boot.installed || platform.installStatus == .success)) ∨
        (¬ FindsMbr port platform.blkDump (publish boot.dev).probed 0 boot.sd tape ∧
          result = .deadLoop ∧ after.installed = boot.installed)) := by
  rw [publishCard, modify_bind_apply, get_bind_apply] at returned
  rcases bind_eq_some_iff.mp returned with ⟨found, _, _, searched, returned⟩
  rcases findMbr_device (by exact device) searched with ⟨⟨mbr, rfl, finds⟩, sd, reads, rfl, asked⟩
  have looked : reads ++ boot.blockReads ≠ [] := by
    simp [asked (Nat.succ_pos _)]
  cases mbr with
  | false =>
      cases returned
      exact ⟨rfl, rfl, looked, .inr ⟨fun found => Bool.false_ne_true (finds.mpr found), rfl, rfl⟩⟩
  | true =>
      cases returned
      exact ⟨rfl, rfl, looked, .inl ⟨finds.mp rfl, rfl, rfl⟩⟩

/-- Neither a call through a null pointer nor an endless loop publishes or refuses. -/
theorem not_usable {result : BootResult} {boot : Boot}
    (astray : result = .nullCall ∨ result = .deadLoop) (hidden : boot.installed = false) :
    ¬ Usable result boot := by
  intro usable
  cases usable with
  | refused status error returned untouched private_ =>
      rcases astray with rfl | rfl
      · cases returned
      · cases returned
  | published installed blocks reads writes =>
      rw [hidden] at installed
      cases installed

/-- A filled device structure is published well exactly when there is a boot record, the
protocol can be installed, and blocks have at least 512 bytes. -/
theorem publishCard_usable_iff {platform : Platform} {port : Port} {boot after : Boot}
    {tape rest : List U32} {result : BootResult} {csd : Int → U32} {highCapacity : Bool}
    (filled : boot.dev = filledDev csd highCapacity .sd) (hidden : boot.installed = false)
    (returned : publishCard platform port boot tape = some (result, after, rest)) :
    Usable result after ↔
      9 ≤ readBlLen csd ∧
        FindsMbr port platform.blkDump (publish boot.dev).probed 0 boot.sd tape ∧
        platform.installStatus = .success := by
  obtain ⟨sameDev, published, looked, found | lost⟩ :=
    publishCard_device (by rw [filled]; rfl) returned
  · rcases found with ⟨finds, rfl, installed⟩
    rw [hidden, Bool.false_or] at installed
    have blocks : 512 ≤ after.media.blockSize.toNat ↔ 9 ≤ readBlLen csd := by
      rw [published, filled, publish, filledDev_blksz]
      exact Nat.pow_le_pow_iff_right (a := 2) (n := 9) (by decide)
    by_cases success : platform.installStatus = .success
    · rw [success, beq_self_eq_true] at installed
      have device : after.dev.blockRead ≠ none ∧ after.dev.blockWrite ≠ none := by
        rw [sameDev, filled]
        exact ⟨Option.some_ne_none _, Option.some_ne_none _⟩
      refine ⟨fun usable => ?_, fun ready => .published installed (blocks.mpr ready.1) device.1
        device.2⟩
      cases usable with
      | refused status error returned untouched private_ => exact absurd untouched looked
      | published installed large reads writes => exact ⟨blocks.mp large, finds, success⟩
    · rw [beq_false_of_ne success] at installed
      refine iff_of_false (fun usable => ?_) fun ready => success ready.2.2
      cases usable with
      | refused status error returned untouched private_ => exact looked untouched
      | published published large reads writes =>
          rw [installed] at published
          cases published
  · rcases lost with ⟨notFound, deadLoop, same⟩
    exact iff_of_false (not_usable (.inr deadLoop) (same.trans hidden))
      fun ready => notFound ready.2.1

/-- Whether a usable card is found is known once the steps of the initialisation have
returned. -/
theorem findsUsableCard_iff {platform : Platform} {port : Port} {sd after : Sdcc}
    {tape left : List U32} {csd : Option (Int → U32)}
    (steps : initSteps port platform.initBuffer sd tape = some (csd, after, left)) :
    FindsUsableCard platform port sd tape ↔ ∃ words, csd = some words ∧
      csdVersion words ≤ 1 ∧ 9 ≤ readBlLen words ∧ FindsMbr port platform.blkDump
        (publish (mmcDecodeCsd words (blankDev .sd))).probed 0 after left := by
  constructor
  · rintro ⟨words, after', left', steps', ready⟩
    rw [steps] at steps'
    cases steps'
    exact ⟨words, rfl, ready⟩
  · rintro ⟨words, rfl, ready⟩
    exact ⟨words, after, left, steps, ready⟩

/-- The entry point publishes only a usable device exactly when no card is inserted, or
its card can be used and the protocol can be installed. -/
theorem sdCardInitialize_usable_iff {platform : Platform} {port : Port} {sd : Sdcc}
    {boot : Boot} {tape rest : List U32} {result : BootResult}
    (returned : sdCardInitialize platform port (Boot.loaded sd) tape =
      some (result, boot, rest)) :
    Usable result boot ↔ platform.cardPresent = false ∨
      (FindsUsableCard platform port sd tape ∧ platform.installStatus = .success) := by
  rw [sdCardInitialize] at returned
  cases present : platform.cardPresent with
  | false =>
      rw [present] at returned
      cases returned
      exact iff_of_true (.refused .deviceError (by decide) rfl rfl rfl) (.inl rfl)
  | true =>
      rw [present, if_pos rfl] at returned
      rcases bind_eq_some_iff.mp returned with ⟨rc, _, left, initialised, returned⟩
      rcases mmcLegacyInit_returned initialised with ⟨csd, after, steps, rfl⟩
      rw [or_iff_right (by decide)]
      have astray (null : (csd.elim (blankDev .unknown) fun csd =>
          mmcDecodeCsd csd (blankDev .sd)).blockRead = none) : ¬ Usable result boot := by
        rcases publishCard_null (by exact null) returned with ⟨nullCall, hidden, -⟩
        exact not_usable (.inl nullCall) hidden
      rw [findsUsableCard_iff steps]
      cases csd with
      | none => exact iff_of_false (astray rfl) fun ready => nomatch ready.1
      | some words =>
          rcases mmcDecodeCsd_sd words with ⟨known, highCapacity, filled⟩ | ⟨unknown, blank⟩
          · rw [publishCard_usable_iff (by exact filled) rfl returned]
            constructor
            · rintro ⟨large, finds, success⟩
              exact ⟨⟨words, rfl, known, large, finds⟩, success⟩
            · rintro ⟨⟨_, same, -, large, finds⟩, success⟩
              cases same
              exact ⟨large, finds, success⟩
          · refine iff_of_false (astray ?_) ?_
            · exact congrArg BlockDev.blockRead blank
            · rintro ⟨⟨_, same, known, -⟩, -⟩
              cases same
              omega

/-! ## The published capacity -/

/-- Whether the card is published or not, `gMMCHSMedia` describes its CSD. -/
theorem sdCardInitialize_media {platform : Platform} {port : Port} {sd after : Sdcc}
    {boot : Boot} {tape left rest : List U32} {csd : Int → U32} {result : BootResult}
    (present : platform.cardPresent = true)
    (steps : initSteps port platform.initBuffer sd tape = some (some csd, after, left))
    (returned : sdCardInitialize platform port (Boot.loaded sd) tape =
      some (result, boot, rest)) :
    boot.media = publish (mmcDecodeCsd csd (blankDev .sd)) := by
  rw [sdCardInitialize, if_pos present] at returned
  rcases bind_eq_some_iff.mp returned with ⟨rc, _, _, initialised, returned⟩
  rcases mmcLegacyInit_returned initialised with ⟨_, _, steps', rfl⟩
  rw [steps] at steps'
  cases steps'
  rcases mmcDecodeCsd_sd csd with ⟨-, highCapacity, filled⟩ | ⟨-, blank⟩
  · exact (publishCard_device (by exact congrArg BlockDev.blockRead filled) returned).2.1
  · exact (publishCard_null (by exact congrArg BlockDev.blockRead blank) returned).2.2

/-- After `SdCardInitialize` the published capacity is not the one that the CSD encodes,
whatever the CSD. -/
theorem sdCardInitialize_bytes_ne_csdCapacity {platform : Platform} {port : Port}
    {sd after : Sdcc} {boot : Boot} {tape left rest : List U32} {csd : Int → U32}
    {result : BootResult} (present : platform.cardPresent = true)
    (steps : initSteps port platform.initBuffer sd tape = some (some csd, after, left))
    (known : csdVersion csd = 0 ∨ csdVersion csd = 1)
    (returned : sdCardInitialize platform port (Boot.loaded sd) tape =
      some (result, boot, rest)) :
    boot.media.bytes ≠ csdCapacity csd := by
  rw [sdCardInitialize_media present steps returned]
  exact publish_bytes_ne_csdCapacity rfl known

/-! ## A good card and none that answers -/

/-- The card on the stack of the entry point, inserted, with nothing in the way of the
protocol. -/
def inserted : Platform := ⟨true, .success, 0, 0⟩

/-- The last command that the controller was given. -/
def lastCommand (log : List BusOp) : U32 :=
  lastWritten .cmd log &&& MCI_CMD_CMD_INDEX

/-- A card with the CSD of `sdhcCsd`, whose blocks all end in a boot record. -/
def mbrPort : Port where
  fifo _ := 0xaa550000
  response log i := if lastCommand log = CMD9 then sdhcCsd i else 0xc0000000

/-- Every command is answered at once, and every word is there when it is looked for. -/
def bootTape : List U32 :=
  let answers (n : Nat) := (List.replicate n answeredTape).flatten
  let words (n : Nat) := List.replicate n MCI_STATUS_RXDATA_AVLBL
  -- Identification, transfer state with the SCR, SD status, block size and first block.
  [MCI_STATUS_CMD_SENT, 0] ++ answers 5 ++
    (answers 6 ++ words 1 ++ answers 1) ++ (answers 3 ++ words 16 ++ endedTape) ++ answers 1 ++
    goodReadTape ++ goodReadTape

/-- The entry point publishes that card. -/
theorem sdCardInitialize_bootTape :
    ∃ boot rest, sdCardInitialize inserted mbrPort (Boot.loaded idle) bootTape =
      some (.returned .success, boot, rest) ∧ boot.installed = true ∧
        boot.media = ⟨7744512, 512⟩ ∧ boot.dev = filledDev sdhcCsd true .sd := by
  have run : (sdCardInitialize inserted mbrPort (Boot.loaded idle) bootTape).map
      (fun returned => (returned.1, returned.2.1.installed, returned.2.1.media,
        returned.2.1.dev)) = some (.returned .success, true, ⟨7744512, 512⟩,
          filledDev sdhcCsd true .sd) := by
    decide +kernel
  rcases Option.map_eq_some_iff.mp run with ⟨⟨result, boot, rest⟩, returned, same⟩
  simp only [Prod.mk.injEq] at same
  rcases same with ⟨rfl, installed, media, dev⟩
  exact ⟨boot, rest, returned, installed, media, dev⟩

theorem initSteps_bootTape :
    ∃ csd after left, initSteps mbrPort inserted.initBuffer idle bootTape =
        some (some csd, after, left) ∧
      csdVersion csd = 1 ∧ csdCapacity csd = 3965190144 := by
  have run : (initSteps mbrPort inserted.initBuffer idle bootTape).map
      (fun returned => returned.1.map fun csd => (csdVersion csd, csdCapacity csd)) =
        some (some (1, 3965190144)) := by
    decide +kernel
  rcases Option.map_eq_some_iff.mp run with ⟨⟨csd, after, left⟩, returned, same⟩
  cases csd with
  | none => cases same
  | some csd =>
      simp only [Option.map_some, Option.some.injEq, Prod.mk.injEq] at same
      exact ⟨csd, after, left, returned, same⟩

theorem sdCardInitialize_mbr :
    ∃ boot rest, sdCardInitialize inserted mbrPort (Boot.loaded idle) bootTape =
      some (.returned .success, boot, rest) ∧ boot.installed = true ∧
        FindsUsableCard inserted mbrPort idle bootTape := by
  rcases sdCardInitialize_bootTape with ⟨boot, rest, returned, installed, media, dev⟩
  have usable : Usable (.returned .success) boot :=
    .published installed (by rw [media]; decide) (by rw [dev]; nofun) (by rw [dev]; nofun)
  have ready := (sdCardInitialize_usable_iff returned).mp usable
  exact ⟨boot, rest, returned, installed, (ready.resolve_left (by decide)).1⟩

theorem sdCardInitialize_sdhc_bytes_ne :
    ∃ boot rest csd after left,
      initSteps mbrPort inserted.initBuffer idle bootTape = some (some csd, after, left) ∧
      sdCardInitialize inserted mbrPort (Boot.loaded idle) bootTape =
        some (.returned .success, boot, rest) ∧ boot.media.bytes ≠ csdCapacity csd := by
  rcases sdCardInitialize_bootTape with ⟨boot, rest, returned, -⟩
  rcases initSteps_bootTape with ⟨csd, after, left, steps, version, -⟩
  exact ⟨boot, rest, csd, after, left, steps, returned,
    sdCardInitialize_bytes_ne_csdCapacity rfl steps (.inr version) returned⟩

/-- The card ends one block before the last one that is published. -/
theorem sdCardInitialize_one_block_too_many :
    ∃ boot rest csd after left,
      initSteps mbrPort inserted.initBuffer idle bootTape = some (some csd, after, left) ∧
      sdCardInitialize inserted mbrPort (Boot.loaded idle) bootTape =
        some (.returned .success, boot, rest) ∧
      boot.media = ⟨7744512, 512⟩ ∧ csdCapacity csd = 3965190144 ∧
      boot.media.bytes = 3965190144 + 512 := by
  rcases sdCardInitialize_bootTape with ⟨boot, rest, returned, -, media, -⟩
  rcases initSteps_bootTape with ⟨csd, after, left, steps, -, capacity⟩
  exact ⟨boot, rest, csd, after, left, steps, returned, media, capacity, by rw [media]; rfl⟩

/-- The card answers `CMD8`, and then no longer. -/
def deafTape : List U32 :=
  [MCI_STATUS_CMD_SENT, 0] ++ answeredTape ++ [MCI_STATUS_CMD_CRC_FAIL, 0]

/-- The identification fails, and the entry point calls `block_read` through a null
pointer. -/
theorem sdCardInitialize_null_call :
    ∃ boot rest, sdCardInitialize inserted mbrPort (Boot.loaded idle) deafTape =
      some (.nullCall, boot, rest) ∧ boot.blockReads = [0] ∧ boot.dev.blockRead = none ∧
        ¬ Usable .nullCall boot := by
  have run : (sdCardInitialize inserted mbrPort (Boot.loaded idle) deafTape).map
      (fun returned => (returned.1, returned.2.1.blockReads, returned.2.1.dev,
        returned.2.1.installed)) = some (.nullCall, [0], blankDev .unknown, false) := by
    decide +kernel
  rcases Option.map_eq_some_iff.mp run with ⟨⟨result, boot, rest⟩, returned, same⟩
  simp only [Prod.mk.injEq] at same
  rcases same with ⟨rfl, reads, dev, hidden⟩
  exact ⟨boot, rest, returned, reads, by rw [dev]; rfl, not_usable (.inl rfl) hidden⟩

end HtcLeo.Sd
