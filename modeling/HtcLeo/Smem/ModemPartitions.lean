import HtcLeo.Smem.Bounds
import HtcLeo.Text.Tokens

/-!
# Partitions of the modem

The driver keeps a copy of the flash partition table of the modem.  A partition is added
to the flash table of a caller under the last token of its name, and `strtok` finds the
tokens in the copy itself: of a name with a delimiter behind other characters only the
first token is left for the next caller.
-/

namespace HtcLeo.Smem

open Packed Memory Text

/-! ## The tables -/

/-- The members of `smem_ptable` before its parts. -/
inductive TableField where
  | magic0
  | magic1
  | version
  | len
  deriving DecidableEq, Repr

/-- The members of `smem_ptn`. -/
inductive PartField where
  | name
  | start
  | size
  | attr
  deriving DecidableEq, Repr

def SMEM_PTABLE_MAGIC_1 : Nat := 0x55ee73aa
def SMEM_PTABLE_MAGIC_2 : Nat := 0xe35ebddb
def SMEM_PTABLE_MAX_PARTS : Nat := 32

/-- The layout of the table's header. -/
def smemPtableHdr : Struct TableField :=
  [(.magic0, 4), (.magic1, 4), (.version, 4), (.len, 4)]

/-- The layout of `smem_ptn`. -/
def smemPtn : Struct PartField :=
  [(.name, 16), (.start, 4), (.size, 4), (.attr, 4)]

/-- `sizeof(smem_ptable)`. -/
def smemPtableSize : Nat := smemPtableHdr.size + SMEM_PTABLE_MAX_PARTS * smemPtn.size

/-- Where `parts[i]` begins. -/
def partPlace (i : Nat) : Nat := smemPtableHdr.size + i * smemPtn.size

/-- Where `parts[i].name` begins. -/
def namePlace (i : Nat) : Nat := partPlace i + smemPtn.offset .name

def MAX_PTENTRY_NAME : Nat := 16
def MAX_PTABLE_PARTS : Nat := 32
def TYPE_MODEM_PARTITION : U8 := 1
def PERM_WRITEABLE : U8 := 1

/-- `ptentry`. -/
structure Ptentry where
  name : List U8
  start : U32
  length : U32
  flags : U32
  type : U8
  perm : U8
  deriving DecidableEq, Repr

/-- The variables that are kept: the copy of the table, and `last` of `strtok`, which points
into it. -/
structure Statics where
  smemPtable : Bytes
  last : Option Nat

/-- Both magic numbers are there. -/
def RightMagic (table : Bytes) : Prop :=
  ¬ (smemPtableHdr.get table 0 .magic0 ≠ SMEM_PTABLE_MAGIC_1 ∨
    smemPtableHdr.get table 0 .magic1 ≠ SMEM_PTABLE_MAGIC_2)

instance (table : Bytes) : Decidable (RightMagic table) :=
  inferInstanceAs (Decidable (¬ _))

/-- The length in the table's header. -/
def tableLen (table : Bytes) : Nat := smemPtableHdr.get table 0 .len

/-- `":"`. -/
def delim : List U8 := [0x3A]

/-! ## Adding partitions -/

/-- What a function that reads a string returns, if the string ends in the table. -/
def within {α : Type} : Option α → Except Fault α
  | some value => .ok value
  | none => .error .overrun

section Adding

variable (strlcpy : List U8 → Nat → List U8 → List U8)

/-- The entries that are in use; the names of the others are empty.  Where there is no room, the
assertion fails and the entry is written past the table. -/
def ptableAdd (ptable : List Ptentry) (name : List U8) (start length flags : U32)
    (type perm : U8) : Except Fault (List Ptentry) :=
  if ptable.length < MAX_PTABLE_PARTS then
    .ok (ptable ++ [{
      name := strlcpy (List.replicate MAX_PTENTRY_NAME 0) MAX_PTENTRY_NAME name
      start, length, flags, type, perm }])
  else .error .full

/-- The loop over the tokens.  The result has `pname` and what `strtok` returned last. -/
def tokenLoop : Nat → Tokenized → Option Nat → Except Fault (Option Nat × Tokenized)
  | 0, _, _ => .error .endless
  | rounds + 1, result, pname =>
      match result.token with
      | none => .ok (pname, result)
      | some token => do
          let next ← within (strtokR result.block smemPtableSize delim none result.last)
          tokenLoop rounds next (some token)

/-- A round of `smem_add_modem_partitions`. -/
def addModemPartition (i : Nat) (statics : Statics) (flashPtable : List Ptentry) :
    Except Fault (Statics × List Ptentry) := do
  part SMEM_PTABLE_MAX_PARTS i
  if statics.smemPtable (namePlace i) = 0 then
    return (statics, flashPtable)
  else
    let first ← within
      (strtokR statics.smemPtable smemPtableSize delim (some (namePlace i)) statics.last)
    let (pname, result) ← tokenLoop (smemPtableSize + 3) first none
    match pname with
    | none => return (⟨result.block, result.last⟩, flashPtable)
    | some pname =>
        let name ← within (string result.block (smemPtableSize - pname) pname)
        let flashPtable ← ptableAdd strlcpy flashPtable name
          (BitVec.ofNat 32 (smemPtn.get result.block (partPlace i) .start))
          (BitVec.ofNat 32 (smemPtn.get result.block (partPlace i) .size))
          0 TYPE_MODEM_PARTITION PERM_WRITEABLE
        return (⟨result.block, result.last⟩, flashPtable)

/-- The loop of `smem_add_modem_partitions`. -/
def addLoop : Nat → Nat → Statics → List Ptentry → Except Fault (Statics × List Ptentry)
  | 0, _, _, _ => .error .endless
  | rounds + 1, i, statics, flashPtable =>
      if i < tableLen statics.smemPtable then do
        let (statics, flashPtable) ← addModemPartition strlcpy i statics flashPtable
        addLoop rounds (i + 1) statics flashPtable
      else .ok (statics, flashPtable)

/-- There is no entry for a round after the first 32. -/
def smemAddModemPartitions (statics : Statics) (flashPtable : List Ptentry) :
    Except Fault (Statics × List Ptentry) :=
  if ¬ RightMagic statics.smemPtable then .ok (statics, flashPtable)
  else addLoop strlcpy (SMEM_PTABLE_MAX_PARTS + 1) 0 statics flashPtable

end Adding

/-! ## What a round does -/

section Round

variable {strlcpy : List U8 → Nat → List U8 → List U8} {rounds i : Nat}
  {statics after : Statics} {flashPtable list : List Ptentry} {table : Bytes}

theorem within_eq_ok_iff {α : Type} {result : Option α} {value : α} :
    within result = .ok value ↔ result = some value := by
  cases result with
  | none => exact iff_of_false (ok_ne_error _ _).symm (Option.some_ne_none _).symm
  | some found => simp [within]

theorem within_faults {α : Type} {result : Option α} {fault : Fault}
    (failed : within result = .error fault) : fault = .overrun := by
  cases result with
  | none => exact (Except.error.inj failed).symm
  | some found => exact absurd failed (ok_ne_error _ _)

theorem zero_not_mem_delim : (0 : U8) ∉ delim := by decide

theorem tokenLoop_erased {result final : Tokenized} {pname last : Option Nat}
    (returned : tokenLoop rounds result pname = .ok (last, final)) :
    Erased result.block final.block := by
  induction rounds generalizing result pname with
  | zero => exact absurd returned (ok_ne_error _ _).symm
  | succ rounds ih =>
      rw [tokenLoop] at returned
      split at returned
      · rw [(Prod.mk.inj (Except.ok.inj returned)).2]
        exact .refl _
      · obtain ⟨next, found, rest⟩ := bind_eq_ok_iff.mp returned
        exact (strtokR_erased (within_eq_ok_iff.mp found)).trans (ih rest)

/-- Everything a round can do to the table: it erases bytes, and it does so if the name has
a delimiter behind other characters. -/
theorem addModemPartition_spec
    (returned : addModemPartition strlcpy i statics flashPtable = .ok (after, list)) :
    i < SMEM_PTABLE_MAX_PARTS ∧ Erased statics.smemPtable after.smemPtable ∧
      (statics.smemPtable (namePlace i) ≠ 0 → after.smemPtable = statics.smemPtable →
        Plain statics.smemPtable smemPtableSize delim (namePlace i)) := by
  obtain ⟨_, used, returned⟩ := bind_eq_ok_iff.mp returned
  refine ⟨part_eq_ok_iff.mp used, ?_⟩
  split at returned
  · rename_i empty
    cases returned
    exact ⟨.refl _, fun named => absurd empty named⟩
  · obtain ⟨first, found, returned⟩ := bind_eq_ok_iff.mp returned
    obtain ⟨⟨pname, final⟩, tokens, returned⟩ := bind_eq_ok_iff.mp returned
    have block : after.smemPtable = final.block := by
      cases pname with
      | none =>
          cases returned
          rfl
      | some pname =>
          obtain ⟨name, -, returned⟩ := bind_eq_ok_iff.mp returned
          obtain ⟨ptable, -, returned⟩ := bind_eq_ok_iff.mp returned
          cases returned
          rfl
    have once := within_eq_ok_iff.mp found
    have later := tokenLoop_erased tokens
    rw [block]
    refine ⟨(strtokR_erased once).trans later, fun _ same => ?_⟩
    by_contra torn
    obtain ⟨stop, present, gone⟩ := strtokR_of_not_plain torn zero_not_mem_delim once
    exact Erased.ne present gone later same

/-- What is added for `parts[i]` under a name. -/
def modemEntry (strlcpy : List U8 → Nat → List U8 → List U8) (table : Bytes) (i : Nat)
    (name : List U8) : Ptentry where
  name := strlcpy (List.replicate MAX_PTENTRY_NAME 0) MAX_PTENTRY_NAME name
  start := BitVec.ofNat 32 (smemPtn.get table (partPlace i) .start)
  length := BitVec.ofNat 32 (smemPtn.get table (partPlace i) .size)
  flags := 0
  type := TYPE_MODEM_PARTITION
  perm := PERM_WRITEABLE

/-- A plain name is added, with the same entry in any table that has room. -/
theorem addModemPartition_of_plain (inside : i < SMEM_PTABLE_MAX_PARTS)
    (plain : table (namePlace i) ≠ 0 → Plain table smemPtableSize delim (namePlace i)) :
    ∃ added : List Ptentry, added.length ≤ 1 ∧ ∀ last flashPtable,
      flashPtable.length < MAX_PTABLE_PARTS →
      ∃ later, addModemPartition strlcpy i ⟨table, last⟩ flashPtable =
        .ok (⟨table, later⟩, flashPtable ++ added) := by
  have used : part SMEM_PTABLE_MAX_PARTS i = .ok () := if_pos inside
  by_cases empty : table (namePlace i) = 0
  · refine ⟨[], Nat.zero_le _, fun last flashPtable room => ⟨last, ?_⟩⟩
    simp only [addModemPartition, used, bind, Except.bind, if_pos empty, List.append_nil]
    rfl
  · obtain ⟨token, found, ended⟩ := strtokR_of_plain (plain empty) zero_not_mem_delim
    have nothing : tokenLoop (smemPtableSize + 3) ⟨token, none, table⟩ none =
        .ok (token, ⟨none, none, table⟩) := by
      cases token <;> rfl
    cases token with
    | none =>
        refine ⟨[], Nat.zero_le _, fun last flashPtable room => ⟨none, ?_⟩⟩
        simp only [addModemPartition, used, bind, Except.bind, if_neg empty, found last, within,
          nothing, List.append_nil]
        rfl
    | some tok =>
        obtain ⟨stop, after, below, zero, -⟩ := ended tok rfl
        obtain ⟨name, read⟩ := @string_isSome table (smemPtableSize - tok) tok stop after
          (by omega) zero
        refine ⟨[modemEntry strlcpy table i name], Nat.le_refl 1,
          fun last flashPtable room => ⟨none, ?_⟩⟩
        simp only [addModemPartition, used, bind, Except.bind, if_neg empty, found last, within,
          nothing, read, ptableAdd, if_pos room]
        rfl

end Round

/-! ## Faults

The model has rounds enough for every table, and only a length of more than 32 leads out of
bounds. -/

section Faults

variable {strlcpy : List U8 → Nat → List U8 → List U8} {rounds i : Nat}
  {statics : Statics} {flashPtable : List Ptentry} {fault : Fault}

/-- The rounds that the loop has left after a result of `strtok`. -/
def roundsLeft (result : Tokenized) : Nat :=
  if result.token = none then 1
  else
    match result.last with
    | none => 2
    | some next => smemPtableSize - next + 3

theorem roundsLeft_pos (result : Tokenized) : 0 < roundsLeft result := by
  rw [roundsLeft]
  split
  · exact Nat.one_pos
  · split <;> omega

/-- A call leaves fewer rounds, as it goes on further in the table. -/
theorem roundsLeft_le {start last : Option Nat} {s : Nat} {block : Bytes}
    (begins : start.or last = some s) {result : Tokenized}
    (returned : strtokR block smemPtableSize delim start last = some result) :
    roundsLeft result ≤ smemPtableSize - s + 2 := by
  rw [roundsLeft]
  split
  · omega
  · rcases strtokR_last begins returned with gone | ⟨next, found, further, inside⟩
    · rw [gone]
      exact Nat.le_add_left _ _
    · simp only [found]
      omega

theorem tokenLoop_faults {result : Tokenized} (enough : roundsLeft result ≤ rounds)
    {pname : Option Nat} (failed : tokenLoop rounds result pname = .error fault) :
    fault = .overrun := by
  induction rounds generalizing result pname with
  | zero => exact absurd (roundsLeft_pos result) (Nat.not_lt.mpr enough)
  | succ rounds ih =>
      rw [tokenLoop] at failed
      split at failed
      · exact absurd failed (ok_ne_error _ _)
      · rename_i token present
        have token : ¬ result.token = none := by
          rw [present]
          exact Option.some_ne_none _
        rw [roundsLeft, if_neg token] at enough
        rcases bind_eq_error_iff.mp failed with ended | ⟨next, found, rest⟩
        · exact within_faults ended
        · refine ih ?_ rest
          have returned := within_eq_ok_iff.mp found
          cases position : result.last with
          | none =>
              rw [position] at returned enough
              rw [← Option.some.inj returned]
              exact Nat.le_of_succ_le_succ enough
          | some s =>
              rw [position] at returned enough
              have less := roundsLeft_le (Option.none_or ..) returned
              simp only at enough
              omega

theorem ptableAdd_faults {ptable : List Ptentry} {name : List U8} {start length flags : U32}
    {type perm : U8}
    (failed : ptableAdd strlcpy ptable name start length flags type perm = .error fault) :
    fault = .full := by
  rw [ptableAdd] at failed
  split at failed
  · exact absurd failed (ok_ne_error _ _)
  · exact (Except.error.inj failed).symm

/-- What can go wrong in a round: a string has no end, the table of the caller is full, or
there is no such entry. -/
theorem addModemPartition_faults
    (failed : addModemPartition strlcpy i statics flashPtable = .error fault) :
    fault = .overrun ∨ fault = .full ∨
      fault = .outOfBounds ∧ ¬ i < SMEM_PTABLE_MAX_PARTS := by
  rcases bind_eq_error_iff.mp failed with outside | ⟨_, -, failed⟩
  · rw [part] at outside
    split at outside
    · exact absurd outside (ok_ne_error _ _)
    · rename_i beyond
      exact .inr (.inr ⟨(Except.error.inj outside).symm, beyond⟩)
  · split at failed
    · exact absurd failed (ok_ne_error _ _)
    · rcases bind_eq_error_iff.mp failed with ended | ⟨first, found, failed⟩
      · exact .inl (within_faults ended)
      · rcases bind_eq_error_iff.mp failed with ended | ⟨⟨pname, final⟩, -, failed⟩
        · refine .inl (tokenLoop_faults ?_ ended)
          have less := roundsLeft_le (Option.some_or ..) (within_eq_ok_iff.mp found)
          omega
        · cases pname with
          | none => exact absurd failed (ok_ne_error _ _)
          | some pname =>
              rcases bind_eq_error_iff.mp failed with ended | ⟨name, -, failed⟩
              · exact .inl (within_faults ended)
              · rcases bind_eq_error_iff.mp failed with full | ⟨ptable, -, failed⟩
                · exact .inr (.inl (ptableAdd_faults full))
                · exact absurd failed (ok_ne_error _ _)

theorem addLoop_faults (enough : SMEM_PTABLE_MAX_PARTS < i + rounds)
    (inside : i ≤ SMEM_PTABLE_MAX_PARTS)
    (failed : addLoop strlcpy rounds i statics flashPtable = .error fault) :
    fault = .overrun ∨ fault = .full ∨
      fault = .outOfBounds ∧ SMEM_PTABLE_MAX_PARTS < tableLen statics.smemPtable := by
  induction rounds generalizing i statics flashPtable with
  | zero => omega
  | succ rounds ih =>
      rw [addLoop] at failed
      split at failed
      · rename_i more
        rcases bind_eq_error_iff.mp failed with round | ⟨⟨middle, ptable⟩, round, rest⟩
        · rcases addModemPartition_faults round with ended | full | ⟨outside, beyond⟩
          · exact .inl ended
          · exact .inr (.inl full)
          · exact .inr (.inr ⟨outside, Nat.lt_of_le_of_lt (Nat.not_lt.mp beyond) more⟩)
        · -- The length can only have become smaller.
          obtain ⟨below, erased, -⟩ := addModemPartition_spec round
          have smaller : tableLen middle.smemPtable ≤ tableLen statics.smemPtable :=
            erased.load_le _ _
          rcases ih (by omega) below rest with ended | full | ⟨outside, many⟩
          · exact .inl ended
          · exact .inr (.inl full)
          · exact .inr (.inr ⟨outside, Nat.lt_of_lt_of_le many smaller⟩)
      · exact absurd failed (ok_ne_error _ _)

theorem smemAddModemPartitions_faults
    (failed : smemAddModemPartitions strlcpy statics flashPtable = .error fault) :
    fault = .overrun ∨ fault = .full ∨
      fault = .outOfBounds ∧ SMEM_PTABLE_MAX_PARTS < tableLen statics.smemPtable := by
  rw [smemAddModemPartitions] at failed
  split at failed
  · exact absurd failed (ok_ne_error _ _)
  · exact addLoop_faults (by omega) (Nat.zero_le _) failed

end Faults

/-! ## Calls -/

section Calls

variable {strlcpy : List U8 → Nat → List U8 → List U8} {rounds i : Nat}
  {statics after : Statics} {flashPtable list : List Ptentry} {table : Bytes}

/-- A loop that leaves the table as it is met only plain names. -/
theorem addLoop_spec
    (returned : addLoop strlcpy rounds i statics flashPtable = .ok (after, list)) :
    Erased statics.smemPtable after.smemPtable ∧
      (after.smemPtable = statics.smemPtable → ∀ j, i ≤ j → j < tableLen statics.smemPtable →
        j < SMEM_PTABLE_MAX_PARTS ∧ (statics.smemPtable (namePlace j) ≠ 0 →
          Plain statics.smemPtable smemPtableSize delim (namePlace j))) := by
  induction rounds generalizing i statics flashPtable with
  | zero => exact absurd returned (ok_ne_error _ _).symm
  | succ rounds ih =>
      rw [addLoop] at returned
      split at returned
      · obtain ⟨⟨middle, ptable⟩, round, rest⟩ := bind_eq_ok_iff.mp returned
        obtain ⟨inside, erased, named⟩ := addModemPartition_spec round
        obtain ⟨later, plain⟩ := ih rest
        refine ⟨erased.trans later, fun same j above below => ?_⟩
        have kept : middle.smemPtable = statics.smemPtable := erased.antisymm (same ▸ later)
        rcases Nat.eq_or_lt_of_le above with rfl | further
        · exact ⟨inside, fun present => named present kept⟩
        · rw [kept] at plain
          exact plain same j further below
      · rename_i done
        cases returned
        exact ⟨.refl _, fun _ j above below => absurd (Nat.lt_of_le_of_lt above below) done⟩

theorem smemAddModemPartitions_erased
    (returned : smemAddModemPartitions strlcpy statics flashPtable = .ok (after, list)) :
    Erased statics.smemPtable after.smemPtable := by
  rw [smemAddModemPartitions] at returned
  split at returned
  · cases returned
    exact .refl _
  · exact (addLoop_spec returned).1

/-- A table with at most 32 entries, whose names are plain. -/
def PlainNames (table : Bytes) : Prop :=
  tableLen table ≤ SMEM_PTABLE_MAX_PARTS ∧ ∀ i < tableLen table, table (namePlace i) ≠ 0 →
    Plain table smemPtableSize delim (namePlace i)

theorem addLoop_of_plain (plain : PlainNames table) {left : Nat}
    (all : i + left = tableLen table) (enough : left < rounds) :
    ∃ added : List Ptentry, ∀ last flashPtable, flashPtable.length + left ≤ MAX_PTABLE_PARTS →
      ∃ later, addLoop strlcpy rounds i ⟨table, last⟩ flashPtable =
        .ok (⟨table, later⟩, flashPtable ++ added) := by
  obtain ⟨few, names⟩ := plain
  induction left generalizing rounds i with
  | zero =>
      obtain ⟨rounds, rfl⟩ := Nat.exists_eq_succ_of_ne_zero (Nat.ne_zero_of_lt enough)
      refine ⟨[], fun last flashPtable _ => ⟨last, ?_⟩⟩
      have done : ¬ i < tableLen table := Nat.not_lt.mpr (Nat.le_of_eq all.symm)
      rw [addLoop, if_neg done, List.append_nil]
  | succ left ih =>
      obtain ⟨rounds, rfl⟩ := Nat.exists_eq_succ_of_ne_zero (Nat.ne_zero_of_lt enough)
      have more : i < tableLen table := by omega
      obtain ⟨added, one, round⟩ :=
        @addModemPartition_of_plain strlcpy i table (Nat.lt_of_lt_of_le more few) (names i more)
      obtain ⟨others, rest⟩ := @ih rounds (i + 1) (by omega) (by omega)
      refine ⟨added ++ others, fun last flashPtable room => ?_⟩
      obtain ⟨between, first⟩ := round last flashPtable (by omega)
      obtain ⟨later, second⟩ := rest between (flashPtable ++ added) (by
        rw [List.length_append]
        omega)
      refine ⟨later, ?_⟩
      rw [addLoop, if_pos more, first, ← List.append_assoc]
      exact second

/-- Two calls, each for an empty table, leave the copy as it is and add the same. -/
def Repeatable (strlcpy : List U8 → Nat → List U8 → List U8) (statics : Statics) : Prop :=
  ∃ between after added,
    smemAddModemPartitions strlcpy statics [] = .ok (between, added) ∧
      between.smemPtable = statics.smemPtable ∧
      smemAddModemPartitions strlcpy between [] = .ok (after, added) ∧
      after.smemPtable = statics.smemPtable

/-- The first call leaves only tables of plain names as they are. -/
theorem plainNames_of_unchanged (right : RightMagic statics.smemPtable)
    (returned : smemAddModemPartitions strlcpy statics flashPtable = .ok (after, list))
    (same : after.smemPtable = statics.smemPtable) : PlainNames statics.smemPtable := by
  rw [smemAddModemPartitions, if_neg (not_not.mpr right)] at returned
  obtain ⟨-, entries⟩ := addLoop_spec returned
  constructor
  · by_contra many
    obtain ⟨inside, -⟩ := entries same SMEM_PTABLE_MAX_PARTS (Nat.zero_le _) (Nat.not_le.mp many)
    exact Nat.lt_irrefl _ inside
  · exact fun i below => (entries same i (Nat.zero_le i) below).2

theorem repeatable_of_plainNames (right : RightMagic table) (plain : PlainNames table)
    (last : Option Nat) : Repeatable strlcpy ⟨table, last⟩ := by
  obtain ⟨added, calls⟩ := @addLoop_of_plain strlcpy (SMEM_PTABLE_MAX_PARTS + 1) 0 table plain
    (tableLen table) (Nat.zero_add _) (Nat.lt_succ_of_le plain.1)
  have call (last : Option Nat) : ∃ later,
      smemAddModemPartitions strlcpy ⟨table, last⟩ [] = .ok (⟨table, later⟩, added) := by
    rw [smemAddModemPartitions, if_neg (not_not.mpr right)]
    exact calls last [] (by
      rw [List.length_nil, Nat.zero_add]
      exact plain.1)
  obtain ⟨between, first⟩ := call last
  obtain ⟨after, second⟩ := call between
  exact ⟨⟨table, between⟩, ⟨table, after⟩, added, first, rfl, second, rfl⟩

/-- Adding the partitions can be repeated exactly when there is no table, or one with at most
32 entries whose names are plain. -/
theorem repeatable_iff (strlcpy : List U8 → Nat → List U8 → List U8) (statics : Statics) :
    Repeatable strlcpy statics ↔
      (RightMagic statics.smemPtable → PlainNames statics.smemPtable) := by
  constructor
  · rintro ⟨between, after, added, first, kept, -⟩ right
    exact plainNames_of_unchanged right first kept
  · intro plain
    by_cases right : RightMagic statics.smemPtable
    · exact repeatable_of_plainNames right (plain right) statics.last
    · exact ⟨statics, statics, [], if_pos right, rfl, if_pos right, rfl⟩

end Calls

/-- A string is copied if it fits, with its end. -/
def asciiStrCpyS (destination : List U8) (destMax : Nat) (source : List U8) : List U8 :=
  if source.length < destMax then source ++ 0 :: destination.drop (source.length + 1)
  else destination

/-- A table of version 4 whose one name is `"0:MODEM"`. -/
def modemTable : Bytes :=
  ofList (smemPtableHdr.encode (fun
    | .magic0 => SMEM_PTABLE_MAGIC_1
    | .magic1 => SMEM_PTABLE_MAGIC_2
    | .version => 4
    | .len => 1) ++ [0x30, 0x3A, 0x4D, 0x4F, 0x44, 0x45, 0x4D])

theorem modem_not_repeatable : ¬ Repeatable asciiStrCpyS ⟨modemTable, none⟩ := by
  rintro ⟨between, after, added, first, kept, -⟩
  obtain ⟨-, names⟩ := plainNames_of_unchanged (by decide) first kept
  obtain ⟨stop, ⟨above, -, zero, -⟩, ordered⟩ := names 0 (by decide) (by decide)
  have first : stop ≠ 16 := by
    rintro rfl
    exact absurd zero (by decide)
  have second : stop ≠ 17 := by
    rintro rfl
    exact absurd zero (by decide)
  have start : 16 ≤ stop := above
  exact absurd (by decide) (ordered 16 17 (by decide) (by decide) (by omega) (by decide))

/-- The second call adds the partition `"0"`. -/
example :
    (do
      let (between, first) ← smemAddModemPartitions asciiStrCpyS ⟨modemTable, none⟩ []
      let (_, second) ← smemAddModemPartitions asciiStrCpyS between []
      let name (entry : Ptentry) := entry.name.takeWhile (· ≠ 0)
      return (first.map name, second.map name)).toOption =
    some ([[0x4D, 0x4F, 0x44, 0x45, 0x4D]], [[0x30]]) := by
  decide +kernel

end HtcLeo.Smem
