import Mathlib.Data.List.Induction
import HtcLeo.Word.Packed

/-!
# The log in memory

Every module has its own copy of the serial port library, with a write position of its
own, while the log region is the same for all.  The position of a module is the number of
bytes it has written, modulo the size of the region; so the modules write over each other,
and the region is a log exactly as long as one of them writes.
-/

namespace HtcLeo.Pstore

open Packed

universe u

variable {ι : Type u}

/-! ## Calls -/

/-- A call of `SerialPortWrite` in a module. -/
structure Call (ι : Type u) where
  module : ι
  buffer : List U8
  deriving DecidableEq, Repr

/-- All buffers, in the order of the calls. -/
def written (calls : List (Call ι)) : List U8 :=
  calls.flatMap Call.buffer

/-- The bytes, each with the module that writes it. -/
def bytesOf (calls : List (Call ι)) : List (ι × U8) :=
  calls.flatMap fun call => call.buffer.map (call.module, ·)

/-- All buffers that are not empty come from one module. -/
def OneWriter (calls : List (Call ι)) : Prop :=
  ∀ one ∈ calls, ∀ two ∈ calls, one.buffer ≠ [] → two.buffer ≠ [] → one.module = two.module

theorem map_bytesOf (calls : List (Call ι)) : (bytesOf calls).map Prod.snd = written calls := by
  induction calls with
  | nil => rfl
  | cons call rest ih =>
      rw [bytesOf, List.flatMap_cons, List.map_append, List.map_map, written, List.flatMap_cons]
      exact congrArg₂ _ (List.map_id _) ih

theorem mem_bytesOf {calls : List (Call ι)} {byte : ι × U8} (member : byte ∈ bytesOf calls) :
    ∃ call ∈ calls, call.module = byte.1 ∧ call.buffer ≠ [] := by
  rcases List.mem_flatMap.mp member with ⟨call, called, put⟩
  rcases List.mem_map.mp put with ⟨c, stored, rfl⟩
  exact ⟨call, called, rfl, List.ne_nil_of_mem stored⟩

theorem exists_mem_bytesOf {calls : List (Call ι)} {call : Call ι} (called : call ∈ calls)
    (some : call.buffer ≠ []) : ∃ byte ∈ bytesOf calls, byte.1 = call.module := by
  rcases List.exists_mem_of_ne_nil _ some with ⟨c, stored⟩
  exact ⟨(call.module, c), List.mem_flatMap.mpr ⟨call, called, List.mem_map_of_mem stored⟩, rfl⟩

/-- The bytes of a single writer all come from one module. -/
theorem OneWriter.alone {calls : List (Call ι)} (one : OneWriter calls) {first : ι × U8}
    (put : first ∈ bytesOf calls) : ∀ byte ∈ bytesOf calls, byte.1 = first.1 := by
  intro byte member
  rcases mem_bytesOf member with ⟨call, called, own, nonempty⟩
  rcases mem_bytesOf put with ⟨other, otherCalled, otherOwn, otherNonempty⟩
  rw [← own, ← otherOwn]
  exact one call called other otherCalled nonempty otherNonempty

variable [DecidableEq ι]

/-! ## The library -/

/-- The memory from `PcdPstoreAddress` on, and the static `offset` of each module. -/
structure Log (ι : Type u) where
  memory : Bytes
  offset : ι → U32

/-- The modules as they are loaded. -/
def loaded (memory : Bytes) : Log ι :=
  ⟨memory, fun _ => 0⟩

/-- `size` is `PcdPstoreSize`. -/
def Log.memPutchar (size : U32) (log : Log ι) (module : ι) (c : U8) : Log ι :=
  let offset := log.offset module + 1
  { memory := Function.update log.memory (log.offset module).toNat c
    offset := Function.update log.offset module (if size ≤ offset then 0 else offset) }

/-- `SerialPortWrite`. -/
def Log.serialPortWrite (size : U32) (log : Log ι) (call : Call ι) : Log ι :=
  call.buffer.foldl (fun log c => log.memPutchar size call.module c) log

/-- A sequence of calls. -/
def Log.serialPortWrites (size : U32) (log : Log ι) (calls : List (Call ι)) : Log ι :=
  calls.foldl (Log.serialPortWrite size) log

/-! ## What a log is to keep -/

/-- The last bytes of a stream, each at its index modulo the size. -/
def Recent (memory : Bytes) (size : Nat) (stream : List U8) : Prop :=
  ∀ i byte, stream[i]? = some byte → stream.length ≤ i + size → memory (i % size) = byte

/-- Buffers that fit the region are all there, and of a single module the last bytes are. -/
def KeepsLog (size : U32) (calls : List (Call ι)) : Prop :=
  ((written calls).length ≤ size.toNat → ∀ memory,
      Holds ((loaded memory).serialPortWrites size calls).memory 0 (written calls)) ∧
    ∀ module, (∀ call ∈ calls, call.module = module) → ∀ memory,
      Recent ((loaded memory).serialPortWrites size calls).memory size.toNat (written calls)

/-! ## Single bytes -/

/-- A sequence of bytes, each with the module that writes it. -/
def Log.putAll (size : U32) (log : Log ι) (bytes : List (ι × U8)) : Log ι :=
  bytes.foldl (fun log byte => log.memPutchar size byte.1 byte.2) log

theorem Log.serialPortWrites_eq (size : U32) (log : Log ι) (calls : List (Call ι)) :
    log.serialPortWrites size calls = log.putAll size (bytesOf calls) := by
  induction calls generalizing log with
  | nil => rfl
  | cons call rest ih =>
      rw [bytesOf, List.flatMap_cons, putAll, List.foldl_append, List.foldl_map]
      exact ih _

section Bytes

variable {size : U32} {memory : Bytes} {module : ι}

theorem putAll_append (log : Log ι) (bytes : List (ι × U8)) (byte : ι × U8) :
    log.putAll size (bytes ++ [byte]) = (log.putAll size bytes).memPutchar size byte.1 byte.2 :=
  List.foldl_append

/-- The position of a module counts its bytes. -/
theorem offset_putAll (positive : 0 < size.toNat) (bytes : List (ι × U8)) (module : ι) :
    (((loaded memory).putAll size bytes).offset module).toNat =
      bytes.countP (·.1 = module) % size.toNat := by
  induction bytes using List.reverseRecOn with
  | nil => rw [List.countP_nil, Nat.zero_mod]; rfl
  | append_singleton bytes byte ih =>
      have below := Nat.mod_lt (bytes.countP (·.1 = module)) positive
      have small := size.isLt
      rw [putAll_append, Log.memPutchar, List.countP_append, List.countP_singleton]
      dsimp only
      by_cases own : byte.1 = module
      · have next : (((loaded memory).putAll size bytes).offset module + 1).toNat =
            bytes.countP (·.1 = module) % size.toNat + 1 := by
          rw [BitVec.toNat_add, ih]
          exact Nat.mod_eq_of_lt (by change _ + 1 < _; omega)
        rw [own, Function.update_self, if_pos (decide_eq_true rfl), ← Nat.mod_add_mod]
        split
        · rename_i wraps
          rw [BitVec.le_def, next] at wraps
          have full : bytes.countP (·.1 = module) % size.toNat + 1 = size.toNat := by omega
          rw [full, Nat.mod_self]
          rfl
        · rename_i fits
          rw [BitVec.le_def, next] at fits
          rw [next]
          exact (Nat.mod_eq_of_lt (by omega)).symm
      · rw [Function.update_of_ne (Ne.symm own), ih, if_neg (by simpa using own), Nat.add_zero]

/-- A region that no module has filled up to a position still has it as it was. -/
theorem memory_putAll_of_beyond {bytes : List (ι × U8)} {position : Nat}
    (beyond : ∀ module, bytes.countP (·.1 = module) ≤ position) (inside : position < size.toNat) :
    ((loaded memory).putAll size bytes).memory position = memory position := by
  induction bytes using List.reverseRecOn with
  | nil => rfl
  | append_singleton bytes byte ih =>
      have before : ∀ module, bytes.countP (·.1 = module) ≤ position := fun module =>
        Nat.le_trans (List.countP_append ▸ Nat.le_add_right _ _) (beyond module)
      have own := beyond byte.1
      rw [List.countP_append, List.countP_singleton, if_pos (decide_eq_true rfl)] at own
      rw [putAll_append, Log.memPutchar]
      dsimp only
      rw [Function.update_of_ne, ih before]
      rw [offset_putAll (by omega), Nat.mod_eq_of_lt (by omega)]
      omega

/-- The last bytes of one module are there. -/
theorem recent_putAll {bytes : List (ι × U8)} (alone : ∀ byte ∈ bytes, byte.1 = module) :
    Recent ((loaded memory).putAll size bytes).memory size.toNat (bytes.map Prod.snd) := by
  induction bytes using List.reverseRecOn with
  | nil => exact fun i byte found => absurd found.symm (Option.some_ne_none byte)
  | append_singleton bytes last ih =>
      rw [List.forall_mem_append, List.forall_mem_singleton] at alone
      intro i byte found recent
      rw [List.map_append, List.map_singleton] at found recent
      rw [List.length_append, List.length_singleton, List.length_map] at recent
      have inside := (List.getElem?_eq_some_iff.mp found).1
      rw [List.length_append, List.length_singleton, List.length_map] at inside
      have positive : 0 < size.toNat := by omega
      have count : bytes.countP (·.1 = last.1) = bytes.length :=
        List.countP_eq_length.mpr fun byte member =>
          decide_eq_true ((alone.1 byte member).trans alone.2.symm)
      rw [putAll_append, Log.memPutchar]
      dsimp only
      rw [offset_putAll positive, count]
      rcases Nat.lt_succ_iff_lt_or_eq.mp inside with earlier | rfl
      · rw [List.getElem?_append_left (by rwa [List.length_map])] at found
        rw [Function.update_of_ne, ih alone.1 i byte found]
        · rw [List.length_map]
          omega
        · intro same
          have gap : (bytes.length - i) % size.toNat = 0 :=
            Nat.sub_mod_eq_zero_of_mod_eq same.symm
          rw [Nat.mod_eq_of_lt (by omega)] at gap
          omega
      · rw [List.getElem?_append_right (Nat.le_of_eq (List.length_map _)), List.length_map,
          Nat.sub_self] at found
        rw [Function.update_self]
        exact Option.some.inj found

end Bytes

/-! ## The log of several modules -/

variable {calls : List (Call ι)}

/-- With two writers, no module fills the region up to the last byte. -/
theorem countP_lt_of_two {one two : ι × U8} {bytes : List (ι × U8)} (member : one ∈ bytes)
    (other : two ∈ bytes) (differ : one.1 ≠ two.1) (module : ι) :
    bytes.countP (·.1 = module) < bytes.length := by
  apply Nat.lt_of_le_of_ne List.countP_le_length
  intro all
  have own := List.countP_eq_length.mp all
  exact differ ((of_decide_eq_true (own one member)).trans (of_decide_eq_true (own two other)).symm)

/-- When no module fills the region up to the last byte, that byte can be missing. -/
theorem exists_not_holds {size : U32} {bytes : List (ι × U8)} (nonempty : bytes ≠ [])
    (short : ∀ module, bytes.countP (·.1 = module) < bytes.length)
    (fits : bytes.length ≤ size.toNat) :
    ∃ memory, ¬ Holds ((loaded memory).putAll size bytes).memory 0 (bytes.map Prod.snd) := by
  have positive := List.length_pos_iff.mpr nonempty
  have inside : bytes.length - 1 < (bytes.map Prod.snd).length := by
    rw [List.length_map]
    omega
  generalize found : (bytes.map Prod.snd)[bytes.length - 1] = last
  -- the region was filled with another byte than the last one of the log
  refine ⟨fun _ => last + 1, fun holds => ?_⟩
  have kept := holds (bytes.length - 1) last (List.getElem?_eq_some_iff.mpr ⟨inside, found⟩)
  have beyond : ∀ module, bytes.countP (·.1 = module) ≤ bytes.length - 1 := fun module =>
    Nat.le_sub_one_of_lt (short module)
  rw [Nat.zero_add, memory_putAll_of_beyond beyond (by omega)] at kept
  change last + 1 = last at kept
  bv_omega

theorem serialPortWrites_recent (size : U32) {module : ι}
    (alone : ∀ byte ∈ bytesOf calls, byte.1 = module) (memory : Bytes) :
    Recent ((loaded memory).serialPortWrites size calls).memory size.toNat (written calls) := by
  rw [Log.serialPortWrites_eq, ← map_bytesOf]
  exact recent_putAll alone

/-- The log is kept exactly when the buffers do not fit anyway or one module writes them. -/
theorem keepsLog_iff (size : U32) (calls : List (Call ι)) :
    KeepsLog size calls ↔ size.toNat < (written calls).length ∨ OneWriter calls := by
  constructor
  · rintro ⟨kept, -⟩
    by_contra neither
    rw [not_or, Nat.not_lt] at neither
    rcases neither with ⟨fits, several⟩
    simp only [OneWriter, not_forall] at several
    rcases several with ⟨one, called, two, otherCalled, nonempty, otherNonempty, differ⟩
    rcases exists_mem_bytesOf called nonempty with ⟨byte, put, own⟩
    rcases exists_mem_bytesOf otherCalled otherNonempty with ⟨other, otherPut, otherOwn⟩
    rw [← own, ← otherOwn] at differ
    rw [← map_bytesOf, List.length_map] at fits
    rcases exists_not_holds (List.ne_nil_of_mem put) (countP_lt_of_two put otherPut differ) fits
      with ⟨memory, missing⟩
    apply missing
    rw [map_bytesOf, ← Log.serialPortWrites_eq]
    exact kept (by rwa [← map_bytesOf, List.length_map]) memory
  · intro condition
    constructor
    · intro fits memory i byte found
      have one := condition.resolve_left (Nat.not_lt_of_le fits)
      have inside := (List.getElem?_eq_some_iff.mp found).1
      rcases List.exists_mem_of_length_pos (Nat.lt_of_le_of_lt (Nat.zero_le i) (by
        rwa [← map_bytesOf, List.length_map] at inside)) with ⟨first, put⟩
      have recent := serialPortWrites_recent size (one.alone put) memory i byte found (by omega)
      rwa [Nat.mod_eq_of_lt (by omega), ← Nat.zero_add i] at recent
    · intro module own memory
      apply serialPortWrites_recent
      intro byte member
      rcases mem_bytesOf member with ⟨call, called, same, -⟩
      exact same.symm.trans (own call called)

/-- Two modules write a letter each. -/
def twoLetters : List (Call Bool) :=
  [⟨false, [65]⟩, ⟨true, [66]⟩]

theorem not_keepsLog_twoLetters : ¬ KeepsLog 4 twoLetters := by
  intro keeps
  have kept := keeps.1 (by decide) (fun _ => 0) 0 65 rfl
  exact absurd kept (by decide)

end HtcLeo.Pstore
