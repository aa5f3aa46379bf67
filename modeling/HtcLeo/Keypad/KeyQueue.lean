import HtcLeo.Keypad.Core

/-!
# The key queue as it is stored

`EFI_KEY_QUEUE` is an array with two indices, which nothing but the functions of the queue
keeps within the array.  Started with two equal indices, they do so: the stored queue is a
ring buffer, and the ring buffer a list that drops its oldest key when it is full.
-/

namespace HtcLeo.Keypad

/-! ## The stored queue -/

/-- `EFI_KEY_QUEUE`. -/
structure StoredQueue where
  buffer : Vector EfiKeyData KEYPAD_EFI_KEY_MAX_COUNT
  head : U32
  tail : U32

/-- What an operation returns; a popped key is `none` if there was no place for it. -/
inductive QueueResult where
  | done
  | notReady
  | popped (keyData : Option EfiKeyData)
  deriving DecidableEq, Repr

/-- A call on the queue; `pop` says whether the caller wants the key. -/
inductive QueueCall where
  | push (keyData : EfiKeyData)
  | pop (keyData : Bool)
  | reset
  deriving DecidableEq, Repr

namespace StoredQueue

/-- An access outside of the buffer has no result. -/
def read (queue : StoredQueue) (index : U32) : Option EfiKeyData :=
  queue.buffer[index.toNat]?

/-- A store into the buffer; `none` outside it. -/
def write (queue : StoredQueue) (index : U32) (keyData : EfiKeyData) : Option StoredQueue :=
  if inside : index.toNat < KEYPAD_EFI_KEY_MAX_COUNT then
    some { queue with buffer := queue.buffer.set index.toNat keyData inside }
  else none

/-- The index after this one. -/
def following (index : U32) : U32 :=
  (index + 1) % BitVec.ofNat 32 KEYPAD_EFI_KEY_MAX_COUNT

/-- `IsEfikeyBufEmpty`. -/
def isEfikeyBufEmpty (queue : StoredQueue) : Bool :=
  queue.head == queue.tail

/-- `keyData` is `false` for a null pointer. -/
def popEfikeyBufHead (queue : StoredQueue) (keyData : Bool) :
    Option (QueueResult × StoredQueue) :=
  if queue.isEfikeyBufEmpty then some (.notReady, queue)
  else
    (if keyData then (queue.read queue.head).map some else some none).map fun copied =>
      (.popped copied, { queue with head := following queue.head })

/-- `PushEfikeyBufTail`: a full queue loses its oldest key. -/
def pushEfikeyBufTail (queue : StoredQueue) (keyData : EfiKeyData) : Option StoredQueue :=
  (if following queue.tail = queue.head then (queue.popEfikeyBufHead false).map (·.2)
    else some queue).bind fun queue =>
      (queue.write queue.tail keyData).map fun queue =>
        { queue with tail := following queue.tail }

/-- What `InitKeypad` does to a queue. -/
def reset (queue : StoredQueue) : StoredQueue :=
  { queue with head := 0, tail := 0 }

/-- One call, with its result. -/
def perform (queue : StoredQueue) : QueueCall → Option (QueueResult × StoredQueue)
  | .push keyData => (queue.pushEfikeyBufTail keyData).map fun queue => (.done, queue)
  | .pop keyData => queue.popEfikeyBufHead keyData
  | .reset => some (.done, queue.reset)

/-- The results of a number of calls, and the queue after them. -/
def performAll (queue : StoredQueue) : List QueueCall → Option (List QueueResult × StoredQueue)
  | [] => some ([], queue)
  | call :: later =>
      (queue.perform call).bind fun done =>
        (done.2.performAll later).map fun rest => (done.1 :: rest.1, rest.2)

/-- An empty queue, whatever is in the buffer and wherever the indices are. -/
def empty (buffer : Vector EfiKeyData KEYPAD_EFI_KEY_MAX_COUNT)
    (index : Fin KEYPAD_EFI_KEY_MAX_COUNT) : StoredQueue :=
  ⟨buffer, BitVec.ofNat 32 index, BitVec.ofNat 32 index⟩

end StoredQueue

/-! ## The list -/

/-- A list of at most `KEYPAD_EFI_KEY_MAX_COUNT - 1` keys, the oldest first. -/
def performOnList (keys : List EfiKeyData) : QueueCall → QueueResult × List EfiKeyData
  | .push keyData =>
      (.done, (if keys.length = KEYPAD_EFI_KEY_MAX_COUNT - 1 then keys.tail else keys) ++ [keyData])
  | .pop keyData =>
      match keys with
      | [] => (.notReady, [])
      | first :: rest => (.popped (if keyData then some first else none), rest)
  | .reset => (.done, [])

/-- A list of calls on the list of keys that the queue stands for. -/
def performAllOnList (keys : List EfiKeyData) : List QueueCall → List QueueResult × List EfiKeyData
  | [] => ([], keys)
  | call :: later =>
      let done := performOnList keys call
      let rest := performAllOnList done.2 later
      (done.1 :: rest.1, rest.2)

/-- The keys are stored one after the other from the head on, up to the tail. -/
structure StoredQueue.Stores (queue : StoredQueue) (keys : List EfiKeyData) : Prop where
  head_lt : queue.head.toNat < KEYPAD_EFI_KEY_MAX_COUNT
  tail_lt : queue.tail.toNat < KEYPAD_EFI_KEY_MAX_COUNT
  length_le : keys.length ≤ KEYPAD_EFI_KEY_MAX_COUNT - 1
  tail_eq : queue.tail.toNat = (queue.head.toNat + keys.length) % KEYPAD_EFI_KEY_MAX_COUNT
  stored : ∀ i, i < keys.length →
    queue.buffer[(queue.head.toNat + i) % KEYPAD_EFI_KEY_MAX_COUNT]? = keys[i]?

/-! ## The ring buffer between the two -/

/-- The same cells and the same indices. -/
structure StoredQueue.Refines (queue : StoredQueue) (ring : EfiKeyQueue) : Prop where
  buffer : queue.buffer = ring.cells
  head : queue.head.toNat = ring.head
  tail : queue.tail.toNat = ring.tail

namespace StoredQueue

section Refines

variable {queue : StoredQueue} {ring : EfiKeyQueue}

theorem following_toNat (index : U32) :
    (following index).toNat = (index.toNat + 1) % KEYPAD_EFI_KEY_MAX_COUNT := by
  have count : (BitVec.ofNat 32 KEYPAD_EFI_KEY_MAX_COUNT).toNat = KEYPAD_EFI_KEY_MAX_COUNT := rfl
  have divides : KEYPAD_EFI_KEY_MAX_COUNT ∣ 2 ^ 32 := by decide
  rw [following, BitVec.toNat_umod, count, BitVec.toNat_add, Nat.mod_mod_of_dvd _ divides]
  rfl

/-- The indices meet at the same times. -/
theorem Refines.eq_iff (refines : queue.Refines ring) :
    queue.head = queue.tail ↔ ring.head = ring.tail := by
  rw [← refines.head, ← refines.tail, BitVec.toNat_inj]

theorem Refines.advance (refines : queue.Refines ring) :
    ({ queue with head := following queue.head } : StoredQueue).Refines ring.advance where
  buffer := refines.buffer
  head := by
    rw [following_toNat, refines.head]
    rfl
  tail := refines.tail

theorem Refines.popEfikeyBufHead (refines : queue.Refines ring) (keyData : Bool) :
    ∃ after, queue.popEfikeyBufHead keyData =
        some (match ring.pop with
          | none => .notReady
          | some (oldest, _) => .popped (if keyData then some oldest else none), after) ∧
      after.Refines ring.drop := by
  have same : queue.isEfikeyBufEmpty = ring.isEmpty := by
    rw [isEfikeyBufEmpty, RingBuffer.isEmpty, Bool.eq_iff_iff, beq_iff_eq, beq_iff_eq,
      refines.eq_iff]
  rw [StoredQueue.popEfikeyBufHead, same, RingBuffer.drop, RingBuffer.pop]
  cases empty : ring.isEmpty with
  | true => exact ⟨queue, rfl, refines⟩
  | false =>
      refine ⟨_, ?_, refines.advance⟩
      have read : queue.read queue.head = some (ring.cells.get ⟨ring.head, ring.head_lt⟩) := by
        rw [StoredQueue.read, refines.buffer, refines.head]
        exact Vector.getElem?_eq_getElem ring.head_lt
      cases keyData <;> simp [read]

/-- A key is written into the cell of the tail. -/
theorem Refines.put (refines : queue.Refines ring) (keyData : EfiKeyData) :
    ∃ after, ((queue.write queue.tail keyData).map fun queue =>
        { queue with tail := following queue.tail }) = some after ∧
      after.Refines (ring.put keyData) := by
  have inside : queue.tail.toNat < KEYPAD_EFI_KEY_MAX_COUNT := by
    rw [refines.tail]
    exact ring.tail_lt
  refine ⟨{ queue with
      buffer := queue.buffer.set queue.tail.toNat keyData inside
      tail := following queue.tail }, by rw [write, dif_pos inside, Option.map_some], ?_,
    refines.head, ?_⟩
  · simp only [RingBuffer.put, refines.buffer, refines.tail]
  · simp only [following_toNat, RingBuffer.put, refines.tail]

theorem Refines.pushEfikeyBufTail (refines : queue.Refines ring) (keyData : EfiKeyData) :
    ∃ after, queue.pushEfikeyBufTail keyData = some after ∧
      after.Refines (ring.push keyData) := by
  have full_iff : following queue.tail = queue.head ↔
      (ring.tail + 1) % KEYPAD_EFI_KEY_MAX_COUNT = ring.head := by
    rw [← refines.head, ← refines.tail, ← following_toNat, BitVec.toNat_inj]
  rw [StoredQueue.pushEfikeyBufTail, RingBuffer.push]
  by_cases full : following queue.tail = queue.head
  · rw [if_pos full, if_pos (full_iff.mp full)]
    obtain ⟨dropped, popped, dropRefines⟩ := refines.popEfikeyBufHead false
    rw [popped, Option.map_some, Option.bind_some]
    exact dropRefines.put keyData
  · rw [if_neg full, if_neg (mt full_iff.mpr full), Option.bind_some]
    exact refines.put keyData

/-- A call does to the queue what it does to the list of the keys that wait. -/
theorem Refines.perform (refines : queue.Refines ring) (call : QueueCall) :
    ∃ after ringAfter, queue.perform call =
        some ((performOnList ring.contents call).1, after) ∧
      after.Refines ringAfter ∧ ringAfter.contents = (performOnList ring.contents call).2 := by
  cases call with
  | push keyData =>
      obtain ⟨after, pushed, pushRefines⟩ := refines.pushEfikeyBufTail keyData
      refine ⟨after, ring.push keyData, by rw [StoredQueue.perform, pushed]; rfl, pushRefines, ?_⟩
      have full : ring.contents.length + 1 = KEYPAD_EFI_KEY_MAX_COUNT ↔
          ring.contents.length = KEYPAD_EFI_KEY_MAX_COUNT - 1 := by
        simp [KEYPAD_EFI_KEY_MAX_COUNT]
      rw [RingBuffer.contents_push (by decide), performOnList]
      simp only [full]
  | pop keyData =>
      obtain ⟨after, popped, dropRefines⟩ := refines.popEfikeyBufHead keyData
      refine ⟨after, ring.drop, ?_, dropRefines, ?_⟩
      · rw [StoredQueue.perform, popped]
        cases waiting : ring.contents with
        | nil => rw [RingBuffer.pop_of_nil waiting, performOnList]
        | cons oldest others => rw [(RingBuffer.pop_of_cons waiting).1, performOnList]
      · rw [RingBuffer.contents_drop]
        cases ring.contents <;> rfl
  | reset =>
      have positive : 0 < KEYPAD_EFI_KEY_MAX_COUNT := by decide
      refine ⟨_, ⟨ring.cells, 0, 0, positive, positive⟩, rfl, ⟨refines.buffer, rfl, rfl⟩, ?_⟩
      exact (RingBuffer.isEmpty_iff _).mp rfl

theorem Refines.performAll (refines : queue.Refines ring) (calls : List QueueCall) :
    ∃ after ringAfter, queue.performAll calls =
        some ((performAllOnList ring.contents calls).1, after) ∧
      after.Refines ringAfter ∧
      ringAfter.contents = (performAllOnList ring.contents calls).2 := by
  induction calls generalizing queue ring with
  | nil => exact ⟨queue, ring, rfl, refines, rfl⟩
  | cons call later ih =>
      obtain ⟨next, ringNext, done, nextRefines, contents⟩ := refines.perform call
      obtain ⟨after, ringAfter, rest, afterRefines, contentsAfter⟩ := ih nextRefines
      rw [contents] at rest contentsAfter
      refine ⟨after, ringAfter, ?_, afterRefines, contentsAfter⟩
      rw [StoredQueue.performAll, done, Option.bind_some, rest]
      rfl

/-- The keys that wait in the ring are stored in the queue. -/
theorem Refines.stores (refines : queue.Refines ring) : queue.Stores ring.contents where
  head_lt := by
    rw [refines.head]
    exact ring.head_lt
  tail_lt := by
    rw [refines.tail]
    exact ring.tail_lt
  length_le := by
    rw [RingBuffer.contents_length]
    exact Nat.le_pred_of_lt ring.count_lt
  tail_eq := by
    rw [refines.tail, refines.head, RingBuffer.contents_length, RingBuffer.place_count]
  stored := by
    intro i waits
    rw [RingBuffer.contents_length] at waits
    have place := Nat.mod_lt (ring.head + i) (Nat.zero_lt_of_lt ring.head_lt)
    rw [refines.buffer, refines.head, RingBuffer.contents, List.getElem?_map,
      List.getElem?_range waits, Option.map_some, RingBuffer.item,
      Vector.getElem?_eq_getElem place]
    rfl

end Refines

end StoredQueue

/-- Along any calls the queue is a bounded list, its indices stay below the number of
cells, and nothing outside of them is accessed. -/
theorem key_queue_is_bounded_list (buffer : Vector EfiKeyData KEYPAD_EFI_KEY_MAX_COUNT)
    (index : Fin KEYPAD_EFI_KEY_MAX_COUNT) (calls : List QueueCall) :
    ∃ after, (StoredQueue.empty buffer index).performAll calls =
        some ((performAllOnList [] calls).1, after) ∧
      after.Stores (performAllOnList [] calls).2 := by
  let ring : EfiKeyQueue := ⟨buffer, index, index, index.isLt, index.isLt⟩
  have empty : ring.contents = [] := (RingBuffer.isEmpty_iff ring).mp (beq_self_eq_true _)
  have start : (BitVec.ofNat 32 index.val).toNat = index.val :=
    Nat.mod_eq_of_lt (Nat.lt_trans index.isLt (by decide))
  have refines : (StoredQueue.empty buffer index).Refines ring := ⟨rfl, start, start⟩
  obtain ⟨after, ringAfter, performed, afterRefines, contents⟩ := refines.performAll calls
  rw [empty] at performed contents
  refine ⟨after, performed, ?_⟩
  rw [← contents]
  exact afterRefines.stores

end HtcLeo.Keypad
