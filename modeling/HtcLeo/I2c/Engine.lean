import Mathlib.Data.List.Nodup
import HtcLeo.I2c.Core

/-!
# What the interrupt handler is for

A message list is a queue of items: for every message its address, and then its
bytes to write or to fill.  The engine takes items off this queue as the status
words allow.  It knows nothing of `pos`, `cnt` and `rem`; the handler is shown to
follow it in the next module.
-/

namespace HtcLeo.I2c

open Flags

/-- One unit of traffic: the address of message `i`, or its byte `j`. -/
inductive Item where
  | addr (i : Nat)
  | byte (i j : Nat)
  | fill (i j : Nat)
  deriving DecidableEq, Repr

/-- The message that an item belongs to. -/
def Item.owner : Item → Nat
  | .addr i | .byte i _ | .fill i _ => i

/-- An item that addresses a message. -/
def Item.isAddr : Item → Bool
  | .addr _ => true
  | _ => false

/-- The byte `j` of message `i`. -/
def byteItem (i : Nat) (msg : I2cMsg) (j : Nat) : Item :=
  if msg.isRead then .fill i j else .byte i j

/-- The items of one message: its address, then its bytes. -/
def messageItems (i : Nat) (msg : I2cMsg) : List Item :=
  .addr i :: (List.range msg.len).map (byteItem i msg)

/-- The items of a list whose first message has index `i`. -/
def itemsFrom (i : Nat) : List I2cMsg → List Item
  | [] => []
  | msg :: rest => messageItems i msg ++ itemsFrom (i + 1) rest

/-- The items of all messages. -/
def items (msgs : List I2cMsg) : List Item :=
  itemsFrom 0 msgs

@[simp]
theorem byteItem_owner (i : Nat) (msg : I2cMsg) (j : Nat) : (byteItem i msg j).owner = i := by
  unfold byteItem
  split <;> rfl

theorem byteItem_injective (i : Nat) (msg : I2cMsg) :
    Function.Injective (byteItem i msg) := by
  intro j k same
  unfold byteItem at same
  split at same
  · exact (Item.fill.injEq .. ▸ same).2
  · exact (Item.byte.injEq .. ▸ same).2

@[simp]
theorem byteItem_isAddr (i : Nat) (msg : I2cMsg) (j : Nat) :
    (byteItem i msg j).isAddr = false := by
  unfold byteItem
  split <;> rfl

theorem messageItems_owner {i : Nat} {msg : I2cMsg} {item : Item}
    (member : item ∈ messageItems i msg) : item.owner = i := by
  rcases List.mem_cons.mp member with rfl | later
  · rfl
  · rcases List.mem_map.mp later with ⟨j, -, rfl⟩
    exact byteItem_owner i msg j

theorem itemsFrom_owner {i : Nat} {msgs : List I2cMsg} {item : Item}
    (member : item ∈ itemsFrom i msgs) : i ≤ item.owner := by
  induction msgs generalizing i with
  | nil => cases member
  | cons msg rest ih =>
      rcases List.mem_append.mp member with first | later
      · exact Nat.le_of_eq (messageItems_owner first).symm
      · exact Nat.le_of_succ_le (ih later)

theorem messageItems_nodup (i : Nat) (msg : I2cMsg) : (messageItems i msg).Nodup := by
  apply List.nodup_cons.mpr
  constructor
  · intro member
    rcases List.mem_map.mp member with ⟨j, -, same⟩
    have data := byteItem_isAddr i msg j
    rw [same] at data
    cases data
  · exact List.Nodup.map (byteItem_injective i msg) List.nodup_range

/-- No item occurs twice. -/
theorem itemsFrom_nodup (i : Nat) (msgs : List I2cMsg) : (itemsFrom i msgs).Nodup := by
  induction msgs generalizing i with
  | nil => exact List.nodup_nil
  | cons msg rest ih =>
      refine List.nodup_append.mpr ⟨messageItems_nodup i msg, ih (i + 1), ?_⟩
      rintro item first _ later rfl
      have owner := messageItems_owner first
      have beyond := itemsFrom_owner later
      omega

/-- The data items of a list are the bytes of its messages. -/
theorem byteItem_mem_itemsFrom {start k j : Nat} {msgs : List I2cMsg} {msg : I2cMsg}
    (present : msgs[k]? = some msg) (below : j < msg.len) :
    byteItem (start + k) msg j ∈ itemsFrom start msgs := by
  induction msgs generalizing start k with
  | nil => cases present
  | cons first rest ih =>
      cases k with
      | zero =>
          cases present
          exact List.mem_append_left _ (List.mem_cons_of_mem _
            (List.mem_map.mpr ⟨j, List.mem_range.mpr below, rfl⟩))
      | succ k =>
          have later := @ih (start + 1) k present
          rw [Nat.add_right_comm] at later
          exact List.mem_append_right _ later

theorem exists_of_mem_itemsFrom {start : Nat} {msgs : List I2cMsg} {item : Item}
    (member : item ∈ itemsFrom start msgs) (data : item.isAddr = false) :
    ∃ k msg j, msgs[k]? = some msg ∧ j < msg.len ∧ item = byteItem (start + k) msg j := by
  induction msgs generalizing start with
  | nil => cases member
  | cons first rest ih =>
      rcases List.mem_append.mp member with here | later
      · rcases List.mem_cons.mp here with rfl | here
        · cases data
        · rcases List.mem_map.mp here with ⟨j, below, rfl⟩
          exact ⟨0, first, j, rfl, List.mem_range.mp below, rfl⟩
      · rcases ih later with ⟨k, msg, j, present, below, rfl⟩
        exact ⟨k + 1, msg, j, present, below, by rw [Nat.add_right_comm, Nat.add_assoc]⟩

/-! ## The engine -/

/-- The items that are left, and what the status words have said so far. -/
structure Engine where
  todo : List Item
  needFlush : Bool
  failed : Bool
  complete : Bool
  deriving DecidableEq, Repr

/-- The engine before the first status word. -/
def Engine.start (msgs : List I2cMsg) : Engine :=
  ⟨items msgs, false, false, false⟩

/-- Take an item that the controller accepts a word for. -/
def Engine.write : List Item → Bool × List Item
  | .addr _ :: rest => (true, rest)
  | .byte _ _ :: rest => (true, rest)
  | todo => (false, todo)

/-- Take an item that the controller has a word for, or flush that word.  A read of
a single byte leaves one more word to flush. -/
def Engine.read (msgs : List I2cMsg) (needFlush : Bool) : List Item → Bool × List Item
  | .fill i _ :: rest => (needFlush || (message msgs i).len == 1, rest)
  | todo => (false, todo)

/-- What a status word lets the engine write: whether it had a word, and what is left. -/
def Engine.written (engine : Engine) (status : U32) : Bool × List Item :=
  if test status I2C_STATUS_WR_BUFFER_FULL then (true, engine.todo)
  else Engine.write engine.todo

/-- What it lets the engine read after that: the flush flag, and what is left. -/
def Engine.received (msgs : List I2cMsg) (engine : Engine) (status : U32) : Bool × List Item :=
  if test status I2C_STATUS_RD_BUFFER_FULL then
    Engine.read msgs engine.needFlush (engine.written status).2
  else (engine.needFlush, (engine.written status).2)

/-- The status word finds nothing left to write, to read or to flush. -/
def Engine.completes (msgs : List I2cMsg) (engine : Engine) (status : U32) : Bool :=
  (engine.received msgs status).2.isEmpty && !(engine.written status).1 &&
    !(engine.received msgs status).1

/-- One status word. -/
def Engine.step (msgs : List I2cMsg) (engine : Engine) (status : U32) : Engine :=
  if test status I2C_STATUS_ERROR_MASK then { engine with failed := true }
  else
    { engine with
      todo := (engine.received msgs status).2
      needFlush := (engine.received msgs status).1
      complete := engine.complete || engine.completes msgs status }

/-- The engine after a sequence of status words. -/
def Engine.run (msgs : List I2cMsg) (statuses : List U32) : Engine :=
  statuses.foldl (Engine.step msgs) (Engine.start msgs)

/-- The engine fails exactly at an error bit. -/
theorem Engine.step_failed (msgs : List I2cMsg) (engine : Engine) (status : U32) :
    (engine.step msgs status).failed =
      (engine.failed || test status I2C_STATUS_ERROR_MASK) := by
  unfold Engine.step
  cases test status I2C_STATUS_ERROR_MASK <;> simp

theorem Engine.run_append (msgs : List I2cMsg) (statuses : List U32) (status : U32) :
    Engine.run msgs (statuses ++ [status]) = (Engine.run msgs statuses).step msgs status := by
  simp [Engine.run]

end HtcLeo.I2c
