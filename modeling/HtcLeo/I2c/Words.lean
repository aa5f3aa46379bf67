import HtcLeo.I2c.Success

/-!
# The words of a message list

A message list asks for a stream of words in `I2C_WRITE_DATA`: for every message its
address, and for a write its bytes.  Whatever the status words are, the handler stays
inside the list and inside the buffers, starts one message after the other, and has
written a prefix of the stream.
-/

namespace HtcLeo.I2c

open Flags

/-! ## The stream -/

/-- The flag of the last word of a list. -/
def lastFlag (last : Bool) : BitVec 16 :=
  if last then I2C_WRITE_DATA_LAST_BYTE else 0

/-- The word for an address, which says whether it is the last one. -/
def addressWord (msg : I2cMsg) (last : Bool) : BitVec 16 :=
  I2C_WRITE_DATA_ADDR_BYTE ||| (msg.addr <<< 1) ||| (if msg.isRead then 1 else 0) |||
    lastFlag last

/-- The words for the bytes of a message. -/
def byteWords (final : Bool) : List U8 → List (BitVec 16)
  | [] => []
  | value :: rest =>
      (value.setWidth 16 ||| lastFlag (final && rest.isEmpty)) :: byteWords final rest

/-- The words of a message, which may be the final one. -/
def messageWords (final : Bool) (msg : I2cMsg) : List (BitVec 16) :=
  addressWord msg (final && msg.buf.isEmpty) ::
    if msg.isRead then [] else byteWords final msg.buf

/-- The words for all messages. -/
def wordStream : List I2cMsg → List (BitVec 16)
  | [] => []
  | msg :: rest => messageWords rest.isEmpty msg ++ wordStream rest

/-! ## The words of items -/

/-- The word that the handler writes for an item. -/
def itemWord (msgs : List I2cMsg) : Item → Option (BitVec 16)
  | .addr i => some (addrWord (message msgs i) (msgs.length - i))
  | .byte i j =>
      some (dataWord ((message msgs i).buf.getD j 0) ((message msgs i).len - j) (msgs.length - i))
  | .fill _ _ => none

theorem addrWord_eq (msg : I2cMsg) {rem : Int} {final : Bool} (last : rem = 1 ↔ final = true) :
    addrWord msg rem = addressWord msg (final && msg.buf.isEmpty) := by
  have flag : (rem = 1 ∧ msg.len = 0) ↔ (final && msg.buf.isEmpty) = true := by
    rw [Bool.and_eq_true, last, I2cMsg.len, List.isEmpty_iff_length_eq_zero]
  rw [addrWord, addressWord, lastFlag]
  simp only [flag]

theorem dataWord_eq (value : U8) {cnt rem : Int} {only final : Bool}
    (single : cnt = 1 ↔ only = true) (last : rem = 1 ↔ final = true) :
    dataWord value cnt rem = value.setWidth 16 ||| lastFlag (final && only) := by
  have flag : (cnt = 1 ∧ rem = 1) ↔ (final && only) = true := by
    rw [Bool.and_eq_true, single, last, and_comm]
  rw [dataWord, lastFlag]
  simp only [flag]

/-- Byte by byte, the handler's words are those of the stream. -/
theorem map_dataWord {rem : Int} {final : Bool} (last : rem = 1 ↔ final = true)
    (buf : List U8) :
    ((List.range buf.length).map fun j : Nat =>
      dataWord (buf.getD j 0) ((buf.length : Int) - j) rem) = byteWords final buf := by
  induction buf with
  | nil => rfl
  | cons value rest ih =>
      have only : ((value :: rest).length : Int) - (0 : Nat) = 1 ↔ rest.isEmpty = true := by
        rw [List.isEmpty_iff_length_eq_zero, List.length_cons]
        omega
      have later (j : Nat) :
          ((rest.length + 1 : Nat) : Int) - (j.succ : Nat) = (rest.length : Int) - j := by
        omega
      rw [List.length_cons, List.range_succ_eq_map, List.map_cons, List.map_map, byteWords, ← ih]
      congr 1
      · exact dataWord_eq value only last
      · refine List.map_congr_left fun j _ => ?_
        rw [Function.comp_apply, later]
        rfl

theorem filterMap_messageItems {msgs : List I2cMsg} {i : Nat} {final : Bool}
    (last : (msgs.length : Int) - i = 1 ↔ final = true) :
    (messageItems i (message msgs i)).filterMap (itemWord msgs) =
      messageWords final (message msgs i) := by
  have first : itemWord msgs (.addr i) =
      some (addressWord (message msgs i) (final && (message msgs i).buf.isEmpty)) :=
    congrArg some (addrWord_eq _ last)
  rw [messageItems, List.filterMap_cons_some first, messageWords, List.filterMap_map]
  congr 1
  by_cases read : (message msgs i).isRead = true
  · rw [if_pos read]
    refine List.filterMap_eq_nil_iff.mpr fun j _ => ?_
    rw [Function.comp_apply, byteItem, if_pos read]
    rfl
  · have words : itemWord msgs ∘ byteItem i (message msgs i) = fun j : Nat =>
        some (dataWord ((message msgs i).buf.getD j 0) ((message msgs i).len - j)
          (msgs.length - i)) := by
      funext j
      rw [Function.comp_apply, byteItem, if_neg read]
      rfl
    rw [if_neg read, words, List.filterMap_eq_map']
    exact map_dataWord last (message msgs i).buf

/-- The items of a list stand for its stream. -/
theorem filterMap_itemsFrom {msgs rest : List I2cMsg} {i : Nat} (left : msgs.drop i = rest) :
    (itemsFrom i rest).filterMap (itemWord msgs) = wordStream rest := by
  induction rest generalizing i with
  | nil => rfl
  | cons msg rest ih =>
      have length := congrArg List.length left
      rw [List.length_drop, List.length_cons] at length
      have inside : i < msgs.length := by omega
      rw [List.drop_eq_getElem_cons inside] at left
      rcases List.cons.inj left with ⟨current, left⟩
      have current : message msgs i = msg := by
        rw [← current]
        simp [message, inside]
      have last : (msgs.length : Int) - i = 1 ↔ rest.isEmpty = true := by
        rw [List.isEmpty_iff_length_eq_zero]
        omega
      have here := filterMap_messageItems last
      rw [current] at here
      rw [itemsFrom, List.filterMap_append, here, ih left, wordStream]

theorem filterMap_items (msgs : List I2cMsg) :
    (items msgs).filterMap (itemWord msgs) = wordStream msgs :=
  filterMap_itemsFrom rfl

/-! ## The operations of the handler -/

/-- A word of an address or of write data. -/
def BusOp.toWord : BusOp → Option (BitVec 16)
  | .addr _ word | .byte _ _ word => some word
  | _ => none

/-- The message that an operation starts. -/
def BusOp.started : BusOp → Option Nat
  | .addr i _ => some i
  | _ => none

/-- An access to a buffer is below the length of the message. -/
def BusOp.Inside (msgs : List I2cMsg) : BusOp → Prop
  | .byte i j _ | .fill i j _ => j < (message msgs i).len
  | _ => True

/-- What an operation writes is the word of its item. -/
def BusOp.Writes (msgs : List I2cMsg) (op : BusOp) : Prop :=
  op.toWord = op.toItem.bind (itemWord msgs)

/-- Operations that access buffers inside and write the words of their items. -/
def Sound (msgs : List I2cMsg) (ops : List BusOp) : Prop :=
  ∀ op ∈ ops, op.Inside msgs ∧ op.Writes msgs

theorem Sound.nil (msgs : List I2cMsg) : Sound msgs [] :=
  nofun

theorem Sound.append {msgs : List I2cMsg} {first second : List BusOp} (one : Sound msgs first)
    (two : Sound msgs second) : Sound msgs (first ++ second) :=
  List.forall_mem_append.mpr ⟨one, two⟩

theorem Sound.status (msgs : List I2cMsg) (word : U32) : Sound msgs [.status word] :=
  List.forall_mem_singleton.mpr ⟨trivial, rfl⟩

/-- A part of a run appends sound operations. -/
def Appends (msgs : List I2cMsg) (before after : Driver) : Prop :=
  ∃ ops, after.log = before.log ++ ops ∧ Sound msgs ops

theorem Appends.refl (msgs : List I2cMsg) (i2c : Driver) : Appends msgs i2c i2c :=
  ⟨[], (List.append_nil _).symm, Sound.nil msgs⟩

theorem Appends.trans {msgs : List I2cMsg} {one two three : Driver}
    (first : Appends msgs one two) (second : Appends msgs two three) :
    Appends msgs one three := by
  rcases first with ⟨ops, log, sound⟩
  rcases second with ⟨later, log', sound'⟩
  exact ⟨ops ++ later, by rw [log', log, List.append_assoc], sound.append sound'⟩

section Parts

variable {msgs : List I2cMsg} {i k : Nat} {i2c : Driver}

theorem fillWriteBuffer_appends (at_ : At msgs i k i2c.dev) :
    Appends msgs i2c (fillWriteBuffer msgs i i2c).2 := by
  rcases at_ with ⟨inside, msg_eq, rem_eq, pos_eq, le_len, cnt_eq⟩
  by_cases neg : i2c.dev.pos < 0
  · rw [fillWriteBuffer, if_pos neg]
    refine ⟨[_], rfl, List.forall_mem_singleton.mpr ⟨trivial, ?_⟩⟩
    rw [rem_eq]
    rfl
  · rw [fillWriteBuffer, if_neg neg]
    split
    · exact Appends.refl msgs i2c
    · split
      · exact Appends.refl msgs i2c
      · refine ⟨[_], rfl, List.forall_mem_singleton.mpr ⟨?_, ?_⟩⟩
        · change i2c.dev.pos.toNat < (message msgs i).len
          omega
        · have left : i2c.dev.cnt = (message msgs i).len - (i2c.dev.pos.toNat : Nat) := by omega
          rw [left, rem_eq]
          rfl

theorem readBuffer_appends (at_ : At msgs i k i2c.dev) (data : U32) :
    Appends msgs i2c (readBuffer msgs i data i2c) := by
  have request (c : Prop) [Decidable c] :
      Sound msgs (if c then [.last I2C_WRITE_DATA_LAST_BYTE] else []) := by
    split
    · exact List.forall_mem_singleton.mpr ⟨trivial, rfl⟩
    · exact Sound.nil msgs
  rcases at_ with ⟨inside, msg_eq, rem_eq, pos_eq, le_len, cnt_eq⟩
  by_cases expects : (message msgs i).isRead = true ∧ i2c.dev.pos ≥ 0 ∧ i2c.dev.cnt ≠ 0
  · rw [readBuffer, if_pos expects]
    refine ⟨_, rfl, (request _).append (List.forall_mem_singleton.mpr ⟨?_, rfl⟩)⟩
    change i2c.dev.pos.toNat < (message msgs i).len
    rcases expects with ⟨-, nonneg, left⟩
    omega
  · rw [readBuffer, if_neg expects]
    exact ⟨_, rfl, (request _).append (List.forall_mem_singleton.mpr ⟨trivial, rfl⟩)⟩

theorem advance_log (notDone : Bool) (i2c : Driver) :
    (advance msgs i notDone i2c).log = i2c.log := by
  unfold advance
  simp only
  split
  · split
    · rfl
    · split <;> rfl
  · rfl

end Parts

/-- One run of the handler. -/
theorem interruptLocked_appends {msgs : List I2cMsg} {i2c : Driver} {engine : Engine}
    (represents : Represents msgs i2c.dev engine) (irq : Irq) :
    Appends msgs i2c (interruptLocked msgs i2c irq) := by
  rcases represents with ⟨i, k, at_, finished, todo, flush⟩
  have noted : Appends msgs i2c (i2c.emit [.status irq.status]) :=
    ⟨_, rfl, Sound.status msgs irq.status⟩
  rw [interruptLocked_of_msg at_.msg_eq]
  simp only
  split
  · exact noted
  · have wrote : Appends msgs (i2c.emit [.status irq.status])
        (writePart msgs i irq.status (i2c.emit [.status irq.status])).2 := by
      unfold writePart
      split
      · exact Appends.refl msgs _
      · exact fillWriteBuffer_appends at_
    obtain ⟨-, -, k', ops, -, at', -, -, -⟩ :=
      @writePart_spec msgs i k (i2c.emit [.status irq.status]) engine at_ finished todo irq.status
    have read : Appends msgs (writePart msgs i irq.status (i2c.emit [.status irq.status])).2
        (readPart msgs i irq (writePart msgs i irq.status (i2c.emit [.status irq.status])).2) := by
      unfold readPart
      split
      · exact readBuffer_appends at' irq.data
      · exact Appends.refl msgs _
    rcases (noted.trans wrote).trans read with ⟨ops, log, sound⟩
    exact ⟨ops, (advance_log _ _).trans log, sound⟩

/-- Any sequence of runs. -/
theorem interrupts_append {msgs : List I2cMsg} {origin i2c : Driver} {statuses words : List U32}
    (follows : Follows msgs origin statuses words i2c) (irqs : List Irq) :
    Appends msgs i2c (irqs.foldl (interruptLocked msgs) i2c) := by
  induction irqs generalizing i2c statuses words with
  | nil => exact Appends.refl msgs i2c
  | cons irq rest ih =>
      exact (interruptLocked_appends follows.represents irq).trans (ih (follows.interrupt irq))

/-- Sound operations write the words of the items that they take. -/
theorem Sound.words {msgs : List I2cMsg} {ops : List BusOp} (sound : Sound msgs ops) :
    ops.filterMap BusOp.toWord = (ops.filterMap BusOp.toItem).filterMap (itemWord msgs) := by
  rw [List.filterMap_filterMap]
  exact List.filterMap_congr fun op member => (sound op member).2

/-! ## The order of the messages -/

/-- The message that an item starts. -/
def Item.started : Item → Option Nat
  | .addr i => some i
  | _ => none

theorem BusOp.started_eq (op : BusOp) : op.started = op.toItem.bind Item.started := by
  cases op <;> rfl

/-- No byte starts a message. -/
theorem filterMap_started_bytes (i : Nat) (msg : I2cMsg) (js : List Nat) :
    (js.map (byteItem i msg)).filterMap Item.started = [] := by
  rw [List.filterMap_map]
  refine List.filterMap_eq_nil_iff.mpr fun j _ => ?_
  rw [Function.comp_apply]
  unfold byteItem
  split <;> rfl

theorem filterMap_started_messageItems (i : Nat) (msg : I2cMsg) :
    (messageItems i msg).filterMap Item.started = [i] :=
  congrArg (i :: ·) (filterMap_started_bytes i msg _)

theorem filterMap_started_itemsFrom (i : Nat) (msgs : List I2cMsg) :
    (itemsFrom i msgs).filterMap Item.started = List.range' i msgs.length := by
  induction msgs generalizing i with
  | nil => rfl
  | cons msg rest ih =>
      rw [itemsFrom, List.filterMap_append, filterMap_started_messageItems, ih, List.length_cons,
        List.range'_succ]
      rfl

/-- The messages that are still to be started at a position. -/
theorem filterMap_started_todoAt {msgs : List I2cMsg} {i k : Nat} (inside : i < msgs.length) :
    (todoAt msgs i k).filterMap Item.started =
      List.range' (if k = 0 then i else i + 1)
        (msgs.length - if k = 0 then i else i + 1) := by
  cases k with
  | zero =>
      rw [if_pos rfl, ← itemsFrom_drop inside, filterMap_started_itemsFrom, List.length_drop]
  | succ k =>
      rw [todoAt, messageItems, List.drop_succ_cons, ← List.map_drop, List.filterMap_append,
        filterMap_started_bytes, filterMap_started_itemsFrom, List.length_drop,
        if_neg (Nat.succ_ne_zero k), List.nil_append]

/-- Whatever is left, the messages before it have been started in order. -/
theorem Moves.started {msgs : List I2cMsg} {ops : List BusOp} {i k : Nat} {words : List U32}
    (inside : i < msgs.length) (moves : Moves msgs ops (items msgs) (todoAt msgs i k) words) :
    ops.filterMap BusOp.started = List.range (if k = 0 then i else i + 1) := by
  have split : ops.filterMap BusOp.started =
      (ops.filterMap BusOp.toItem).filterMap Item.started := by
    rw [List.filterMap_filterMap]
    exact List.filterMap_congr fun op _ => op.started_eq
  have all := filterMap_started_itemsFrom 0 msgs
  rw [← items, ← moves.taken, List.filterMap_append, filterMap_started_todoAt inside] at all
  have bound : (if k = 0 then i else i + 1) ≤ msgs.length := by
    split <;> omega
  generalize (if k = 0 then i else i + 1) = next at all bound ⊢
  have cut : List.range' 0 msgs.length =
      List.range' 0 next ++ List.range' next (msgs.length - next) := by
    have both := @List.range'_append_1 0 next (msgs.length - next)
    rw [Nat.zero_add, Nat.add_sub_cancel' bound] at both
    exact both.symm
  rw [cut] at all
  rw [split, List.append_cancel_right all, List.range_eq_range']

/-! ## The flags of the stream -/

theorem test_lastByte (word : BitVec 16) :
    test word I2C_WRITE_DATA_LAST_BYTE = word.getLsbD 9 := by
  have bit : I2C_WRITE_DATA_LAST_BYTE = BitVec.twoPow 16 9 := rfl
  rw [test, bit, BitVec.and_twoPow]
  cases word.getLsbD 9 <;> rfl

theorem lastFlag_getLsbD (last : Bool) : (lastFlag last).getLsbD 9 = last := by
  cases last <;> rfl

/-- The bit of the read flag is set for a read. -/
theorem addressWord_read (msg : I2cMsg) (last : Bool) :
    (addressWord msg last).getLsbD 0 = msg.isRead := by
  rw [addressWord, BitVec.getLsbD_or, BitVec.getLsbD_or, BitVec.getLsbD_or,
    BitVec.getLsbD_shiftLeft]
  cases msg.isRead <;> cases last <;> rfl

/-- The flag of an address word is set for the last word, or by bit 8 of the address. -/
theorem addressWord_last (msg : I2cMsg) (last : Bool) :
    (addressWord msg last).getLsbD 9 = (msg.addr.getLsbD 8 || last) := by
  have read : (if msg.isRead then (1 : BitVec 16) else 0).getLsbD 9 = false := by
    split <;> rfl
  have address : I2C_WRITE_DATA_ADDR_BYTE.getLsbD 9 = false := rfl
  rw [addressWord, BitVec.getLsbD_or, BitVec.getLsbD_or, BitVec.getLsbD_or,
    BitVec.getLsbD_shiftLeft, read, address, lastFlag_getLsbD]
  simp

/-- A word is flagged as the last one. -/
def Flagged (word : BitVec 16) : Prop :=
  test word I2C_WRITE_DATA_LAST_BYTE = true

theorem flagged_byteWords {final : Bool} {buf : List U8} {n : Nat} {word : BitVec 16}
    (found : (byteWords final buf)[n]? = some word) (flagged : Flagged word) :
    final = true ∧ n + 1 = (byteWords final buf).length := by
  induction buf generalizing n with
  | nil => cases found
  | cons value rest ih =>
      cases n with
      | zero =>
          cases found
          rw [Flagged, test_lastByte, BitVec.getLsbD_or, lastFlag_getLsbD,
            BitVec.getLsbD_setWidth, value.getLsbD_of_ge 9 (by decide), Bool.and_false,
            Bool.false_or, Bool.and_eq_true, List.isEmpty_iff] at flagged
          rcases flagged with ⟨isFinal, rfl⟩
          exact ⟨isFinal, rfl⟩
      | succ n =>
          rcases ih found with ⟨isFinal, last⟩
          exact ⟨isFinal, congrArg (· + 1) last⟩

/-- The word is the address of a message whose address is too wide. -/
def Wide (msgs : List I2cMsg) (word : BitVec 16) : Prop :=
  ∃ msg ∈ msgs, msg.addr.getLsbD 8 = true ∧ ∃ last, word = addressWord msg last

theorem flagged_messageWords {final : Bool} {msg : I2cMsg} {n : Nat} {word : BitVec 16}
    (found : (messageWords final msg)[n]? = some word) (flagged : Flagged word) :
    (final = true ∧ n + 1 = (messageWords final msg).length) ∨
      (msg.addr.getLsbD 8 = true ∧ ∃ last, word = addressWord msg last) := by
  cases n with
  | zero =>
      cases found
      rw [Flagged, test_lastByte, addressWord_last, Bool.or_eq_true, Bool.and_eq_true,
        List.isEmpty_iff] at flagged
      rcases flagged with wide | ⟨isFinal, empty⟩
      · exact .inr ⟨wide, _, rfl⟩
      · refine .inl ⟨isFinal, ?_⟩
        rw [messageWords, empty]
        split <;> rfl
  | succ n =>
      rw [messageWords, List.getElem?_cons_succ] at found
      rw [messageWords]
      split at found
      case isTrue => cases found
      case isFalse write =>
        rcases flagged_byteWords found flagged with ⟨isFinal, last⟩
        rw [if_neg write]
        exact .inl ⟨isFinal, congrArg (· + 1) last⟩

/-- Apart from wide addresses, only the final word is flagged. -/
theorem flagged_wordStream {msgs : List I2cMsg} {n : Nat} {word : BitVec 16}
    (found : (wordStream msgs)[n]? = some word) (flagged : Flagged word) :
    n + 1 = (wordStream msgs).length ∨ Wide msgs word := by
  induction msgs generalizing n with
  | nil => cases found
  | cons msg rest ih =>
      rw [wordStream] at found ⊢
      rcases Nat.lt_or_ge n (messageWords rest.isEmpty msg).length with here | later
      · rw [List.getElem?_append_left here] at found
        rcases flagged_messageWords found flagged with ⟨isFinal, last⟩ | wide
        · rw [List.isEmpty_iff.mp isFinal] at last ⊢
          rw [wordStream, List.append_nil]
          exact .inl last
        · exact .inr ⟨msg, List.mem_cons_self, wide⟩
      · rw [List.getElem?_append_right later] at found
        rcases ih found with last | ⟨other, member, wide⟩
        · rw [List.length_append]
          exact .inl (by omega)
        · exact .inr ⟨other, List.mem_cons_of_mem _ member, wide⟩

/-! ## A run of the handler -/

/-- The handler is inside the list and inside the buffers, it has started the messages up to
the current one, and it has written a prefix of the stream. -/
structure OnTrack (msgs : List I2cMsg) (ops : List BusOp) (dev : Dev) : Prop where
  current : ∃ i, dev.msg = some i ∧ i < msgs.length ∧
    (0 ≤ dev.pos → dev.pos + dev.cnt = (message msgs i).len) ∧
    ops.filterMap BusOp.started = List.range (if dev.pos < 0 then i else i + 1)
  inside : ∀ op ∈ ops, op.Inside msgs
  words : ops.filterMap BusOp.toWord <+: wordStream msgs

/-- After the setup of a transfer, any runs of the handler keep it on track; in the stream
that it follows, the read bit is set for reads, and apart from wide addresses only the final
word is flagged. -/
theorem interrupts_onTrack {msgs : List I2cMsg} (nonempty : msgs ≠ []) (origin : Driver)
    (irqs : List Irq) :
    (∃ ops, (irqs.foldl (interruptLocked msgs) (setup msgs origin)).log = origin.log ++ ops ∧
      OnTrack msgs ops (irqs.foldl (interruptLocked msgs) (setup msgs origin)).dev) ∧
    (∀ msg ∈ msgs, ∀ last, (addressWord msg last).getLsbD 0 = msg.isRead) ∧
    (∀ n word, (wordStream msgs)[n]? = some word → Flagged word →
      n + 1 = (wordStream msgs).length ∨ Wide msgs word) := by
  refine ⟨?_, fun msg _ last => addressWord_read msg last,
    fun n word found flagged => flagged_wordStream found flagged⟩
  have started := Follows.setup nonempty origin
  rcases started.interrupts irqs with ⟨represents, -, -, ops, log, moves⟩
  rcases represents with ⟨i, k, at_, -, todo, -⟩
  rcases interrupts_append started irqs with ⟨ops', log', sound⟩
  have same : ops' = ops := List.append_cancel_left (log'.symm.trans log)
  subst same
  rw [todo] at moves
  refine ⟨ops', log, ⟨i, at_.msg_eq, at_.inside, ?_, ?_⟩, fun op member => (sound op member).1, ?_⟩
  · have le_len := at_.le_len
    rw [at_.pos_eq, at_.cnt_eq]
    omega
  · have beginning : (if (irqs.foldl (interruptLocked msgs) (setup msgs origin)).dev.pos < 0 then i
        else i + 1) = if k = 0 then i else i + 1 := by
      have neg : (irqs.foldl (interruptLocked msgs) (setup msgs origin)).dev.pos < 0 ↔ k = 0 := by
        rw [at_.pos_eq]
        omega
      simp only [neg]
    rw [beginning]
    exact moves.started at_.inside
  · rw [sound.words, ← filterMap_items, ← moves.taken, List.filterMap_append]
    exact List.prefix_append _ _

/-- A register is selected and two bytes are read, with a flush in between. -/
def readRegister : List I2cMsg := [⟨0x36, 0, [8], by decide⟩, ⟨0x36, 1, [0, 0], by decide⟩]

theorem interrupts_onTrack_readRegister :
    ∃ ops, OnTrack readRegister ops
      (([0, 2, 0, 3, 3].map fun status => ⟨status, 7⟩).foldl (interruptLocked readRegister)
        (setup readRegister probed)).dev := by
  rcases interrupts_onTrack (by decide : readRegister ≠ []) probed
    ([0, 2, 0, 3, 3].map fun status => ⟨status, 7⟩) with ⟨⟨ops, -, onTrack⟩, -, -⟩
  exact ⟨ops, onTrack⟩

/-- The address has nine bits. -/
def wideWrite : List I2cMsg := [⟨0x100, 0, [6], by decide⟩]

/-- Its top bit is shifted into the flag of the last word: the first of two words is flagged. -/
theorem wideWrite_flagged :
    (interruptLocked wideWrite (setup wideWrite probed) ⟨0, 0⟩).log.filterMap BusOp.toWord =
        [0x300] ∧
      Flagged 0x300 ∧ (wordStream wideWrite).length = 2 := by
  unfold Flagged
  decide +kernel

end HtcLeo.I2c
