import Mathlib.Data.List.DropRight

/-!
# Ring buffers

A ring of `n` cells with a head and a tail holds the items between them.  The ring is
empty when the two coincide, so that one cell always stays free: at most `n - 1`
items wait, and an item pushed to a full ring drives out the oldest one.
-/

namespace HtcLeo

universe u

/-- The items wait from `head` on, up to and without `tail`. -/
structure RingBuffer (α : Type u) (n : Nat) where
  cells : Vector α n
  head : Nat
  tail : Nat
  head_lt : head < n
  tail_lt : tail < n

namespace RingBuffer

variable {α : Type u} {n : Nat}

/-! ## Operations -/

/-- The ring holds nothing. -/
def isEmpty (ring : RingBuffer α n) : Bool :=
  ring.head == ring.tail

/-- Move the head on by one cell. -/
def advance (ring : RingBuffer α n) : RingBuffer α n :=
  { ring with
    head := (ring.head + 1) % n
    head_lt := Nat.mod_lt _ (Nat.zero_lt_of_lt ring.head_lt) }

/-- Take the oldest item out. -/
def pop (ring : RingBuffer α n) : Option (α × RingBuffer α n) :=
  if ring.isEmpty then none
  else some (ring.cells.get ⟨ring.head, ring.head_lt⟩, ring.advance)

/-- The ring without its oldest item. -/
def drop (ring : RingBuffer α n) : RingBuffer α n :=
  match ring.pop with
  | some (_, rest) => rest
  | none => ring

/-- Write an item into the cell of the tail and move the tail on. -/
def put (ring : RingBuffer α n) (item : α) : RingBuffer α n where
  cells := ring.cells.set ring.tail item ring.tail_lt
  head := ring.head
  tail := (ring.tail + 1) % n
  head_lt := ring.head_lt
  tail_lt := Nat.mod_lt _ (Nat.zero_lt_of_lt ring.tail_lt)

/-- Append an item; a full ring first loses its oldest one. -/
def push (ring : RingBuffer α n) (item : α) : RingBuffer α n :=
  (if (ring.tail + 1) % n = ring.head then ring.drop else ring).put item

/-! ## Contents -/

/-- How many items wait. -/
def count (ring : RingBuffer α n) : Nat :=
  (ring.tail + n - ring.head) % n

/-- The item `i` places behind the head. -/
def item (ring : RingBuffer α n) (i : Nat) : α :=
  ring.cells.get ⟨(ring.head + i) % n, Nat.mod_lt _ (Nat.zero_lt_of_lt ring.head_lt)⟩

/-- The waiting items, the oldest first. -/
def contents (ring : RingBuffer α n) : List α :=
  (List.range ring.count).map ring.item

@[simp]
theorem contents_length (ring : RingBuffer α n) : ring.contents.length = ring.count := by
  rw [contents, List.length_map, List.length_range]

theorem count_lt (ring : RingBuffer α n) : ring.count < n :=
  Nat.mod_lt _ (Nat.zero_lt_of_lt ring.head_lt)

theorem succ_mod {k : Nat} (below : k < n) : (k + 1) % n = if k + 1 = n then 0 else k + 1 := by
  split
  · rename_i last
    rw [last, Nat.mod_self]
  · exact Nat.mod_eq_of_lt (by omega)

/-- The items do not cross the end of the cells, or they do so once. -/
theorem head_add_count (ring : RingBuffer α n) :
    ring.head + ring.count = ring.tail ∨ ring.head + ring.count = ring.tail + n := by
  have headBelow := ring.head_lt
  have tailBelow := ring.tail_lt
  unfold count
  by_cases order : ring.head ≤ ring.tail
  · have eq : ring.tail + n - ring.head = ring.tail - ring.head + n := by omega
    rw [eq, Nat.add_mod_right, Nat.mod_eq_of_lt (by omega)]
    omega
  · rw [Nat.mod_eq_of_lt (by omega)]
    omega

theorem count_eq_zero_iff (ring : RingBuffer α n) : ring.count = 0 ↔ ring.head = ring.tail := by
  have headBelow := ring.head_lt
  have countBelow := ring.count_lt
  rcases ring.head_add_count with within | across <;> omega

theorem isEmpty_iff (ring : RingBuffer α n) : ring.isEmpty = true ↔ ring.contents = [] := by
  rw [isEmpty, beq_iff_eq, ← count_eq_zero_iff, ← contents_length, List.length_eq_zero_iff]

/-- The number of items decides where the tail is. -/
theorem count_eq_of {ring : RingBuffer α n} {k : Nat} (below : k < n)
    (sum : ring.head + k = ring.tail ∨ ring.head + k = ring.tail + n) : ring.count = k := by
  have countBelow := ring.count_lt
  rcases ring.head_add_count with within | across <;> omega

/-- The tail meets the head from behind when one cell is left. -/
theorem full_iff (ring : RingBuffer α n) :
    (ring.tail + 1) % n = ring.head ↔ ring.count + 1 = n := by
  have headBelow := ring.head_lt
  have tailBelow := ring.tail_lt
  have countBelow := ring.count_lt
  rw [succ_mod ring.tail_lt]
  rcases ring.head_add_count with within | across <;> split <;> omega

/-! ## What the operations do to the contents -/

theorem pop_of_nil {ring : RingBuffer α n} (empty : ring.contents = []) : ring.pop = none := by
  rw [pop, if_pos (ring.isEmpty_iff.mpr empty)]

theorem count_advance {ring : RingBuffer α n} (occupied : 0 < ring.count) :
    ring.advance.count + 1 = ring.count := by
  have headBelow := ring.head_lt
  have tailBelow := ring.tail_lt
  have countBelow := ring.count_lt
  have wraps : ring.advance.head = if ring.head + 1 = n then 0 else ring.head + 1 :=
    succ_mod ring.head_lt
  have same : ring.advance.tail = ring.tail := rfl
  have eq : ring.advance.count = ring.count - 1 := by
    apply count_eq_of (by omega)
    rw [wraps, same]
    rcases ring.head_add_count with within | across <;> split <;> omega
  omega

theorem item_advance (ring : RingBuffer α n) (i : Nat) :
    ring.advance.item i = ring.item (i + 1) := by
  have place : ((ring.head + 1) % n + i) % n = (ring.head + (i + 1)) % n := by
    rw [Nat.mod_add_mod, Nat.add_assoc, Nat.add_comm 1]
  simp only [item, advance, place]

theorem item_zero (ring : RingBuffer α n) :
    ring.item 0 = ring.cells.get ⟨ring.head, ring.head_lt⟩ := by
  simp only [item, Nat.add_zero, Nat.mod_eq_of_lt ring.head_lt]

/-- Behind an occupied head the other items wait. -/
theorem contents_of_occupied {ring : RingBuffer α n} (occupied : 0 < ring.count) :
    ring.contents = ring.item 0 :: ring.advance.contents := by
  rw [contents, ← count_advance occupied, List.range_succ_eq_map, List.map_cons, List.map_map,
    contents]
  exact congrArg _ (List.map_congr_left fun i _ => (ring.item_advance i).symm)

/-- Popping takes the oldest item and leaves the others. -/
theorem pop_of_cons {ring : RingBuffer α n} {oldest : α} {others : List α}
    (contents_eq : ring.contents = oldest :: others) :
    ring.pop = some (oldest, ring.advance) ∧ ring.advance.contents = others := by
  have occupied : 0 < ring.count := by
    rw [← contents_length, contents_eq]
    exact Nat.zero_lt_succ _
  have filled : ¬ ring.isEmpty = true := by
    rw [isEmpty_iff, contents_eq]
    exact List.cons_ne_nil _ _
  rw [contents_of_occupied occupied] at contents_eq
  rcases List.cons.inj contents_eq with ⟨first, later⟩
  constructor
  · rw [pop, if_neg filled, ← item_zero, first]
  · exact later

theorem contents_drop (ring : RingBuffer α n) : ring.drop.contents = ring.contents.tail := by
  cases contents_eq : ring.contents with
  | nil =>
      rw [drop, pop_of_nil contents_eq]
      exact contents_eq
  | cons oldest others =>
      rcases pop_of_cons contents_eq with ⟨popped, left⟩
      rw [drop, popped]
      exact left

theorem count_put {ring : RingBuffer α n} (room : ring.count + 1 < n) (new : α) :
    (ring.put new).count = ring.count + 1 := by
  have headBelow := ring.head_lt
  have tailBelow := ring.tail_lt
  have head_eq : (ring.put new).head = ring.head := rfl
  have wraps : (ring.put new).tail = if ring.tail + 1 = n then 0 else ring.tail + 1 :=
    succ_mod ring.tail_lt
  apply count_eq_of room
  rw [head_eq, wraps]
  rcases ring.head_add_count with within | across <;> split <;> omega

/-- Distinct places of the waiting items are distinct cells, and none is the tail. -/
theorem place_ne_tail {ring : RingBuffer α n} {i : Nat} (waits : i < ring.count) :
    (ring.head + i) % n ≠ ring.tail := by
  have headBelow := ring.head_lt
  have countBelow := ring.count_lt
  have place : (ring.head + i) % n = ring.head + i ∨ (ring.head + i) % n + n = ring.head + i := by
    by_cases within : ring.head + i < n
    · exact .inl (Nat.mod_eq_of_lt within)
    · rw [Nat.mod_eq_sub_mod (by omega), Nat.mod_eq_of_lt (by omega)]
      omega
  rcases ring.head_add_count with within | across <;> omega

theorem place_count (ring : RingBuffer α n) : (ring.head + ring.count) % n = ring.tail := by
  rcases ring.head_add_count with within | across
  · rw [within, Nat.mod_eq_of_lt ring.tail_lt]
  · rw [across, Nat.add_mod_right, Nat.mod_eq_of_lt ring.tail_lt]

theorem contents_put {ring : RingBuffer α n} (room : ring.count + 1 < n) (new : α) :
    (ring.put new).contents = ring.contents ++ [new] := by
  have earlier : ∀ i ∈ List.range ring.count, (ring.put new).item i = ring.item i := by
    intro i member
    have apart := place_ne_tail (List.mem_range.mp member)
    exact Vector.getElem_set_ne ring.tail_lt _ apart.symm
  have latest : (ring.put new).item ring.count = new := by
    simp only [item, put, place_count]
    exact Vector.getElem_set_self ring.tail_lt
  rw [contents, count_put room, List.range_succ, List.map_append, List.map_congr_left earlier,
    List.map_singleton, latest, contents]

/-- The ring is a queue of bounded length that drops its oldest item when full. -/
theorem contents_push (large : 1 < n) (ring : RingBuffer α n) (new : α) :
    (ring.push new).contents =
      (if ring.contents.length + 1 = n then ring.contents.tail else ring.contents) ++ [new] := by
  have countBelow := ring.count_lt
  rw [contents_length, push]
  by_cases full : ring.count + 1 = n
  · have dropped : ring.drop.count + 1 = ring.count := by
      rw [← contents_length, contents_drop, List.length_tail, contents_length]
      omega
    rw [if_pos (ring.full_iff.mpr full), if_pos full, contents_put (by omega), contents_drop]
  · rw [if_neg (mt ring.full_iff.mp full), if_neg full, contents_put (by omega)]

theorem contents_push_of_room {ring : RingBuffer α n}
    (room : ring.contents.length + 1 < n) (new : α) :
    (ring.push new).contents = ring.contents ++ [new] := by
  rw [contents_push (by omega), if_neg (by omega)]

/-! ## Items that come together -/

/-- The last of a list of items, as many as a ring of `n` cells holds. -/
def newest (n : Nat) (items : List α) : List α :=
  items.drop (items.length + 1 - n)

theorem newest_of_length_lt {items : List α} (few : items.length < n) : newest n items = items := by
  rw [newest, Nat.sub_eq_zero_of_le (Nat.succ_le_of_lt few), List.drop_zero]

/-- Items that were driven out do not return. -/
theorem newest_newest_append (positive : 0 < n) (items later : List α) :
    newest n (newest n items ++ later) = newest n (items ++ later) := by
  have within : items.length + 1 - n ≤ items.length := by omega
  simp only [newest]
  rw [← List.drop_append_of_le_length within, List.drop_drop, List.length_drop]
  congr 1
  rw [List.length_append]
  omega

/-- The ring holds the newest of the items that were pushed. -/
theorem contents_foldl_push (large : 1 < n) (ring : RingBuffer α n) (items : List α) :
    (items.foldl push ring).contents = newest n (ring.contents ++ items) := by
  have countBelow := ring.count_lt
  induction items generalizing ring with
  | nil =>
      rw [List.foldl_nil, List.append_nil, newest_of_length_lt]
      rwa [contents_length]
  | cons item later ih =>
      have pushed : (ring.push item).contents = newest n (ring.contents ++ [item]) := by
        rw [contents_push large]
        split
        · rename_i full
          have first : ring.contents.length + 1 + 1 - n = 1 := by omega
          rw [newest, List.length_append, List.length_singleton, first,
            List.drop_append_of_le_length (by omega), List.drop_one]
        · rw [newest_of_length_lt]
          rw [List.length_append, List.length_singleton, contents_length] at *
          omega
      rw [List.foldl_cons, ih _ (ring.push item).count_lt, pushed,
        newest_newest_append (Nat.zero_lt_of_lt large), List.append_assoc, List.singleton_append]

/-- What is skipped may be driven out. -/
theorem dropWhile_newest_append {skip : α → Bool} {items later : List α}
    (kept : ((items ++ later).dropWhile skip).length < n) :
    (newest n items ++ later).dropWhile skip = (items ++ later).dropWhile skip := by
  have split := List.takeWhile_append_dropWhile (p := skip) (l := items ++ later)
  have lengths := congrArg List.length split
  rw [List.length_append, List.length_append] at lengths
  have within : items.length + 1 - n ≤ items.length := by omega
  rw [newest, ← List.drop_append_of_le_length within]
  conv_lhs => rw [← split]
  rw [List.drop_append_of_le_length (by omega), List.dropWhile_append_of_pos]
  · exact List.dropWhile_idempotent _ _
  · exact fun item member => List.mem_takeWhile_imp (List.mem_of_mem_drop member)

end RingBuffer

end HtcLeo
