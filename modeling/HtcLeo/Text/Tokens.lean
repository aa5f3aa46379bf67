import HtcLeo.Word.Packed

/-!
# Tokens of a string in memory

`strtok_r` splits a string where it stands: it ends a token by writing a zero over the
delimiter behind it, and remembers where to go on.  The string is in a block of `size`
bytes, and there is no result if its end is not.

A string is `Plain` if no delimiter comes after another character.  It is the strings
that are not plain that are written to.
-/

namespace HtcLeo.Text

open Packed

/-! ## The scans -/

/-- The first of the `left` bytes from `s` on at which a scan stops. -/
def firstFrom (stops : U8 → Bool) (block : Bytes) : Nat → Nat → Option Nat
  | 0, _ => none
  | left + 1, s => if stops (block s) then some s else firstFrom stops block left (s + 1)

/-- Skip delimiters. -/
def skip (delim : List U8) : Bytes → Nat → Nat → Option Nat :=
  firstFrom fun c => c ∉ delim

/-- Look for a delimiter or a zero. -/
def scan (delim : List U8) : Bytes → Nat → Nat → Option Nat :=
  firstFrom fun c => c = 0 ∨ c ∈ delim

/-- The bytes from `s` on up to a zero. -/
def string (block : Bytes) : Nat → Nat → Option (List U8)
  | 0, _ => none
  | left + 1, s =>
      if block s = 0 then some [] else (string block left (s + 1)).map (block s :: ·)

/-- The token that is returned, where `*last` points then, and the block. -/
structure Tokenized where
  token : Option Nat
  last : Option Nat
  block : Bytes

/-- `strtok_r`; `none` where the text runs out of its block. -/
def strtokR (block : Bytes) (size : Nat) (delim : List U8) (s last : Option Nat) :
    Option Tokenized :=
  match s.or last with
  | none => some ⟨none, last, block⟩
  | some s =>
      (skip delim block (size - s) s).bind fun tok =>
        if block tok = 0 then some ⟨none, none, block⟩
        else
          (scan delim block (size - (tok + 1)) (tok + 1)).map fun stop =>
            if block stop = 0 then ⟨some tok, none, block⟩
            else ⟨some tok, some (stop + 1), Function.update block stop 0⟩

section Scans

variable {stops : U8 → Bool} {block : Bytes} {left s place : Nat}

theorem firstFrom_eq_some_iff : firstFrom stops block left s = some place ↔
    s ≤ place ∧ place < s + left ∧ (∀ i, s ≤ i → i < place → stops (block i) = false) ∧
      stops (block place) = true := by
  induction left generalizing s with
  | zero => exact iff_of_false (Option.some_ne_none place).symm (by omega)
  | succ left ih =>
      rw [firstFrom]
      by_cases here : stops (block s) = true
      · rw [if_pos here, Option.some.injEq]
        constructor
        · rintro rfl
          exact ⟨Nat.le_refl s, by omega, fun i above below => by omega, here⟩
        · rintro ⟨after, inside, before, -⟩
          by_contra differ
          have goesOn := before s (Nat.le_refl s) (by omega)
          rw [here] at goesOn
          contradiction
      · rw [if_neg here, ih]
        constructor
        · rintro ⟨after, inside, before, stop⟩
          refine ⟨by omega, by omega, fun i above below => ?_, stop⟩
          rcases Nat.eq_or_lt_of_le above with rfl | later
          · exact Bool.not_eq_true _ |>.mp here
          · exact before i later below
        · rintro ⟨after, inside, before, stop⟩
          have differ : s ≠ place := by
            rintro rfl
            exact here stop
          exact ⟨by omega, by omega, fun i above => before i (by omega), stop⟩

theorem firstFrom_eq_none_iff : firstFrom stops block left s = none ↔
    ∀ i, s ≤ i → i < s + left → stops (block i) = false := by
  induction left generalizing s with
  | zero => exact iff_of_true rfl fun i above below => by omega
  | succ left ih =>
      rw [firstFrom]
      by_cases here : stops (block s) = true
      · rw [if_pos here]
        refine iff_of_false (Option.some_ne_none s) fun never => ?_
        rw [never s (Nat.le_refl s) (by omega)] at here
        contradiction
      · rw [if_neg here, ih]
        constructor
        · intro never i above below
          rcases Nat.eq_or_lt_of_le above with rfl | later
          · exact Bool.not_eq_true _ |>.mp here
          · exact never i later (by omega)
        · exact fun never i above below => never i (by omega) (by omega)

/-- A string with an end is read. -/
theorem string_isSome {stop : Nat} (after : s ≤ stop) (inside : stop < s + left)
    (zero : block stop = 0) : ∃ bytes, string block left s = some bytes := by
  induction left generalizing s with
  | zero => omega
  | succ left ih =>
      rw [string]
      by_cases here : block s = 0
      · exact ⟨[], if_pos here⟩
      · have differ : s ≠ stop := by
          rintro rfl
          exact here zero
        obtain ⟨bytes, rest⟩ := ih (s := s + 1) (by omega) (by omega)
        exact ⟨block s :: bytes, by rw [if_neg here, rest, Option.map_some]⟩

end Scans

/-! ## Plain strings -/

/-- The string at `s` ends with the zero at `stop`, inside the block. -/
def EndsAt (block : Bytes) (size s stop : Nat) : Prop :=
  s ≤ stop ∧ stop < size ∧ block stop = 0 ∧ ∀ i, s ≤ i → i < stop → block i ≠ 0

/-- The string ends inside the block, and has no delimiter after another character. -/
def Plain (block : Bytes) (size : Nat) (delim : List U8) (s : Nat) : Prop :=
  ∃ stop, EndsAt block size s stop ∧
    ∀ i j, s ≤ i → i < j → j < stop → block i ∉ delim → block j ∉ delim

/-- Some bytes may have become zero, and all others are the same. -/
def Erased (before after : Bytes) : Prop :=
  ∀ i, after i = before i ∨ after i = 0

theorem Erased.refl (block : Bytes) : Erased block block :=
  fun _ => .inl rfl

theorem Erased.trans {one two three : Bytes} (first : Erased one two) (second : Erased two three) :
    Erased one three := by
  intro i
  rcases second i with same | zero
  · rw [same]
    exact first i
  · exact .inr zero

theorem erased_update (block : Bytes) (place : Nat) :
    Erased block (Function.update block place 0) := by
  intro i
  by_cases here : i = place
  · rw [here, Function.update_self]
    exact .inr rfl
  · rw [Function.update_of_ne here]
    exact .inl rfl

theorem Erased.antisymm {one two : Bytes} (first : Erased one two) (second : Erased two one) :
    two = one := by
  funext i
  rcases first i with same | zero
  · exact same
  · rcases second i with same | none
    · exact same.symm
    · rw [zero, none]

/-- Erasing makes numbers smaller. -/
theorem Erased.load_le {before after : Bytes} (erased : Erased before after)
    (place width : Nat) : load after place width ≤ load before place width := by
  induction width generalizing place with
  | zero => exact Nat.le_refl _
  | succ width ih =>
      have rest := ih (place + 1)
      have byte : (after place).toNat ≤ (before place).toNat := by
        rcases erased place with same | zero
        · exact Nat.le_of_eq (congrArg BitVec.toNat same)
        · rw [zero]
          exact Nat.zero_le _
      rw [load, load]
      omega

/-- What was erased does not come back. -/
theorem Erased.ne {before middle after : Bytes} {place : Nat} (present : before place ≠ 0)
    (gone : middle place = 0) (later : Erased middle after) : after ≠ before := by
  rintro rfl
  rcases later place with same | zero
  · exact present (same.trans gone)
  · exact present zero

section Strtok

variable {block : Bytes} {size : Nat} {delim : List U8} {s : Nat} {last : Option Nat}

theorem skip_eq_some_iff {left place : Nat} : skip delim block left s = some place ↔
    s ≤ place ∧ place < s + left ∧ (∀ i, s ≤ i → i < place → block i ∈ delim) ∧
      block place ∉ delim := by
  simp only [skip, firstFrom_eq_some_iff, decide_eq_false_iff_not, decide_eq_true_eq, not_not]

theorem scan_eq_some_iff {left place : Nat} : scan delim block left s = some place ↔
    s ≤ place ∧ place < s + left ∧
      (∀ i, s ≤ i → i < place → block i ≠ 0 ∧ block i ∉ delim) ∧
      (block place = 0 ∨ block place ∈ delim) := by
  simp only [scan, firstFrom_eq_some_iff, decide_eq_false_iff_not, decide_eq_true_eq, not_or,
    ne_eq]

/-- A plain string is left as it is, with at most one token. -/
theorem strtokR_of_plain (plain : Plain block size delim s) (nonzero : (0 : U8) ∉ delim) :
    ∃ token, (∀ last, strtokR block size delim (some s) last = some ⟨token, none, block⟩) ∧
      ∀ tok ∈ token, ∃ stop, EndsAt block size tok stop := by
  obtain ⟨stop, ⟨after, inside, zero, before⟩, ordered⟩ := plain
  have ending : block stop ∉ delim := zero ▸ nonzero
  cases skipped : skip delim block (size - s) s with
  | none =>
      have never := firstFrom_eq_none_iff.mp skipped stop after (by omega)
      exact absurd (decide_eq_true ending) (Bool.not_eq_true _ ▸ never)
  | some tok =>
      obtain ⟨later, -, delims, other⟩ := skip_eq_some_iff.mp skipped
      have upTo : tok ≤ stop := by
        by_contra past
        exact ending (delims stop after (by omega))
      by_cases empty : block tok = 0
      · refine ⟨none, fun last => ?_, fun _ found => absurd found (Option.not_mem_none _)⟩
        simp only [strtokR, Option.some_or, skipped, Option.bind_some, if_pos empty]
      · have first : tok ≠ stop := by
          rintro rfl
          exact empty zero
        have scanned : scan delim block (size - (tok + 1)) (tok + 1) = some stop :=
          scan_eq_some_iff.mpr ⟨by omega, by omega,
            fun i above below => ⟨before i (by omega) below,
              ordered tok i later (by omega) below other⟩, .inl zero⟩
        refine ⟨some tok, fun last => ?_, fun _ found => ?_⟩
        · simp only [strtokR, Option.some_or, skipped, Option.bind_some, if_neg empty, scanned,
            Option.map_some, if_pos zero]
        · cases found
          exact ⟨stop, upTo, inside, zero, fun i above => before i (by omega)⟩

/-- Of any other string the delimiter behind the first token is erased, if there is a
result. -/
theorem strtokR_of_not_plain (torn : ¬ Plain block size delim s) (nonzero : (0 : U8) ∉ delim)
    {result : Tokenized}
    (returned : strtokR block size delim (some s) last = some result) :
    ∃ stop, block stop ≠ 0 ∧ result.block stop = 0 := by
  obtain ⟨tok, skipped, returned⟩ := Option.bind_eq_some_iff.mp returned
  obtain ⟨later, inside, delims, other⟩ := skip_eq_some_iff.mp skipped
  have delimited {i : Nat} (above : s ≤ i) (below : i < tok) : block i ≠ 0 := by
    intro zero
    exact nonzero (zero ▸ delims i above below)
  split at returned
  · rename_i zero
    refine absurd ⟨tok, ⟨later, by omega, zero, fun i => delimited⟩, fun i j above less below => ?_⟩
      torn
    exact fun character => absurd (delims i above (by omega)) character
  · rename_i first
    obtain ⟨stop, scanned, same⟩ := Option.map_eq_some_iff.mp returned
    obtain ⟨behind, within, token, -⟩ := scan_eq_some_iff.mp scanned
    split at same
    · rename_i zero
      refine absurd ⟨stop, ⟨by omega, by omega, zero, fun i above below => ?_⟩,
        fun i j above less below character => ?_⟩ torn
      · rcases Nat.lt_trichotomy i tok with less | rfl | more
        · exact delimited above less
        · exact first
        · exact (token i more below).1
      · have begun : tok ≤ i := by
          by_contra less
          exact character (delims i above (by omega))
        exact (token j (by omega) below).2
    · rename_i delimiter
      rw [← same]
      exact ⟨stop, delimiter, Function.update_self _ _ _⟩

/-- The next token is sought further on in the block, or there is nothing left. -/
theorem strtokR_last {start : Option Nat} (begins : start.or last = some s)
    {result : Tokenized} (returned : strtokR block size delim start last = some result) :
    result.last = none ∨ ∃ next, result.last = some next ∧ s < next ∧ next ≤ size := by
  rw [strtokR, begins] at returned
  obtain ⟨tok, skipped, returned⟩ := Option.bind_eq_some_iff.mp returned
  obtain ⟨later, within, -⟩ := skip_eq_some_iff.mp skipped
  split at returned
  · rw [← Option.some.inj returned]
    exact .inl rfl
  · obtain ⟨stop, scanned, same⟩ := Option.map_eq_some_iff.mp returned
    obtain ⟨behind, inside, -⟩ := scan_eq_some_iff.mp scanned
    split at same
    · rw [← same]
      exact .inl rfl
    · rw [← same]
      exact .inr ⟨stop + 1, rfl, by omega, by omega⟩

theorem strtokR_erased {start : Option Nat} {result : Tokenized}
    (returned : strtokR block size delim start last = some result) :
    Erased block result.block := by
  unfold strtokR at returned
  split at returned
  · rw [← Option.some.inj returned]
    exact .refl block
  · obtain ⟨tok, -, returned⟩ := Option.bind_eq_some_iff.mp returned
    split at returned
    · rw [← Option.some.inj returned]
      exact .refl block
    · obtain ⟨stop, -, same⟩ := Option.map_eq_some_iff.mp returned
      split at same
      · rw [← same]
        exact .refl block
      · rw [← same]
        exact erased_update block stop

end Strtok

end HtcLeo.Text
