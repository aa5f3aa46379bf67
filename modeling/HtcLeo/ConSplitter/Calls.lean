import HtcLeo.ConSplitter.Lockstep

/-!
# Calls keep the lockstep

A call that the splitter takes is taken by every console, and the splitter's own mode data
goes along with them.
-/

namespace HtcLeo.ConSplitter

open HtcLeo.GraphicsConsole Terminal TextOutSplitter

universe u

section Calls

variable {γ : Type u} {paper : Paper γ} {splitter : TextOutSplitter (TextOut γ)}
  {size other : TextSize} {modeNumber : Nat}

theorem unsupported_ne_success : EfiStatus.unsupported ≠ .success := by
  decide

/-- The colors of all consoles. -/
theorem callAll_setAttribute {attr : U32} {data : TextOutMode} (valid : attr ||| 0x7F = 0x7F)
    (consoles : ∀ textOut ∈ splitter.textOutList, textOut.Placed size data) :
    (splitter.setAttribute paper attr).1 = .success ∧
      SameTable splitter (splitter.setAttribute paper attr).2 ∧
      (splitter.setAttribute paper attr).2.textOutMode = { splitter.textOutMode with attr } ∧
      ∀ textOut ∈ (splitter.setAttribute paper attr).2.textOutList,
        textOut.InStep size { data with attr } := by
  obtain ⟨success, after⟩ := @callAll_of_forall _ paper splitter _ _ consoles
    (.setAttribute attr) fun _ placed => placed.setAttribute valid
  have same := callAll_sameTable paper splitter fun _ => .setAttribute attr
  rw [setAttribute, if_neg (not_not.mpr valid)]
  exact ⟨success, same.withMode rfl, rfl, after⟩

theorem Lockstep.setAttribute (lockstep : Lockstep size splitter) (attr : U32) :
    Lockstep size (splitter.setAttribute paper attr).2 ∧
      ((splitter.setAttribute paper attr).1 = .success ↔ attr ||| 0x7F = 0x7F) := by
  by_cases valid : attr ||| 0x7F = 0x7F
  · obtain ⟨success, same, data, consoles⟩ :=
      @callAll_setAttribute _ paper _ _ _ _ valid
        fun textOut member => (lockstep.consoles textOut member).toPlaced
    refine ⟨.of_sameTable same lockstep.right ?_ ?_ ?_ ?_ ?_, iff_of_true success valid⟩
    · rw [data]
      exact lockstep.isAt.1
    · rw [data]
      exact lockstep.isAt.2
    · rw [data]
      exact valid
    · rw [data]
      exact ⟨lockstep.column, lockstep.row⟩
    · rw [data]
      exact consoles
  · rw [TextOutSplitter.setAttribute, if_pos valid]
    exact ⟨lockstep, iff_of_false unsupported_ne_success valid⟩

theorem Lockstep.clearScreen (lockstep : Lockstep size splitter) :
    Lockstep size (splitter.clearScreen paper).2 ∧ (splitter.clearScreen paper).1 = .success := by
  obtain ⟨success, consoles⟩ := @callAll_of_forall _ paper splitter _ _ lockstep.consoles
    .clearScreen fun _ inStep => inStep.clearScreen
  have same := callAll_sameTable paper splitter fun _ => .clearScreen
  exact ⟨.of_sameTable (same.withMode rfl) lockstep.right lockstep.isAt.1 lockstep.isAt.2
    lockstep.colors
    ⟨Nat.zero_lt_of_lt lockstep.column, Nat.zero_lt_of_lt lockstep.row⟩ consoles, success⟩

theorem Lockstep.enableCursor (lockstep : Lockstep size splitter) (visible : Bool) :
    Lockstep size (splitter.enableCursor paper visible).2 ∧
      (splitter.enableCursor paper visible).1 = .success := by
  obtain ⟨success, consoles⟩ := @callAll_of_forall _ paper splitter _ _ lockstep.consoles
    (.enableCursor visible) fun _ inStep => inStep.enableCursor visible
  have same := callAll_sameTable paper splitter fun _ => .enableCursor visible
  exact ⟨.of_sameTable (same.withMode rfl) lockstep.right lockstep.isAt.1 lockstep.isAt.2
    lockstep.colors ⟨lockstep.column, lockstep.row⟩ consoles, success⟩

/-- The size that is looked up for the cursor is the one of the mode. -/
theorem modeSize_of_queryMode (offered : splitter.queryMode modeNumber = some size) :
    splitter.modeSize modeNumber = size := by
  rw [queryMode] at offered
  split at offered
  · cases offered
  · split at offered
    · cases offered
    · exact Option.some.inj offered

theorem Lockstep.setCursorPosition (lockstep : Lockstep size splitter) (column row : Nat) :
    Lockstep size (splitter.setCursorPosition paper column row).2 ∧
      ((splitter.setCursorPosition paper column row).1 = .success ↔
        column < size.1 ∧ row < size.2) := by
  rw [TextOutSplitter.setCursorPosition]
  rw [modeSize_of_queryMode lockstep.isAt.2]
  by_cases inside : column < size.1 ∧ row < size.2
  · have within : ¬ (size.1 ≤ column ∨ size.2 ≤ row) := by
      rw [not_or, Nat.not_le, Nat.not_le]
      exact inside
    obtain ⟨success, consoles⟩ := @callAll_of_forall _ paper splitter _ _ lockstep.consoles
      (.setCursorPosition column row) fun _ inStep => inStep.setCursorPosition inside
    have same := callAll_sameTable paper splitter fun _ => .setCursorPosition column row
    rw [if_neg within]
    exact ⟨.of_sameTable (same.withMode rfl) lockstep.right lockstep.isAt.1 lockstep.isAt.2
      lockstep.colors inside consoles, iff_of_true success inside⟩
  · have outside : size.1 ≤ column ∨ size.2 ≤ row := by
      rw [not_and_or, Nat.not_lt, Nat.not_lt] at inside
      exact inside
    rw [if_pos outside]
    exact ⟨lockstep, iff_of_false unsupported_ne_success inside⟩

/-- The mode of a size on a console of the list. -/
theorem exists_numberOn (right : Right TextOut.modes splitter)
    (offered : splitter.queryMode modeNumber = some other) {index : Nat} {textOut : TextOut γ}
    (listed : splitter.textOutList[index]? = some textOut) :
    ∃ number, unsigned ((splitter.numberOn modeNumber index).getD 0) = number ∧
      textOut.modes[number]? = some (some other) := by
  obtain ⟨number, here, known⟩ := right.shown.others modeNumber other offered index textOut listed
  refine ⟨number, ?_, known⟩
  have bound := (List.getElem?_eq_some_iff.mp known).1
  rw [TextOut.modes, List.length_map] at bound
  have small : number < 4294967296 := by
    have few := textOut.few
    omega
  rw [here, Option.getD_some, unsigned, BitVec.ofInt_natCast, BitVec.toNat_ofNat]
  exact Nat.mod_eq_of_lt small

/-- A size that is offered has columns and rows. -/
theorem size_pos (right : Right TextOut.modes splitter)
    (offered : splitter.queryMode modeNumber = some other) : 0 < other.1 ∧ 0 < other.2 := by
  cases list : splitter.textOutList with
  | nil =>
      obtain ⟨one, -⟩ := right.empty list
      have inside : ¬ splitter.textOutMode.maxMode ≤ modeNumber := by
        intro outside
        rw [queryMode, if_pos outside] at offered
        cases offered
      obtain rfl : modeNumber = 0 := by omega
      obtain rfl := Option.some.inj (right.shown.first.symm.trans offered)
      decide
  | cons first rest =>
      obtain ⟨number, -, known⟩ :=
        right.shown.others modeNumber other offered 0 first (by rw [list]; rfl)
      obtain ⟨mode, -, usable, rfl⟩ := TextOut.exists_mode known
      constructor
      · exact Nat.pos_of_ne_zero fun none => usable.1 (BitVec.eq_of_toNat_eq none)
      · exact Nat.pos_of_ne_zero fun none => usable.2 (BitVec.eq_of_toNat_eq none)

theorem lt_maxMode (offered : splitter.queryMode modeNumber = some other) :
    modeNumber < splitter.textOutMode.maxMode := by
  rw [queryMode] at offered
  split at offered
  · cases offered
  · next inside => exact Nat.lt_of_not_le inside

/-- A mode that is offered is set on all consoles, whatever they were at, if the splitter is not
at it already. -/
theorem setMode_placed (right : Right TextOut.modes splitter)
    (offered : splitter.queryMode modeNumber = some other)
    (apart : splitter.textOutMode.mode ≠ modeNumber) :
    (splitter.setMode paper modeNumber).1 = .success ∧
      SameTable splitter (splitter.setMode paper modeNumber).2 ∧
      (splitter.setMode paper modeNumber).2.textOutMode = splitter.textOutMode.set modeNumber ∧
      ∀ textOut ∈ (splitter.setMode paper modeNumber).2.textOutList,
        textOut.Placed other (splitter.textOutMode.set modeNumber) ∧
          ∃ before ∈ splitter.textOutList, textOut.console.attr = before.console.attr := by
  obtain ⟨success, consoles⟩ := @callAll_spec _ paper splitter
    (fun index => .setMode (unsigned ((splitter.numberOn modeNumber index).getD 0)) true)
    (fun textOut => textOut.Placed other (splitter.textOutMode.set modeNumber) ∧
      ∃ before ∈ splitter.textOutList, textOut.console.attr = before.console.attr) (by
      intro index textOut listed
      obtain ⟨number, called, known⟩ := exists_numberOn right offered listed
      rw [called]
      obtain ⟨success, placed, kept⟩ :=
        @TextOut.setMode_spec _ paper _ textOut _ known true splitter.textOutMode modeNumber
      exact ⟨success, placed, textOut, List.mem_of_getElem? listed, kept⟩)
  have same := callAll_sameTable paper splitter
    fun index => .setMode (unsigned ((splitter.numberOn modeNumber index).getD 0)) true
  rw [TextOutSplitter.setMode, if_neg (Nat.not_le.mpr (lt_maxMode offered)), if_neg apart]
  exact ⟨success, same.withMode rfl, rfl, consoles⟩

/-- The consoles of a splitter that is right have its colors. -/
structure Colored (splitter : TextOutSplitter (TextOut γ)) : Prop where
  right : Right TextOut.modes splitter
  colors : splitter.textOutMode.attr ||| 0x7F = 0x7F
  consoles : ∀ textOut ∈ splitter.textOutList, textOut.console.attr = splitter.textOutMode.attr

theorem Lockstep.colored (lockstep : Lockstep size splitter) : Colored splitter :=
  ⟨lockstep.right, lockstep.colors, fun textOut member => (lockstep.consoles textOut member).attr⟩

/-- A mode that is set brings consoles of the splitter's colors in lockstep. -/
theorem Colored.setMode (colored : Colored splitter)
    (offered : splitter.queryMode modeNumber = some other)
    (apart : splitter.textOutMode.mode ≠ modeNumber) :
    Lockstep other (splitter.setMode paper modeNumber).2 ∧
      (splitter.setMode paper modeNumber).1 = .success := by
  obtain ⟨success, same, data, consoles⟩ :=
    @setMode_placed _ paper _ _ _ colored.right offered apart
  refine ⟨.of_sameTable same colored.right ?_ ?_ ?_ ?_ ?_, success⟩
  · rw [data]
    exact Int.natCast_nonneg _
  · rw [data]
    exact offered
  · rw [data]
    exact colored.colors
  · rw [data]
    exact size_pos colored.right offered
  · rw [data]
    intro textOut member
    obtain ⟨placed, before, listed, kept⟩ := consoles textOut member
    exact ⟨placed, kept.trans (colored.consoles before listed)⟩

/-- A mode that is offered, or none of the table. -/
theorem Lockstep.setMode (lockstep : Lockstep size splitter)
    (known : modeNumber < splitter.textOutMode.maxMode →
      (splitter.queryMode modeNumber).isSome) :
    (∃ other, Lockstep other (splitter.setMode paper modeNumber).2) ∧
      ((splitter.setMode paper modeNumber).1 = .success ↔
        (splitter.queryMode modeNumber).isSome) := by
  cases offered : splitter.queryMode modeNumber with
  | none =>
      have outside : splitter.textOutMode.maxMode ≤ modeNumber := by
        rw [← Nat.not_lt]
        intro inside
        have some_size := known inside
        rw [offered] at some_size
        cases some_size
      rw [TextOutSplitter.setMode, if_pos outside]
      exact ⟨⟨size, lockstep⟩, iff_of_false unsupported_ne_success (by decide)⟩
  | some other =>
      by_cases same : splitter.textOutMode.mode = modeNumber
      · rw [TextOutSplitter.setMode, if_neg (Nat.not_le.mpr (lt_maxMode offered)), if_pos same]
        obtain ⟨after, success⟩ := @Lockstep.clearScreen _ paper _ _ lockstep
        exact ⟨⟨size, after⟩, iff_of_true success rfl⟩
      · obtain ⟨after, success⟩ :=
          @Colored.setMode _ paper _ _ _ lockstep.colored offered same
        exact ⟨⟨other, after⟩, iff_of_true success rfl⟩

/-- A string moves the cursors of all consoles to one place. -/
theorem Lockstep.outputString (lockstep : Lockstep size splitter) (string : List U16) :
    Lockstep size (splitter.outputString paper string).2 ∧
      (splitter.outputString paper string).1 = .success := by
  have set := (@Lockstep.setAttribute _ paper _ _ lockstep splitter.textOutMode.attr).1
  rw [TextOutSplitter.outputString]
  dsimp only
  generalize (splitter.setAttribute paper splitter.textOutMode.attr).2 = before at set ⊢
  obtain ⟨success, consoles⟩ := @callAll_of_forall _ paper before _ _ set.consoles
    (.outputString string) fun _ inStep => inStep.outputString ⟨set.column, set.row⟩ string
  have same := callAll_sameTable paper before fun _ => .outputString string
  split
  · next first rest list =>
      have inStep := consoles first (by rw [list]; exact List.mem_cons_self)
      rw [inStep.column, inStep.row]
      exact ⟨.of_sameTable (same.withMode rfl) set.right set.isAt.1 set.isAt.2 set.colors
        (cursorAfter_within ⟨set.column, set.row⟩ string) consoles, success⟩
  · next list =>
      have offered : (before.callAll paper fun _ => .outputString string).2.queryMode
          (before.callAll paper fun _ => .outputString string).2.textOutMode.mode.toNat =
            some size :=
        (same.queryMode_eq _).trans set.isAt.2
      rw [offered, Option.getD_some]
      refine ⟨.of_sameTable (same.withMode rfl) set.right set.isAt.1 set.isAt.2 set.colors
        (foldl_moveCursor_within ⟨set.column, set.row⟩ string) ?_, success⟩
      intro textOut member
      have none : textOut ∈ (before.callAll paper fun _ => .outputString string).2.textOutList :=
        member
      rw [list] at none
      exact absurd none List.not_mem_nil

/-- The foreground alone can always be set. -/
theorem foreground_valid (attr : U32) : (attr &&& 0x0F) ||| 0x7F = 0x7F := by
  have low : (0x0F : U32) ||| 0x7F = 0x7F := by decide
  have inner : (attr &&& 0x0F) ||| 0x0F = 0x0F := by
    have whole : (0x0F : U32) = BitVec.allOnes 32 &&& 0x0F := by decide
    nth_rewrite 2 [whole]
    rw [← BitVec.and_or_distrib_right, BitVec.or_allOnes, ← whole]
  rw [← low, ← BitVec.or_assoc, inner]

theorem efiTextAttr_black (foreground : U32) : efiTextAttr foreground EFI_BLACK = foreground := by
  have none : EFI_BLACK <<< 4 = 0#32 := by decide
  rw [efiTextAttr, none, BitVec.or_zero]

/-- All consoles go back to 40x12. -/
theorem Lockstep.reset (lockstep : Lockstep size splitter) :
    Lockstep (40, 12) (splitter.reset paper).2 ∧ (splitter.reset paper).1 = .success := by
  have valid := foreground_valid splitter.textOutMode.attr
  obtain ⟨success, consoles⟩ := @callAll_of_forall _ paper splitter _ _
    lockstep.consoles (.reset true) fun _ inStep => inStep.reset valid true 0
  have same := callAll_sameTable paper splitter fun _ => .reset true
  obtain ⟨-, kept, data, after⟩ := @callAll_setAttribute _ paper
    (splitter.callAll paper fun _ => .reset true).2 (40, 12) (splitter.textOutMode.attr &&& 0x0F)
    _ valid fun textOut member => (consoles textOut member).toPlaced
  rw [TextOutSplitter.reset]
  dsimp only
  have black : efiTextAttr
      ((splitter.callAll paper fun _ => .reset true).2.textOutMode.attr &&& 0x0F) EFI_BLACK =
      splitter.textOutMode.attr &&& 0x0F :=
    efiTextAttr_black _
  rw [black]
  generalize ((splitter.callAll paper fun _ => .reset true).2.setAttribute paper
    (splitter.textOutMode.attr &&& 0x0F)).2 = last at kept data after
  have both := same.trans kept
  refine ⟨.of_sameTable (both.withMode both.maxMode) lockstep.right (Int.le_refl 0)
    lockstep.right.shown.first ?_ ⟨?_, ?_⟩ ?_, success⟩
  · dsimp only
    rw [data]
    exact valid
  · exact (by decide : 0 < 40)
  · exact (by decide : 0 < 12)
  · dsimp only
    rw [data]
    exact after

/-- A call that consoles in lockstep take: the modes are offered, or beyond the table. -/
def TextOutSplitter.Safe (splitter : TextOutSplitter (TextOut γ)) : Call → Prop
  | .setMode modeNumber _ => modeNumber < splitter.textOutMode.maxMode →
      (splitter.queryMode modeNumber).isSome
  | _ => True

/-- What the splitter can do. -/
def TextOutSplitter.Accepts (splitter : TextOutSplitter (TextOut γ)) (size : TextSize) :
    Call → Prop
  | .setMode modeNumber _ => (splitter.queryMode modeNumber).isSome
  | .setAttribute attr => attr ||| 0x7F = 0x7F
  | .setCursorPosition column row => column < size.1 ∧ row < size.2
  | _ => True

/-- A call keeps the lockstep, and succeeds if it is one that the splitter can do. -/
theorem Lockstep.perform (lockstep : Lockstep size splitter) {call : Call}
    (safe : splitter.Safe call) :
    (∃ other, Lockstep other (splitter.perform paper call).2) ∧
      ((splitter.perform paper call).1 = .success ↔ splitter.Accepts size call) := by
  cases call with
  | reset allocated =>
      obtain ⟨after, success⟩ := @Lockstep.reset _ paper _ _ lockstep
      exact ⟨⟨_, after⟩, iff_of_true success trivial⟩
  | outputString string =>
      obtain ⟨after, success⟩ := @Lockstep.outputString _ paper _ _ lockstep string
      exact ⟨⟨_, after⟩, iff_of_true success trivial⟩
  | setMode modeNumber allocated => exact lockstep.setMode safe
  | setAttribute attr =>
      obtain ⟨after, status⟩ := @Lockstep.setAttribute _ paper _ _ lockstep attr
      exact ⟨⟨_, after⟩, status⟩
  | clearScreen =>
      obtain ⟨after, success⟩ := @Lockstep.clearScreen _ paper _ _ lockstep
      exact ⟨⟨_, after⟩, iff_of_true success trivial⟩
  | setCursorPosition column row =>
      obtain ⟨after, status⟩ := @Lockstep.setCursorPosition _ paper _ _ lockstep column row
      exact ⟨⟨_, after⟩, status⟩
  | enableCursor visible =>
      obtain ⟨after, success⟩ := @Lockstep.enableCursor _ paper _ _ lockstep visible
      exact ⟨⟨_, after⟩, iff_of_true success trivial⟩

/-! ## The table -/

theorem setAttribute_sameTable (paper : Paper γ) (splitter : TextOutSplitter (TextOut γ))
    (attr : U32) : SameTable splitter (splitter.setAttribute paper attr).2 := by
  rw [setAttribute]
  split
  · exact .refl splitter
  · have same := callAll_sameTable paper splitter fun _ => .setAttribute attr
    exact same.withMode rfl

/-- No call changes the table. -/
theorem perform_sameTable (paper : Paper γ) (splitter : TextOutSplitter (TextOut γ))
    (call : Call) : SameTable splitter (splitter.perform paper call).2 := by
  cases call with
  | reset allocated =>
      have same := callAll_sameTable paper splitter fun _ => .reset true
      have both := same.trans
        (setAttribute_sameTable paper (splitter.callAll paper fun _ => .reset true).2
          (efiTextAttr ((splitter.callAll paper fun _ => .reset true).2.textOutMode.attr &&& 0x0F)
            EFI_BLACK))
      exact both.withMode both.maxMode
  | outputString string =>
      have same := (setAttribute_sameTable paper splitter splitter.textOutMode.attr).trans
        (callAll_sameTable paper _ fun _ => .outputString string)
      rw [TextOutSplitter.perform, outputString]
      dsimp only
      split
      · exact same.withMode same.maxMode
      · exact same.withMode same.maxMode
  | setMode modeNumber allocated =>
      rw [TextOutSplitter.perform, setMode]
      split
      · exact .refl splitter
      · split
        · have same := callAll_sameTable paper splitter fun _ => .clearScreen
          exact same.withMode rfl
        · have same := callAll_sameTable paper splitter fun index =>
            .setMode (unsigned ((splitter.numberOn modeNumber index).getD 0)) true
          exact same.withMode rfl
  | setAttribute attr => exact setAttribute_sameTable paper splitter attr
  | clearScreen =>
      have same := callAll_sameTable paper splitter fun _ => .clearScreen
      exact same.withMode rfl
  | setCursorPosition column row =>
      rw [TextOutSplitter.perform, setCursorPosition]
      dsimp only
      split
      · exact .refl splitter
      · have same := callAll_sameTable paper splitter fun _ => .setCursorPosition column row
        exact same.withMode rfl
  | enableCursor visible =>
      have same := callAll_sameTable paper splitter fun _ => .enableCursor visible
      exact same.withMode rfl

end Calls

end HtcLeo.ConSplitter
