import HtcLeo.Console.Bounds

/-!
# Interrupts while the console is written to

A write disables interrupts and restores their state at its end, and so does every
character that is drawn.  A newline does not come by the place where the state is saved: it
restores what the local variable happens to hold.
-/

namespace HtcLeo.Console

/-! ## Effects between two states -/

/-- From a console to a later one the log grows, and `enabling` says if interrupts are enabled
on the way.  If not, they stay disabled. -/
structure FbCon.Does (con after : FbCon) (enabling : Prop) : Prop where
  initialized : after.initialized = con.initialized
  effects : ∃ effects, after.log = con.log ++ effects ∧
    (Effect.enableInterrupts ∈ effects ↔ enabling)
  off : con.interrupts = false → ¬ enabling → after.interrupts = false

section Effects

variable {con middle after : FbCon} {first second : Prop}

theorem FbCon.Does.trans (start : con.Does middle first) (next : middle.Does after second) :
    con.Does after (first ∨ second) := by
  obtain ⟨earlier, log, enabled⟩ := start.effects
  obtain ⟨later, log', enabled'⟩ := next.effects
  constructor
  · exact next.initialized.trans start.initialized
  · refine ⟨earlier ++ later, ?_, ?_⟩
    · rw [log', log, List.append_assoc]
    · rw [List.mem_append, enabled, enabled']
  · intro disabled neither
    exact next.off (start.off disabled fun did => neither (.inl did))
      fun did => neither (.inr did)

theorem FbCon.Does.congr (does : con.Does after first) (same : first = second) :
    con.Does after second :=
  same ▸ does

/-- An update that leaves the interrupts alone. -/
theorem FbCon.Does.of_log {effects : List Effect} (initialized : after.initialized =
    con.initialized) (interrupts : after.interrupts = con.interrupts)
    (log : after.log = con.log ++ effects) (none : .enableInterrupts ∉ effects) :
    con.Does after False where
  initialized := initialized
  effects := ⟨effects, log, iff_false_intro none⟩
  off disabled _ := interrupts.trans disabled

theorem enableInterrupts_not_mem_storesOf (cursor : Cursor 32) :
    Effect.enableInterrupts ∉ storesOf cursor := by
  intro member
  obtain ⟨store, -, same⟩ := List.mem_map.mp member
  cases same

theorem does_position (con : FbCon) (position : FbconPosition) :
    con.Does { con with position := position } False :=
  .of_log rfl rfl (List.append_nil _).symm List.not_mem_nil

theorem does_foreground (con : FbCon) (foreground : U32) :
    con.Does { con with color := { con.color with foreground := foreground } } False :=
  .of_log rfl rfl (List.append_nil _).symm List.not_mem_nil

theorem does_resetFb (con : FbCon) : con.Does con.resetFb False :=
  .of_log rfl rfl rfl (enableInterrupts_not_mem_storesOf _)

theorem does_fbConFlush (con : FbCon) : con.Does con.fbConFlush False :=
  .of_log rfl rfl rfl (by simp)

theorem does_armDisableInterrupts (con : FbCon) : con.Does con.armDisableInterrupts False where
  initialized := rfl
  effects := ⟨[.disableInterrupts], rfl, by simp⟩
  off _ _ := rfl

theorem does_restore (con : FbCon) (intstate : Bool) :
    con.Does (con.restore intstate) (intstate = true) := by
  cases intstate with
  | false => exact ⟨rfl, ⟨[], (List.append_nil _).symm, by simp⟩, fun disabled _ => disabled⟩
  | true => exact ⟨rfl, ⟨[.enableInterrupts], rfl, by simp⟩, fun _ enabling => absurd rfl enabling⟩

theorem does_fbConDrawglyph (con : FbCon) (pixels stride bpp : U32) (glyph : Nat) (scale : U32) :
    con.Does (con.fbConDrawglyph pixels stride bpp glyph scale) False := by
  have log : ∃ effects, (con.fbConDrawglyph pixels stride bpp glyph scale).log =
      con.log ++ effects ∧ .enableInterrupts ∉ effects := by
    refine ⟨_, (List.append_assoc _ _ _).trans (List.append_assoc _ _ _), ?_⟩
    simp [enableInterrupts_not_mem_storesOf]
  obtain ⟨effects, grown, none⟩ := log
  exact .of_log rfl rfl grown none

theorem does_drawChar (con : FbCon) (c : U8) (scale : U32) :
    con.Does (con.drawChar c scale) False :=
  .congr ((does_fbConDrawglyph con _ _ _ _ _).trans (does_position _ _)) (or_self False)

end Effects

/-! ## A pass -/

/-- The console at the end of a pass. -/
def Pass.con : Pass → FbCon
  | .returned con => con
  | .paint con _ => con

/-- The local variable as the next pass finds it. -/
def Pass.intstate? : Pass → Option Bool
  | .returned _ => none
  | .paint _ intstate => some intstate

section Passes

variable {c : U8} {type : Int} {scale : U32} {intstate : Bool} {con middle after : FbCon}
  {first second whole : Prop}

/-- From the label `newline` on, the local variable decides. -/
theorem does_newline (con : FbCon) (scale : U32) (intstate : Bool) :
    con.Does (con.newline scale intstate).con (intstate = true) ∧
      ∀ later ∈ (con.newline scale intstate).intstate?, later = intstate := by
  have moved := does_position con ⟨0, con.position.y + scale⟩
  rw [FbCon.newline]
  dsimp only
  split
  · constructor
    · have cleared := ((moved.trans (does_resetFb _)).trans (does_fbConFlush _)).trans
        (does_position _ ⟨0, 0⟩)
      exact (cleared.trans (does_restore _ intstate)).congr (by simp)
    · intro later found
      exact (Option.some.inj found).symm
  · constructor
    · exact ((moved.trans (does_fbConFlush _)).trans (does_restore _ intstate)).congr (by simp)
    · intro later found
      cases found

/-- As `Does`, where interrupts were disabled before. -/
def FbCon.Writes (con after : FbCon) (enabling : Prop) : Prop :=
  ∃ did, con.Does after did ∧ (con.interrupts = false → (did ↔ enabling))

theorem FbCon.Does.writes (does : con.Does after first) : con.Writes after first :=
  ⟨first, does, fun _ => Iff.rfl⟩

theorem FbCon.Writes.trans (start : con.Writes middle first)
    (next : middle.Writes after second)
    (together : con.interrupts = false → (first ∨ second ↔ whole)) : con.Writes after whole := by
  obtain ⟨did, does, decided⟩ := start
  obtain ⟨did', does', decided'⟩ := next
  refine ⟨did ∨ did', does.trans does', fun disabled => ?_⟩
  rw [decided disabled, ← together disabled]
  by_cases enabled : first
  · exact iff_of_true (.inl enabled) (.inl enabled)
  · have still := does.off disabled fun did => enabled ((decided disabled).mp did)
    rw [decided' still]

/-- A newline is put, and the local variable holds that interrupts were enabled. -/
def Enables (c : U8) (intstate : Bool) : Prop :=
  c = CHAR_LF ∧ intstate = true

/-- What a pass does that ends without a newline. -/
theorem writes_of_returned (other : c ≠ CHAR_LF) (does : con.Does after False) :
    con.Writes (Pass.returned after).con (Enables c intstate) ∧
      ∀ later ∈ (Pass.returned after).intstate?, con.interrupts = false →
        Enables c later → Enables c intstate := by
  constructor
  · exact (does.congr (eq_false fun enables : Enables c intstate => other enables.1).symm).writes
  · intro later found
    cases found

/-- A character is drawn between a save and a restore; a newline only restores. -/
theorem writes_pass (con : FbCon) (c : U8) (type : Int) (scale : U32) (intstate : Bool) :
    con.Writes (con.pass c type scale intstate).con (Enables c intstate) ∧
      ∀ later ∈ (con.pass c type scale intstate).intstate?, con.interrupts = false →
        Enables c later → Enables c intstate := by
  have idle : con.Does con False := does_position con con.position
  rw [FbCon.pass]
  split
  · rename_i above
    refine writes_of_returned ?_ idle
    rintro rfl
    exact absurd above (by decide)
  · split
    · split
      · rename_i newline
        obtain ⟨does, same⟩ := does_newline con scale intstate
        refine ⟨(does.congr ?_).writes, fun later found _ enables => ?_⟩
        · simp [Enables, newline]
        · rwa [← same later found]
      · rename_i other
        split
        · exact writes_of_returned other (does_position con _)
        · exact writes_of_returned other idle
    · rename_i printable
      have other : c ≠ CHAR_LF := by
        rintro rfl
        exact printable (by decide)
      split
      · exact writes_of_returned other idle
      · have drawn : con.Does (con.armDisableInterrupts.drawChar c scale) False :=
          ((does_armDisableInterrupts con).trans (does_drawChar _ c scale)).congr (or_self False)
        -- what was saved before is restored, and it says that interrupts were disabled
        have saved {after : FbCon} (does : con.Does after (con.interrupts = true)) :
            con.Writes after (Enables c intstate) := by
          refine ⟨_, does, fun disabled => iff_of_false ?_ fun enables => other enables.1⟩
          rw [disabled]
          exact Bool.false_ne_true
        dsimp only
        split
        · obtain ⟨does, same⟩ := does_newline (con.armDisableInterrupts.drawChar c scale) scale
            con.interrupts
          refine ⟨saved ((drawn.trans does).congr (false_or _)), fun later found disabled => ?_⟩
          exact fun enables => absurd enables.1 other
        · constructor
          · exact saved ((drawn.trans (does_restore _ con.interrupts)).congr (false_or _))
          · intro later found
            cases found

/-- The character goes through as many passes as it takes. -/
theorem writes_paint {passes : Nat} (returned : paint c type scale passes intstate con =
    some after) : con.Writes after (Enables c intstate) := by
  induction passes generalizing intstate con with
  | zero => cases returned
  | succ passes ih =>
      obtain ⟨writes, kept⟩ := writes_pass con c type scale intstate
      rw [paint] at returned
      cases ended : con.pass c type scale intstate with
      | returned final =>
          rw [ended] at returned writes
          obtain rfl := Option.some.inj returned
          exact writes
      | paint middle later =>
          rw [ended] at returned writes kept
          refine writes.trans (ih returned) fun disabled => ?_
          exact or_iff_left_of_imp (kept later rfl disabled)

/-! ## A string -/

/-- A newline is put to a console in use, and the local variable of the call holds that
interrupts were enabled. -/
theorem writes_putAll {passes : Nat} {puts : List Put}
    (returned : putAll passes scale puts con = some after) :
    con.Writes after (con.initialized = true ∧ ∃ put ∈ puts, Enables put.c put.intstate) := by
  induction puts generalizing con with
  | nil =>
      obtain rfl := Option.some.inj returned
      exact ((does_position con con.position).congr (by simp)).writes
  | cons put rest ih =>
      obtain ⟨middle, first, next⟩ := Option.bind_eq_some_iff.mp returned
      rw [fbConPutCharWithFactor] at first
      split at first
      · rename_i used
        obtain ⟨_, does, _⟩ := writes_paint first
        refine (writes_paint first).trans (ih next) fun _ => ?_
        rw [does.initialized, used]
        simp
      · rename_i unused
        obtain rfl := Option.some.inj first
        obtain ⟨did, does, decided⟩ := ih next
        refine ⟨did, does, fun disabled => (decided disabled).trans ?_⟩
        simp [unused]

end Passes

/-! ## The two writers -/

def FB_BGRA8888_YELLOW : U32 := 0xffffff00

/-- As `serialPortWrite`, in yellow. -/
def serialPortWriteCritical (passes : Nat) (buffer : List U8) (intstates : Nat → Bool)
    (con : FbCon) : Option FbCon :=
  let puts := buffer.zipIdx.map fun byte => Put.mk byte.1 FBCON_COMMON_MSG (intstates byte.2)
  let yellow (con : FbCon) : FbCon :=
    { con with color := { con.color with foreground := FB_BGRA8888_YELLOW } }
  let restored (after : FbCon) : FbCon :=
    { after with color := { after.color with foreground := con.color.foreground } }
  (putAll passes SCALE_FACTOR puts (yellow con.armDisableInterrupts)).map fun after =>
    (restored after).restore con.interrupts

/-- The interrupt state is what it was, and between the first disabling and the restore
nothing enabled interrupts. -/
def InterruptsKept (con after : FbCon) : Prop :=
  after.interrupts = con.interrupts ∧
    ∃ middle, .enableInterrupts ∉ middle ∧
      after.log = con.log ++ .disableInterrupts :: middle ++
        if con.interrupts then [.enableInterrupts] else []

/-- No newline is put to a console in use while the local variable holds that interrupts were
enabled. -/
def NewlinesQuiet (con : FbCon) (buffer : List U8) (intstates : Nat → Bool) : Prop :=
  con.initialized = true → ∀ i, buffer[i]? = some CHAR_LF → intstates i = false

section Writers

variable {con after written : FbCon} {buffer : List U8} {intstates : Nat → Bool} {passes : Nat}
  {enabling : Prop}

theorem newlinesQuiet_iff :
    NewlinesQuiet con buffer intstates ↔ ¬ (con.initialized = true ∧ ∃ put ∈
      buffer.zipIdx.map fun byte => Put.mk byte.1 FBCON_COMMON_MSG (intstates byte.2),
      Enables put.c put.intstate) := by
  rw [NewlinesQuiet, not_and]
  refine imp_congr_right fun _ => ?_
  constructor
  · rintro quiet ⟨put, member, newline, enabled⟩
    obtain ⟨⟨c, i⟩, indexed, rfl⟩ := List.mem_map.mp member
    obtain rfl : c = CHAR_LF := newline
    rw [quiet i (List.mem_zipIdx_iff_getElem?.mp indexed)] at enabled
    cases enabled
  · intro none i newline
    by_contra enabled
    refine none ⟨⟨CHAR_LF, FBCON_COMMON_MSG, intstates i⟩, ?_, rfl, eq_true_of_ne_false enabled⟩
    exact List.mem_map.mpr ⟨(CHAR_LF, i), List.mem_zipIdx_iff_getElem?.mpr newline, rfl⟩

theorem restore_log (con : FbCon) (intstate : Bool) :
    (con.restore intstate).log = con.log ++ if intstate then [.enableInterrupts] else [] := by
  cases intstate with
  | false => exact (List.append_nil _).symm
  | true => rfl

/-- What both writers come to: the characters between a disabling and a restore. -/
theorem interruptsKept_restore_iff (writes : con.armDisableInterrupts.Writes written enabling) :
    InterruptsKept con (written.restore con.interrupts) ↔ ¬ enabling := by
  obtain ⟨did, does, decided⟩ := writes
  obtain ⟨effects, log, enabled⟩ := does.effects
  rw [decided rfl] at enabled
  have grown : written.log = con.log ++ .disableInterrupts :: effects :=
    log.trans (List.append_assoc _ _ _)
  rw [InterruptsKept, restore_log, grown]
  constructor
  · rintro ⟨-, middle, none, same⟩
    have behind := List.append_cancel_left (List.append_cancel_right same)
    rw [← enabled, List.tail_eq_of_cons_eq behind]
    exact none
  · intro quiet
    refine ⟨?_, effects, mt enabled.mp quiet, rfl⟩
    cases initial : con.interrupts with
    | true => rfl
    | false => exact does.off rfl (mt (decided rfl).mp quiet)

/-- Writing keeps the interrupt state exactly if, for every newline of the string, the local
variable that is not initialized says that interrupts were disabled. -/
theorem interruptsKept_iff
    (returned : serialPortWrite passes buffer intstates con = some after ∨
      serialPortWriteCritical passes buffer intstates con = some after) :
    InterruptsKept con after ↔ NewlinesQuiet con buffer intstates := by
  rw [newlinesQuiet_iff]
  rcases returned with returned | returned
  · obtain ⟨written, put, rfl⟩ := Option.map_eq_some_iff.mp returned
    exact interruptsKept_restore_iff (writes_putAll put)
  · obtain ⟨written, put, rfl⟩ := Option.map_eq_some_iff.mp returned
    have yellow := (does_foreground con.armDisableInterrupts FB_BGRA8888_YELLOW).writes
    have all := (yellow.trans (writes_putAll put) fun _ => Iff.of_eq (false_or _)).trans
      (does_foreground written con.color.foreground).writes fun _ => Iff.of_eq (or_false _)
    exact interruptsKept_restore_iff all

/-- On a screen that was measured, the second writer returns, too. -/
theorem FbCon.Ready.serialPortWriteCritical (ready : con.Ready SCALE_FACTOR)
    (shaped : con.Shaped SCALE_FACTOR) (buffer : List U8) (intstates : Nat → Bool) :
    ∃ after, ∀ passes, 2 ≤ passes →
      Console.serialPortWriteCritical passes buffer intstates con = some after := by
  let yellow : FbCon := { con.armDisableInterrupts with
    color := { con.color with foreground := FB_BGRA8888_YELLOW } }
  have yellowReady : yellow.Ready SCALE_FACTOR :=
    ⟨ready.column, ready.row, ready.safe.other rfl rfl trivial⟩
  obtain ⟨written, returned, -⟩ := yellowReady.putAll (shaped.of_screen rfl)
    (buffer.zipIdx.map fun byte => Put.mk byte.1 FBCON_COMMON_MSG (intstates byte.2))
  let restored : FbCon :=
    { written with color := { written.color with foreground := con.color.foreground } }
  refine ⟨restored.restore con.interrupts, fun passes enough => ?_⟩
  exact congrArg (Option.map _) (returned passes enough)

end Writers

/-! ## A newline alone -/

/-- The screen of the platform, with interrupts disabled. -/
def screen : FbCon :=
  (unused 480 800).fbConReset

/-- The screen after a newline, as a write that finds interrupts disabled leaves it. -/
def screenAfter : FbCon :=
  (screen.armDisableInterrupts.newline SCALE_FACTOR false).con

theorem interruptsKept_iff_newline :
    serialPortWrite 2 [CHAR_LF] (fun _ => false) screen = some screenAfter ∧
      (InterruptsKept screen screenAfter ↔ NewlinesQuiet screen [CHAR_LF] fun _ => false) := by
  have returned : serialPortWrite 2 [CHAR_LF] (fun _ => false) screen = some screenAfter := by
    decide
  exact ⟨returned, interruptsKept_iff (.inl returned)⟩

/-- Interrupts are disabled before the write of a newline, and enabled after it. -/
theorem not_interruptsKept :
    ∃ after, serialPortWrite 2 [CHAR_LF] (fun _ => true) screen = some after ∧
      ¬ InterruptsKept screen after := by
  refine ⟨_, rfl, fun kept => ?_⟩
  exact absurd kept.1 (by decide)

end HtcLeo.Console
