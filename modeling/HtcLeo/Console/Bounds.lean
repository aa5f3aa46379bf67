import Mathlib.Tactic.Ring
import HtcLeo.Console.Core

/-!
# The console stays inside the framebuffer

Drawing a glyph takes a pointer through as many rows as the glyph has, and so does not
leave the lines that are below the cursor's.  The position always leaves room for them,
because the row is reset before it comes within one line of the last one; and a
character that meets the end of the screen is drawn again from the top, where it ends.
-/

namespace HtcLeo.Console

open Cursor

/-! ## Glyphs -/

section Glyph

variable {limit place : Nat} {glyph : Glyph}

theorem walks_storeColor (bytes : Nat) (color : U32) (fits : place + bytes ≤ limit) :
    Walks id limit place bytes (storeColor bytes color) := by
  induction bytes generalizing place color with
  | zero => exact fun _ stands => stands
  | succ bytes ih =>
      intro cursor stands
      have stepped := At.put stands (by omega) (color.setWidth 8)
      have place_eq : place + (bytes + 1) = place + 1 + bytes := by omega
      rw [place_eq]
      exact ih (color >>> 8) (by omega) stepped

/-- A pixel drawn as wide as the scale says. -/
theorem walks_wide {draw : Cursor 32 → Cursor 32}
    (walks : ∀ start, start + glyph.bpp.toNat ≤ limit →
      Walks id limit start glyph.bpp.toNat draw)
    (fits : place + glyph.scale.toNat * glyph.bpp.toNat ≤ limit) :
    Walks id limit place (glyph.scale.toNat * glyph.bpp.toNat) draw^[glyph.scale.toNat] :=
  Walks.iterate fits walks

/-- The bytes that one row of pixels takes up in the framebuffer. -/
def Glyph.rowBytes (glyph : Glyph) : Nat :=
  FONT_WIDTH.toNat * (glyph.scale.toNat * glyph.bpp.toNat) +
    glyph.skip.toNat * glyph.bpp.toNat

/-- The bytes that the rows of half a glyph take up. -/
def Glyph.halfBytes (glyph : Glyph) : Nat :=
  (FONT_HEIGHT / 2).toNat * (glyph.scale.toNat * glyph.rowBytes)

theorem Glyph.skip_eq (glyph : Glyph) :
    glyph.skip * glyph.bpp = BitVec.ofNat 32 (glyph.skip.toNat * glyph.bpp.toNat) := by
  rw [BitVec.ofNat_mul, ofNat_toNat_self, ofNat_toNat_self]

theorem walks_backgroundRow (fits : place + glyph.rowBytes ≤ limit) :
    Walks id limit place glyph.rowBytes glyph.backgroundRow := by
  unfold Glyph.rowBytes at fits ⊢
  intro cursor stands
  have columns : Walks id limit place (FONT_WIDTH.toNat * (glyph.scale.toNat * glyph.bpp.toNat))
      _ := Walks.iterate (by omega) fun start inside =>
    walks_wide (fun _ => walks_storeColor glyph.bpp.toNat glyph.color.background) inside
  rw [← Nat.add_assoc]
  exact (columns stands).skip _ glyph.skip_eq

theorem walks_backgroundHalf (fits : place + glyph.halfBytes ≤ limit) :
    Walks id limit place glyph.halfBytes glyph.backgroundHalf :=
  Walks.iterate fits fun _ inside => Walks.iterate inside fun _ => walks_backgroundRow

theorem walks_columns (columns : Nat)
    (fits : place + columns * (glyph.scale.toNat * glyph.bpp.toNat) ≤ limit) :
    Walks Prod.snd limit place (columns * (glyph.scale.toNat * glyph.bpp.toNat))
      (glyph.columns columns) := by
  induction columns generalizing place with
  | zero =>
      intro pen stands
      rw [Nat.zero_mul]
      exact stands
  | succ columns ih =>
      rintro ⟨data, cursor⟩ stands
      rw [Nat.succ_mul, Nat.add_comm (columns * _), ← Nat.add_assoc] at fits ⊢
      apply ih fits
      refine walks_wide (fun start inside => ?_) (by omega) stands
      split
      · exact walks_storeColor _ _ inside
      · exact fun _ stands => stands.skip _ (ofNat_toNat_self glyph.bpp).symm

theorem walks_row (temp : U32) (fits : place + glyph.rowBytes ≤ limit) :
    Walks Prod.snd limit place glyph.rowBytes (glyph.row temp) := by
  unfold Glyph.rowBytes at fits ⊢
  intro pen stands
  have columns : Walks Prod.snd limit place _ (glyph.columns FONT_WIDTH.toNat) :=
    walks_columns FONT_WIDTH.toNat (by omega)
  have drawn := @columns (temp, pen.2) stands
  rw [← Nat.add_assoc]
  exact drawn.skip _ glyph.skip_eq

theorem walks_half (data : U32) (fits : place + glyph.halfBytes ≤ limit) :
    Walks id limit place glyph.halfBytes (glyph.half data) := by
  intro cursor stands
  have rows : Walks Prod.snd limit place glyph.halfBytes _ :=
    Walks.iterate fits fun start inside pen stands =>
      Walks.iterate inside (fun _ => walks_row pen.1) stands
  exact @rows (data, cursor) stands

end Glyph

/-! ## What the console does to the framebuffer -/

/-- A store inside a framebuffer of so many bytes, or a word of the font that exists. -/
def Effect.Inside (bytes : Nat) : Effect → Prop
  | .store offset _ => offset.toNat < bytes
  | .readFont index => index < font5x12.length
  | .flush _ | .enableInterrupts | .disableInterrupts => True

/-- The size of the framebuffer. -/
def FbCon.bytes (con : FbCon) : Nat :=
  con.width.toNat * con.height.toNat * con.pixelBytes.toNat

/-- Everything that was done to the framebuffer and the font was inside. -/
def FbCon.Safe (con : FbCon) : Prop :=
  ∀ effect ∈ con.log, effect.Inside con.bytes

/-- The position is below the last line but one, and in a column of the line. -/
structure FbconPosition.Within (position max : FbconPosition) (scale : U32) : Prop where
  column : 0 ≤ position.x.toInt ∧ position.x.toInt < max.x.toInt / scale.toNat
  row : 0 ≤ position.y.toInt ∧ position.y.toInt < max.y.toInt - scale.toNat

theorem storesOf_inside {limit : Nat} {cursor : Cursor 32} (below : Below limit cursor.stores) :
    ∀ effect ∈ storesOf cursor, effect.Inside limit := by
  intro effect member
  rcases List.mem_map.mp member with ⟨store, stored, rfl⟩
  exact below store stored

theorem resetFb_safe {con : FbCon} (safe : con.Safe) : con.resetFb.Safe := by
  let pixel := storeColor con.pixelBytes.toNat FB_BGRA8888_BLACK
  have walks : Walks id con.bytes 0
      (con.width.toNat * (con.height.toNat * con.pixelBytes.toNat))
      (pixel^[con.height.toNat])^[con.width.toNat] := by
    apply Walks.iterate
    · rw [FbCon.bytes, Nat.mul_assoc, Nat.zero_add]
    · exact fun _ inside => Walks.iterate inside fun _ => walks_storeColor _ _
  have cleared := walks (at_start con.bytes 0)
  intro effect member
  rcases List.mem_append.mp member with earlier | stored
  · exact safe effect earlier
  · exact storesOf_inside cleared.below effect stored

theorem fbConDrawglyph_safe {con : FbCon} {pixels stride bpp scale : U32} {place index : Nat}
    (safe : con.Safe) (pixels_eq : pixels = BitVec.ofNat 32 place)
    (fits : place + 2 * Glyph.halfBytes ⟨bpp, stride - FONT_WIDTH * scale, scale, con.color⟩ ≤
      con.bytes)
    (known : index + 1 < font5x12.length) :
    (con.fbConDrawglyph pixels stride bpp index scale).Safe := by
  generalize shape_eq : Glyph.mk bpp (stride - FONT_WIDTH * scale) scale con.color = shape at fits
  have start : At con.bytes place (⟨pixels, []⟩ : Cursor 32) := by
    rw [pixels_eq]
    exact at_start con.bytes place
  have background : Walks id con.bytes place (2 * shape.halfBytes) shape.backgroundHalf^[2] :=
    Walks.iterate fits fun _ => walks_backgroundHalf
  have upper : At con.bytes (place + shape.halfBytes) (shape.half (fontWord index) ⟨pixels, []⟩) :=
    walks_half _ (by omega) start
  have lower : Walks id con.bytes (place + shape.halfBytes) _ (shape.half (fontWord (index + 1))) :=
    walks_half _ (by omega)
  have middle := at_start (w := 32) con.bytes (place + shape.halfBytes)
  rw [← upper.address] at middle
  intro effect member
  simp only [FbCon.fbConDrawglyph, shape_eq, List.mem_append, List.mem_cons, or_assoc] at member
  rcases member with earlier | stored | rfl | stored | rfl | stored
  · exact safe effect earlier
  · exact storesOf_inside (background start).below effect stored
  · exact Nat.lt_of_succ_lt known
  · exact storesOf_inside upper.below effect stored
  · exact known
  · exact storesOf_inside (lower middle).below effect stored

theorem FbCon.Safe.append {con after : FbCon} {effects : List Effect} (safe : con.Safe)
    (log : after.log = con.log ++ effects) (bytes : after.bytes = con.bytes)
    (inside : ∀ effect ∈ effects, effect.Inside con.bytes) : after.Safe := by
  intro effect member
  rw [log, List.mem_append] at member
  rw [bytes]
  exact member.elim (safe effect) (inside effect)

/-- An effect that is not on the framebuffer or the font. -/
theorem FbCon.Safe.other {con after : FbCon} {effect : Effect} (safe : con.Safe)
    (log : after.log = con.log ++ [effect]) (bytes : after.bytes = con.bytes)
    (inside : effect.Inside con.bytes) : after.Safe :=
  safe.append log bytes fun _ member => List.mem_singleton.mp member ▸ inside

theorem FbCon.Safe.fbConFlush {con : FbCon} (safe : con.Safe) : con.fbConFlush.Safe :=
  safe.other rfl rfl trivial

/-! ## One character -/

/-- What no character changes. -/
structure Screen where
  width : U32
  height : U32
  bpp : U32
  maxPosition : FbconPosition

/-- The dimensions of the console, which no character changes. -/
def FbCon.screen (con : FbCon) : Screen :=
  ⟨con.width, con.height, con.bpp, con.maxPosition⟩

@[simp]
theorem restore_screen (con : FbCon) (intstate : Bool) :
    (con.restore intstate).screen = con.screen := by
  unfold FbCon.restore
  split <;> rfl

@[simp]
theorem restore_position (con : FbCon) (intstate : Bool) :
    (con.restore intstate).position = con.position := by
  unfold FbCon.restore
  split <;> rfl

/-- A screen that `fbConReset` has measured, with a column and more than two lines of
characters of the scale. -/
structure FbCon.Shaped (con : FbCon) (scale : U32) : Prop where
  measured : con.maxPosition = ⟨con.width / (FONT_WIDTH + 1), (con.height - 1) / FONT_HEIGHT⟩
  tall : 0 < con.height.toNat
  positive : 0 < scale.toNat
  columns : scale.toNat ≤ con.width.toNat / 6
  rows : 2 * scale.toNat < (con.height.toNat - 1) / 12

/-- The position is where a character may be drawn, and all that was drawn is inside. -/
structure FbCon.Ready (con : FbCon) (scale : U32) : Prop where
  column : con.position.x.toNat < con.width.toNat / 6 / scale.toNat
  row : con.position.y.toNat + scale.toNat < (con.height.toNat - 1) / 12
  safe : con.Safe

section Shaped

variable {con : FbCon} {scale : U32}

theorem FbCon.Shaped.of_screen {after : FbCon} (shaped : con.Shaped scale)
    (same : after.screen = con.screen) : after.Shaped scale := by
  simp only [FbCon.screen, Screen.mk.injEq] at same
  rcases same with ⟨width, height, -, max⟩
  constructor
  · rw [max, width, height, shaped.measured]
  · exact height ▸ shaped.tall
  · exact shaped.positive
  · exact width ▸ shaped.columns
  · exact height ▸ shaped.rows

theorem FbCon.Ready.restore (ready : con.Ready scale) (intstate : Bool) :
    (con.restore intstate).Ready scale := by
  unfold FbCon.restore
  split
  · exact ⟨ready.column, ready.row, ready.safe.other rfl rfl trivial⟩
  · exact ready

theorem FbCon.Shaped.maxPosition_x (shaped : con.Shaped scale) :
    con.maxPosition.x.toNat = con.width.toNat / 6 := by
  rw [shaped.measured]
  rfl

theorem FbCon.Shaped.maxPosition_y (shaped : con.Shaped scale) :
    con.maxPosition.y.toNat = (con.height.toNat - 1) / 12 := by
  have tall := shaped.tall
  have one : (1 : U32) ≤ con.height := tall
  rw [shaped.measured]
  change ((con.height - 1) / FONT_HEIGHT).toNat = _
  rw [BitVec.toNat_udiv, BitVec.toNat_sub_of_le one]
  rfl

/-- Below the glyph there is room for a line. -/
theorem glyph_fits {width height bytes scale x y : Nat} (column : x < width / 6 / scale)
    (row : y + scale < (height - 1) / 12) :
    y * (bytes * 12 * width) + x * scale * (bytes * 6) + 12 * (scale * (width * bytes)) ≤
      width * height * bytes := by
  have across : 6 * (x * scale) ≤ width := by
    have below := Nat.mul_le_of_le_div scale x (width / 6) (Nat.le_of_lt column)
    omega
  have down : 12 * (y + scale) + 1 ≤ height := by omega
  calc
    _ = (12 * (y + scale) * width + 6 * (x * scale)) * bytes := by ring
    _ ≤ (12 * (y + scale) * width + width) * bytes :=
      Nat.mul_le_mul_right _ (Nat.add_le_add_left across _)
    _ = (12 * (y + scale) + 1) * width * bytes := by ring
    _ ≤ height * width * bytes := Nat.mul_le_mul_right _ (Nat.mul_le_mul_right _ down)
    _ = width * height * bytes := by rw [Nat.mul_comm height]

theorem FbCon.Shaped.halfBytes (shaped : con.Shaped scale) (color : FbconColor) :
    Glyph.halfBytes ⟨con.pixelBytes, con.width - FONT_WIDTH * scale, scale, color⟩ =
      6 * (scale.toNat * (con.width.toNat * con.pixelBytes.toNat)) := by
  have columns := shaped.columns
  have width : (FONT_WIDTH * scale).toNat = 5 * scale.toNat := by
    rw [BitVec.toNat_mul]
    exact Nat.mod_eq_of_lt (by have := con.width.isLt; change 5 * _ < _; omega)
  have fits : FONT_WIDTH * scale ≤ con.width := by
    rw [BitVec.le_def, width]
    omega
  have row : 5 * scale.toNat + (con.width.toNat - 5 * scale.toNat) = con.width.toNat := by omega
  change 6 * (scale.toNat * (5 * (scale.toNat * con.pixelBytes.toNat) +
    (con.width - FONT_WIDTH * scale).toNat * con.pixelBytes.toNat)) = _
  rw [BitVec.toNat_sub_of_le fits, width, ← Nat.mul_assoc 5, ← Nat.add_mul, row]

theorem FbCon.Ready.drawChar (ready : con.Ready scale) (shaped : con.Shaped scale) {c : U8}
    (printable : ¬ 127 < c ∧ ¬ c < 32) : (con.drawChar c scale).Safe := by
  have place : con.position.y * (con.pixelBytes * FONT_HEIGHT * con.width) +
      con.position.x * scale * (con.pixelBytes * (FONT_WIDTH + 1)) =
      BitVec.ofNat 32 (con.position.y.toNat * (con.pixelBytes.toNat * 12 * con.width.toNat) +
        con.position.x.toNat * scale.toNat * (con.pixelBytes.toNat * 6)) := by
    simp only [BitVec.ofNat_add, BitVec.ofNat_mul, ofNat_toNat_self]
    rfl
  apply fbConDrawglyph_safe ready.safe place
  · rw [shaped.halfBytes, ← Nat.mul_assoc 2]
    exact glyph_fits ready.column ready.row
  · have upper : ¬ 127 < c.toNat := printable.1
    change (c.toNat - 32) * 2 + 1 < 192
    omega

/-! ## Passes -/

/-- A pass from the line `y` returns with a position on the screen, or clears the screen
and starts again from its top, where it did not start before. -/
inductive Pass.Fine (screen : Screen) (y scale : U32) : Pass → Prop
  | returned {after : FbCon} : after.screen = screen → after.Ready scale →
      Fine screen y scale (.returned after)
  | paint {after : FbCon} {intstate : Bool} : after.screen = screen → after.Ready scale →
      y ≠ 0 → after.position.y = 0 → Fine screen y scale (.paint after intstate)

theorem FbCon.Shaped.newline (shaped : con.Shaped scale)
    (row : con.position.y.toNat + scale.toNat < (con.height.toNat - 1) / 12) (safe : con.Safe)
    (intstate : Bool) : (con.newline scale intstate).Fine con.screen con.position.y scale := by
  have max := shaped.maxPosition_y
  have rows := shaped.rows
  have small := con.height.isLt
  have line : (con.position.y + scale).toNat = con.position.y.toNat + scale.toNat := by
    rw [BitVec.toNat_add]
    exact Nat.mod_eq_of_lt (by omega)
  have scale_le : scale ≤ con.maxPosition.y := by
    rw [BitVec.le_def]
    omega
  have last : (con.maxPosition.y - scale).toNat = con.maxPosition.y.toNat - scale.toNat :=
    BitVec.toNat_sub_of_le scale_le
  have column : 0 < con.width.toNat / 6 / scale.toNat :=
    Nat.div_pos shaped.columns shaped.positive
  unfold FbCon.newline
  dsimp only
  split
  · rename_i full
    rw [BitVec.le_def, last, line, max] at full
    apply Pass.Fine.paint
    · exact restore_screen _ _
    · apply FbCon.Ready.restore
      constructor
      · exact column
      · exact (by omega : 0 + scale.toNat < (con.height.toNat - 1) / 12)
      · exact FbCon.Safe.fbConFlush (resetFb_safe safe)
    · rintro top
      rw [top] at full
      change _ ≤ 0 + scale.toNat at full
      omega
    · rw [restore_position]
  · rename_i room
    rw [BitVec.le_def, last, line, max] at room
    apply Pass.Fine.returned
    · exact restore_screen _ _
    · apply FbCon.Ready.restore
      constructor
      · exact column
      · exact (by omega :
          (con.position.y + scale).toNat + scale.toNat < (con.height.toNat - 1) / 12)
      · exact FbCon.Safe.fbConFlush safe

/-- The comparison that ends a line is one of signed numbers. -/
theorem FbCon.Shaped.sle_iff (shaped : con.Shaped scale) {x : U32} (small : x.toNat < 2 ^ 31) :
    (con.maxPosition.x / scale).sle x = true ↔ con.width.toNat / 6 / scale.toNat ≤ x.toNat := by
  have quotient : (con.maxPosition.x / scale).toNat = con.width.toNat / 6 / scale.toNat := by
    rw [BitVec.toNat_udiv, shaped.maxPosition_x]
  have below : con.width.toNat / 6 / scale.toNat ≤ con.width.toNat / 6 := Nat.div_le_self _ _
  have width := con.width.isLt
  rw [BitVec.sle_iff_toInt_le, BitVec.toInt_eq_toNat_of_lt (by omega),
    BitVec.toInt_eq_toNat_of_lt (by omega), quotient, Int.ofNat_le]

theorem FbCon.Ready.pass (ready : con.Ready scale) (shaped : con.Shaped scale) (c : U8)
    (type : Int) (intstate : Bool) :
    (con.pass c type scale intstate).Fine con.screen con.position.y scale := by
  have column : 0 < con.width.toNat / 6 / scale.toNat :=
    Nat.div_pos shaped.columns shaped.positive
  unfold FbCon.pass
  split
  · exact .returned rfl ready
  · rename_i ascii
    split
    · split
      · exact shaped.newline ready.row ready.safe intstate
      · split
        · exact .returned rfl ⟨column, ready.row, ready.safe⟩
        · exact .returned rfl ready
    · rename_i printable
      split
      · exact .returned rfl ready
      · have disabled : con.armDisableInterrupts.Ready scale :=
          ⟨ready.column, ready.row, ready.safe.other rfl rfl trivial⟩
        have shaped' : con.armDisableInterrupts.Shaped scale := shaped.of_screen rfl
        have drawn := disabled.drawChar shaped' ⟨ascii, printable⟩
        have below : con.width.toNat / 6 / scale.toNat ≤ con.width.toNat / 6 :=
          Nat.div_le_self _ _
        have before := ready.column
        have width := con.width.isLt
        have next : (con.position.x + 1).toNat = con.position.x.toNat + 1 := by
          rw [BitVec.toNat_add]
          exact Nat.mod_eq_of_lt (by change _ + 1 < _; omega)
        have ends := shaped.sle_iff (x := con.position.x + 1) (by omega)
        dsimp only
        split
        · exact (shaped.of_screen rfl : (con.armDisableInterrupts.drawChar c scale).Shaped
            scale).newline ready.row drawn _
        · rename_i goesOn
          apply Pass.Fine.returned
          · exact restore_screen _ _
          · apply FbCon.Ready.restore
            constructor
            · exact Nat.lt_of_not_le fun full => goesOn (ends.mpr full)
            · exact ready.row
            · exact drawn

/-- From the top of the screen one pass is enough. -/
theorem FbCon.Ready.paint_top (ready : con.Ready scale) (shaped : con.Shaped scale)
    (top : con.position.y = 0) (c : U8) (type : Int) (intstate : Bool) :
    ∃ after, (∀ passes, paint c type scale (passes + 1) intstate con = some after) ∧
      after.screen = con.screen ∧ after.Ready scale := by
  have fine := ready.pass shaped c type intstate
  cases ended : con.pass c type scale intstate with
  | returned after =>
      rw [ended] at fine
      rcases fine with ⟨same, afterReady⟩
      refine ⟨after, fun passes => ?_, same, afterReady⟩
      rw [paint, ended]
  | paint after later =>
      rw [ended] at fine
      rcases fine with _ | ⟨-, -, below, -⟩
      exact absurd top below

theorem FbCon.Ready.paint (ready : con.Ready scale) (shaped : con.Shaped scale) (c : U8)
    (type : Int) (intstate : Bool) :
    ∃ after, (∀ passes, paint c type scale (passes + 2) intstate con = some after) ∧
      after.screen = con.screen ∧ after.Ready scale := by
  have fine := ready.pass shaped c type intstate
  cases ended : con.pass c type scale intstate with
  | returned after =>
      rw [ended] at fine
      rcases fine with ⟨same, afterReady⟩
      refine ⟨after, fun passes => ?_, same, afterReady⟩
      rw [Console.paint, ended]
  | paint middle later =>
      rw [ended] at fine
      rcases fine with _ | ⟨same, middleReady, -, top⟩
      rcases middleReady.paint_top (shaped.of_screen same) top c type later with
        ⟨after, returned, same', afterReady⟩
      refine ⟨after, fun passes => ?_, same'.trans same, afterReady⟩
      rw [Console.paint, ended]
      exact returned passes

/-! ## Strings -/

theorem FbCon.Ready.putAll (ready : con.Ready scale) (shaped : con.Shaped scale)
    (puts : List Put) :
    ∃ after, (∀ passes, 2 ≤ passes → putAll passes scale puts con = some after) ∧
      after.screen = con.screen ∧ after.Ready scale := by
  induction puts generalizing con with
  | nil => exact ⟨con, fun _ _ => rfl, rfl, ready⟩
  | cons put rest ih =>
      have first : ∃ middle, (∀ passes, 2 ≤ passes → fbConPutCharWithFactor passes put.c put.type
          scale put.intstate con = some middle) ∧
          middle.screen = con.screen ∧ middle.Ready scale := by
        unfold fbConPutCharWithFactor
        split
        · rcases ready.paint shaped put.c put.type put.intstate with
            ⟨middle, returned, same, middleReady⟩
          refine ⟨middle, fun passes enough => ?_, same, middleReady⟩
          rw [← Nat.sub_add_cancel enough]
          exact returned _
        · exact ⟨con, fun _ _ => rfl, rfl, ready⟩
      rcases first with ⟨middle, returned, same, middleReady⟩
      rcases ih middleReady (shaped.of_screen same) with ⟨after, continued, same', afterReady⟩
      refine ⟨after, fun passes enough => ?_, same'.trans same, afterReady⟩
      rw [Console.putAll, returned passes enough, Option.bind_some, continued passes enough]

theorem FbCon.Ready.within (ready : con.Ready scale) (shaped : con.Shaped scale) :
    con.position.Within con.maxPosition scale := by
  have column := ready.column
  have row := ready.row
  have below : con.width.toNat / 6 / scale.toNat ≤ con.width.toNat / 6 := Nat.div_le_self _ _
  have width := con.width.isLt
  have height := con.height.isLt
  have maxX := shaped.maxPosition_x
  have maxY := shaped.maxPosition_y
  constructor
  · rw [BitVec.toInt_eq_toNat_of_lt (by omega), BitVec.toInt_eq_toNat_of_lt (by omega), maxX]
    exact ⟨Int.natCast_nonneg _, Int.ofNat_lt.mpr column⟩
  · rw [BitVec.toInt_eq_toNat_of_lt (by omega), BitVec.toInt_eq_toNat_of_lt (by omega), maxY]
    omega

/-- What `fbConReset` measures. -/
theorem fbConReset_shaped (tall : 0 < con.height.toNat) (positive : 1 ≤ scale.toNat)
    (columns : 1 ≤ con.fbConReset.maxPosition.x.toInt / scale.toNat)
    (rows : 2 * scale.toNat < con.fbConReset.maxPosition.y.toInt) :
    con.fbConReset.Shaped scale := by
  have width := con.width.isLt
  have height := con.height.isLt
  have maxX : con.fbConReset.maxPosition.x.toNat = con.width.toNat / 6 := BitVec.toNat_udiv
  have one : (1 : U32) ≤ con.height := tall
  have maxY : con.fbConReset.maxPosition.y.toNat = (con.height.toNat - 1) / 12 := by
    change ((con.height - 1) / FONT_HEIGHT).toNat = _
    rw [BitVec.toNat_udiv, BitVec.toNat_sub_of_le one]
    rfl
  rw [BitVec.toInt_eq_toNat_of_lt (by omega), maxX] at columns
  rw [BitVec.toInt_eq_toNat_of_lt (by omega), maxY] at rows
  constructor
  · rfl
  · exact tall
  · exact positive
  · apply Nat.le_of_not_lt
    intro (less : con.width.toNat / 6 < scale.toNat)
    rw [← Int.natCast_ediv, Nat.div_eq_of_lt less] at columns
    exact absurd columns (by decide)
  · change _ < (con.height.toNat - 1) / 12
    omega

/-- On a framebuffer with a line at least, a string of any characters is put with at most two
passes for each, the position stays within the screen, and nothing is stored outside. -/
theorem putAll_inside (tall : 0 < con.height.toNat) (positive : 1 ≤ scale.toNat)
    (columns : 1 ≤ con.fbConReset.maxPosition.x.toInt / scale.toNat)
    (rows : 2 * scale.toNat < con.fbConReset.maxPosition.y.toInt) (unlogged : con.log = [])
    (puts : List Put) :
    ∃ after, (∀ passes, 2 ≤ passes → putAll passes scale puts con.fbConReset = some after) ∧
      after.position.Within con.fbConReset.maxPosition scale ∧
      ∀ effect ∈ after.log, effect.Inside con.bytes := by
  have shaped := fbConReset_shaped tall positive columns rows
  have ready : con.fbConReset.Ready scale := by
    constructor
    · exact Nat.div_pos shaped.columns shaped.positive
    · have shapedRows := shaped.rows
      exact (by omega : 0 + scale.toNat < (con.fbConReset.height.toNat - 1) / 12)
    · intro effect member
      rw [FbCon.fbConReset, unlogged] at member
      exact absurd member List.not_mem_nil
  rcases ready.putAll shaped puts with ⟨after, returned, same, afterReady⟩
  have within := afterReady.within (shaped.of_screen same)
  have safe := afterReady.safe
  simp only [FbCon.screen, Screen.mk.injEq] at same
  rcases same with ⟨width, height, bpp, max⟩
  refine ⟨after, returned, max ▸ within, ?_⟩
  have bytes : after.bytes = con.bytes := by
    rw [FbCon.bytes, FbCon.pixelBytes, width, height, bpp]
    rfl
  exact bytes ▸ safe

theorem FbCon.Ready.serialPortWrite (ready : con.Ready SCALE_FACTOR)
    (shaped : con.Shaped SCALE_FACTOR) (buffer : List U8) (intstates : Nat → Bool) :
    ∃ after, (∀ passes, 2 ≤ passes →
        serialPortWrite passes buffer intstates con = some after) ∧
      after.screen = con.screen ∧ after.Ready SCALE_FACTOR := by
  have disabled : con.armDisableInterrupts.Ready SCALE_FACTOR :=
    ⟨ready.column, ready.row, ready.safe.other rfl rfl trivial⟩
  rcases disabled.putAll (shaped.of_screen rfl) _ with ⟨written, returned, same, writtenReady⟩
  refine ⟨written.restore con.interrupts, fun passes enough => ?_, ?_, writtenReady.restore _⟩
  · rw [Console.serialPortWrite, returned passes enough]
    rfl
  · rw [restore_screen]
    exact same

end Shaped

/-! ## The smallest screen, and none -/

/-- A console that was not used yet, on a framebuffer of 32 bits for a pixel. -/
def unused (width height : U32) : FbCon :=
  ⟨⟨0, 0⟩, ⟨0, 0⟩, ⟨0, 0⟩, true, width, height, 32, false, []⟩

/-- A letter, a line feed and a letter of another type. -/
def letters : List Put :=
  [⟨65, FBCON_COMMON_MSG, false⟩, ⟨CHAR_LF, FBCON_COMMON_MSG, true⟩,
    ⟨66, FBCON_TITLE_MSG, false⟩]

theorem putAll_inside_letters :
    ∃ after, (∀ passes, 2 ≤ passes → putAll passes 1 letters (unused 6 37).fbConReset =
        some after) ∧
      after.position.Within (unused 6 37).fbConReset.maxPosition 1 ∧
      ∀ effect ∈ after.log, effect.Inside (unused 6 37).bytes :=
  putAll_inside (by decide) (by decide) (by decide) (by decide) rfl letters

/-- Without any line, the unsigned `gHeight - 1` wraps, and a letter is stored outside of the
empty framebuffer. -/
theorem putAll_outside :
    1 ≤ (1 : U32).toNat ∧ 1 ≤ (unused 480 0).fbConReset.maxPosition.x.toInt / (1 : U32).toNat ∧
      2 * (1 : U32).toNat < (unused 480 0).fbConReset.maxPosition.y.toInt ∧
      ∃ after, putAll 2 1 [⟨65, FBCON_COMMON_MSG, false⟩] (unused 480 0).fbConReset = some after ∧
        ∃ effect ∈ after.log, ¬ effect.Inside (unused 480 0).bytes := by
  refine ⟨by decide, by decide, by decide, ?_⟩
  refine ⟨_, rfl, .store 0 0, ?_, Nat.not_lt_zero _⟩
  decide +kernel

end HtcLeo.Console
