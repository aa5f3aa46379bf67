import HtcLeo.Word.Cursor
import HtcLeo.Word.Flags

/-!
# The framebuffer console

Characters are drawn cell by cell into a framebuffer.  A full line continues on the
next one, and a full screen is cleared and drawn from the top.  The console is a state
with a log of what it did to the framebuffer, the font and the interrupts; addresses
are offsets from `PcdMipiFrameBufferAddress`.
-/

namespace HtcLeo.Console

/-! ## The font -/

def FONT_WIDTH : U32 := 5
def FONT_HEIGHT : U32 := 12

/-- Two words for each character from the space on. -/
def font5x12 : List U32 :=
  [0x00000000, 0x00000000, 0x08421080, 0x00020084, 0x00052940, 0x00000000,
    0x15f52800, 0x0000295f, 0x1c52f880, 0x00023e94, 0x08855640, 0x0004d542,
    0x04528800, 0x000b2725, 0x00021080, 0x00000000, 0x04211088, 0x00821042,
    0x10841082, 0x00221108, 0x09575480, 0x00000000, 0x3e420000, 0x00000084,
    0x00000000, 0x00223000, 0x3e000000, 0x00000000, 0x00000000, 0x00471000,
    0x08844200, 0x00008442, 0x2318a880, 0x00022a31, 0x08429880, 0x000f9084,
    0x1108c5c0, 0x000f8444, 0x1c4443e0, 0x00074610, 0x14a62100, 0x000423e9,
    0x26d087e0, 0x00074610, 0x1e10c5c0, 0x00074631, 0x088443e0, 0x00010844,
    0x1d18c5c0, 0x00074631, 0x3d18c5c0, 0x00074610, 0x08e20000, 0x00471000,
    0x08e20000, 0x00223000, 0x02222200, 0x00082082, 0x01f00000, 0x000003e0,
    0x20820820, 0x00008888, 0x1108c5c0, 0x00020084, 0x2b98c5c0, 0x000f05b5,
    0x2318a880, 0x0008c63f, 0x1d2949e0, 0x0007ca52, 0x0210c5c0, 0x00074421,
    0x252949e0, 0x0007ca52, 0x1e1087e0, 0x000f8421, 0x1e1087e0, 0x00008421,
    0x0210c5c0, 0x00074639, 0x3f18c620, 0x0008c631, 0x084211c0, 0x00071084,
    0x10842380, 0x00032508, 0x0654c620, 0x0008c525, 0x02108420, 0x000f8421,
    0x2b5dc620, 0x0008c631, 0x2b59ce20, 0x0008c739, 0x2318c5c0, 0x00074631,
    0x1f18c5e0, 0x00008421, 0x2318c5c0, 0x01075631, 0x1f18c5e0, 0x0008c525,
    0x1c10c5c0, 0x00074610, 0x084213e0, 0x00021084, 0x2318c620, 0x00074631,
    0x1518c620, 0x0002114a, 0x2b18c620, 0x000556b5, 0x08a54620, 0x0008c54a,
    0x08a54620, 0x00021084, 0x088443e0, 0x000f8442, 0x0421084e, 0x00e10842,
    0x08210420, 0x00084108, 0x1084210e, 0x00e42108, 0x0008a880, 0x00000000,
    0x00000000, 0x01f00000, 0x00000104, 0x00000000, 0x20e00000, 0x000b663e,
    0x22f08420, 0x0007c631, 0x22e00000, 0x00074421, 0x23e84200, 0x000f4631,
    0x22e00000, 0x0007443f, 0x1e214980, 0x00010842, 0x22e00000, 0x1d187a31,
    0x26d08420, 0x0008c631, 0x08601000, 0x00071084, 0x10c02000, 0x0c94a108,
    0x0a908420, 0x0008a4a3, 0x084210c0, 0x00071084, 0x2ab00000, 0x0008d6b5,
    0x26d00000, 0x0008c631, 0x22e00000, 0x00074631, 0x22f00000, 0x0210be31,
    0x23e00000, 0x21087a31, 0x26d00000, 0x00008421, 0x22e00000, 0x00074506,
    0x04f10800, 0x00064842, 0x23100000, 0x000b6631, 0x23100000, 0x00022951,
    0x23100000, 0x000556b5, 0x15100000, 0x0008a884, 0x23100000, 0x1d185b31,
    0x11f00000, 0x000f8444, 0x06421098, 0x01821084, 0x08421080, 0x00021084,
    0x30421083, 0x00321084, 0x0004d640, 0x00000000, 0x00000000, 0x00000000]

/-! ## State -/

/-- What the console does to memory, to the cache and to the interrupt mask. -/
inductive Effect where
  | store (offset : U32) (byte : U8)
  | readFont (index : Nat)
  | flush (bytes : U32)
  | enableInterrupts
  | disableInterrupts
  deriving DecidableEq, Repr

/-- The members of `FBCON_POSITION` are signed. -/
structure FbconPosition where
  x : U32
  y : U32
  deriving DecidableEq, Repr

/-- The two colors of the text. -/
structure FbconColor where
  foreground : U32
  background : U32
  deriving DecidableEq, Repr

def FB_BGRA8888_BLACK : U32 := 0xff000000
def FB_BGRA8888_WHITE : U32 := 0xffffffff

/-- The variables of the file, the interrupt state of the CPU, and the log. -/
structure FbCon where
  position : FbconPosition
  maxPosition : FbconPosition
  color : FbconColor
  initialized : Bool
  width : U32
  height : U32
  bpp : U32
  interrupts : Bool
  log : List Effect
  deriving DecidableEq, Repr

/-- The bytes of a pixel. -/
def FbCon.pixelBytes (con : FbCon) : U32 :=
  con.bpp / 8

/-- `ArmEnableInterrupts`. -/
def FbCon.armEnableInterrupts (con : FbCon) : FbCon :=
  { con with interrupts := true, log := con.log ++ [.enableInterrupts] }

/-- `ArmDisableInterrupts`. -/
def FbCon.armDisableInterrupts (con : FbCon) : FbCon :=
  { con with interrupts := false, log := con.log ++ [.disableInterrupts] }

/-- `if (intstate) ArmEnableInterrupts();`. -/
def FbCon.restore (con : FbCon) (intstate : Bool) : FbCon :=
  if intstate then con.armEnableInterrupts else con

/-! ## Drawing -/

/-- Store the bytes of a color, the lowest first. -/
def storeColor : Nat → U32 → Cursor 32 → Cursor 32
  | 0, _, cursor => cursor
  | bytes + 1, color, cursor => storeColor bytes (color >>> 8) (cursor.put (color.setWidth 8))

/-- The stores of a cursor as effects. -/
def storesOf (cursor : Cursor 32) : List Effect :=
  cursor.stores.map fun store => .store store.1 store.2

/-- `ResetFb`. -/
def FbCon.resetFb (con : FbCon) : FbCon :=
  let pixel := storeColor con.pixelBytes.toNat FB_BGRA8888_BLACK
  { con with log := con.log ++ storesOf ((pixel^[con.height.toNat])^[con.width.toNat] ⟨0, []⟩) }

/-- `FbConFlush`. -/
def FbCon.fbConFlush (con : FbCon) : FbCon :=
  { con with log := con.log ++ [.flush (con.width * con.height * con.pixelBytes)] }

/-- `FbConReset`. -/
def FbCon.fbConReset (con : FbCon) : FbCon :=
  { con with
    position := ⟨0, 0⟩
    maxPosition := ⟨con.width / (FONT_WIDTH + 1), (con.height - 1) / FONT_HEIGHT⟩
    color := ⟨FB_BGRA8888_WHITE, FB_BGRA8888_BLACK⟩ }

/-- What stays the same while a glyph is drawn; `skip` is `stride` once the width of the
glyph is taken off. -/
structure Glyph where
  bpp : U32
  skip : U32
  scale : U32
  color : FbconColor
  deriving DecidableEq, Repr

/-- One row of pixels in the background color. -/
def Glyph.backgroundRow (glyph : Glyph) (cursor : Cursor 32) : Cursor 32 :=
  let pixel := storeColor glyph.bpp.toNat glyph.color.background
  ((pixel^[glyph.scale.toNat])^[FONT_WIDTH.toNat] cursor).skip (glyph.skip * glyph.bpp)

/-- The background under half of a glyph. -/
def Glyph.backgroundHalf (glyph : Glyph) : Cursor 32 → Cursor 32 :=
  (glyph.backgroundRow^[glyph.scale.toNat])^[(FONT_HEIGHT / 2).toNat]

/-- The columns of a row: `data` is shifted by each. -/
def Glyph.columns (glyph : Glyph) : Nat → U32 × Cursor 32 → U32 × Cursor 32
  | 0, pen => pen
  | x + 1, (data, cursor) =>
      let draw := if data &&& 1 ≠ 0 then storeColor glyph.bpp.toNat glyph.color.foreground
        else fun cursor => cursor.skip glyph.bpp
      glyph.columns x (data >>> 1, draw^[glyph.scale.toNat] cursor)

/-- One row of pixels, drawn from `temp`. -/
def Glyph.row (glyph : Glyph) (temp : U32) (pen : U32 × Cursor 32) : U32 × Cursor 32 :=
  let pen := glyph.columns FONT_WIDTH.toNat (temp, pen.2)
  (pen.1, pen.2.skip (glyph.skip * glyph.bpp))

/-- One row of the font. -/
def Glyph.rows (glyph : Glyph) (pen : U32 × Cursor 32) : U32 × Cursor 32 :=
  (glyph.row pen.1)^[glyph.scale.toNat] pen

/-- Half of a glyph, from one of the two words of its bitmap. -/
def Glyph.half (glyph : Glyph) (data : U32) (cursor : Cursor 32) : Cursor 32 :=
  (glyph.rows^[(FONT_HEIGHT / 2).toNat] (data, cursor)).2

/-- The word of the font at an index. -/
def fontWord (index : Nat) : U32 :=
  font5x12[index]?.getD 0

/-- `glyph` is the index of the first word in `font5x12`. -/
def FbCon.fbConDrawglyph (con : FbCon) (pixels stride bpp : U32) (glyph : Nat) (scale : U32) :
    FbCon :=
  let shape : Glyph := ⟨bpp, stride - FONT_WIDTH * scale, scale, con.color⟩
  let background := shape.backgroundHalf^[2] ⟨pixels, []⟩
  let upper := shape.half (fontWord glyph) ⟨pixels, []⟩
  let lower := shape.half (fontWord (glyph + 1)) ⟨upper.address, []⟩
  { con with
    log := con.log ++ storesOf background ++ .readFont glyph :: storesOf upper ++
      .readFont (glyph + 1) :: storesOf lower }

/-! ## Characters -/

def FBCON_COMMON_MSG : Int := 0
def FBCON_TITLE_MSG : Int := 2
def FBCON_SUBTITLE_MSG : Int := 3

def CHAR_LF : U8 := 10
def CHAR_CR : U8 := 13
def CHAR_SPACE : U8 := 32

/-- How one pass from the label `paint` ends. -/
inductive Pass where
  | returned (con : FbCon)
  | paint (con : FbCon) (intstate : Bool)
  deriving DecidableEq, Repr

/-- From the label `newline` on. -/
def FbCon.newline (con : FbCon) (scale : U32) (intstate : Bool) : Pass :=
  let con := { con with position := ⟨0, con.position.y + scale⟩ }
  if con.maxPosition.y - scale ≤ con.position.y then
    let con := con.resetFb.fbConFlush
    .paint (FbCon.restore { con with position := ⟨con.position.x, 0⟩ } intstate) intstate
  else .returned (con.fbConFlush.restore intstate)

/-- Draw the character at the position, and step to the next column. -/
def FbCon.drawChar (con : FbCon) (c : U8) (scale : U32) : FbCon :=
  let pixels := con.position.y * (con.pixelBytes * FONT_HEIGHT * con.width) +
    con.position.x * scale * (con.pixelBytes * (FONT_WIDTH + 1))
  let con := con.fbConDrawglyph pixels con.width con.pixelBytes ((c.toNat - 32) * 2) scale
  { con with position := ⟨con.position.x + 1, con.position.y⟩ }

/-- One pass from the label `paint`.  `intstate` is what the local variable of that name
holds, which is anything until it is assigned. -/
def FbCon.pass (con : FbCon) (c : U8) (type : Int) (scale : U32) (intstate : Bool) : Pass :=
  if 127 < c then .returned con
  else if c < 32 then
    if c = CHAR_LF then con.newline scale intstate
    else if c = CHAR_CR then .returned { con with position := ⟨0, con.position.y⟩ }
    else .returned con
  else if con.position.x = 0 ∧ c = CHAR_SPACE ∧ type ≠ FBCON_SUBTITLE_MSG ∧
      type ≠ FBCON_TITLE_MSG then .returned con
  else
    let intstate := con.interrupts
    let con := con.armDisableInterrupts.drawChar c scale
    if (con.maxPosition.x / scale).sle con.position.x then con.newline scale intstate
    else .returned (con.restore intstate)

/-- At most `passes` passes from the label `paint`. -/
def paint (c : U8) (type : Int) (scale : U32) : Nat → Bool → FbCon → Option FbCon
  | 0, _, _ => none
  | passes + 1, intstate, con =>
      match con.pass c type scale intstate with
      | .returned con => some con
      | .paint con intstate => paint c type scale passes intstate con

/-- `intstate` is what the uninitialized local variable holds. -/
def fbConPutCharWithFactor (passes : Nat) (c : U8) (type : Int) (scale : U32) (intstate : Bool)
    (con : FbCon) : Option FbCon :=
  if con.initialized then paint c type scale passes intstate con else some con

/-! ## Strings -/

/-- A character to put, and what the uninitialized local variable of the call holds. -/
structure Put where
  c : U8
  type : Int
  intstate : Bool
  deriving DecidableEq, Repr

/-- A sequence of characters; `none` where one of them does not return. -/
def putAll (passes : Nat) (scale : U32) : List Put → FbCon → Option FbCon
  | [], con => some con
  | put :: rest, con =>
      (fbConPutCharWithFactor passes put.c put.type scale put.intstate con).bind
        (putAll passes scale rest)

def SCALE_FACTOR : U32 := 1

/-- `intstates` are what the uninitialized local variables of the calls hold. -/
def serialPortWrite (passes : Nat) (buffer : List U8) (intstates : Nat → Bool) (con : FbCon) :
    Option FbCon :=
  let puts := buffer.zipIdx.map fun byte => Put.mk byte.1 FBCON_COMMON_MSG (intstates byte.2)
  (putAll passes SCALE_FACTOR puts con.armDisableInterrupts).map (·.restore con.interrupts)

end HtcLeo.Console
