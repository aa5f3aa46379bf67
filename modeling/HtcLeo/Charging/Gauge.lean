import Mathlib.Algebra.Group.Int.Defs
import Mathlib.Algebra.Group.Nat.Defs
import HtcLeo.Charging.Core

/-!
# The signed readings of the gauge

Current and temperature are signed words, read as two bytes.  The low byte is kept in a
signed variable, so its sign is extended over the high byte, and a temperature leaves the 16
bits of the result unless it is near zero.
-/

namespace HtcLeo.Charging

/-! ## The readings -/

def DS2746_CURRENT_ACCUM_RES : U32 := 645
def DS2745_TEMPERATURE_RES : U32 := 125

/-- Two bytes of type `int8_t` in an `int16_t`, with the promotions to `int`. -/
def gaugeWord (s0 s1 : U8) : U16 :=
  let word : U16 := (s0.signExtend 32 <<< 8).setWidth 16
  (word.signExtend 32 ||| s1.signExtend 32).setWidth 16

/-- A division by 0, which has no value in the source, gives 0 here. -/
def ds2746Current (msb lsb : RegisterRead) (resistance : U16) : U16 :=
  let cur := gaugeWord msb.byte lsb.byte
  (((cur.signExtend 32).sshiftRight 2 * DS2746_CURRENT_ACCUM_RES).sdiv
    (resistance.setWidth 32)).setWidth 16

/-- `ds2745_temperature`. -/
def ds2745Temperature (msb lsb : RegisterRead) : U16 :=
  let temp := gaugeWord msb.byte lsb.byte
  ((temp.signExtend 32).sshiftRight 5 * DS2745_TEMPERATURE_RES).setWidth 16

/-! ## Two bytes in a word -/

/-- The signed number that the bytes stand for. -/
def signedWord (msb lsb : U8) : Int := msb.toInt * 256 + lsb.toNat

theorem setWidth_signExtend {w : Nat} (x : BitVec w) :
    (x.signExtend 32).setWidth 16 = x.signExtend 16 := by
  ext i below
  have small : i < 32 := Nat.lt_trans below (by decide)
  simp [BitVec.getElem_signExtend, small]

theorem gaugeWord_eq (msb lsb : U8) :
    gaugeWord msb lsb = (msb.signExtend 32 <<< 8).setWidth 16 ||| lsb.signExtend 16 := by
  rw [gaugeWord, BitVec.setWidth_or, setWidth_signExtend, setWidth_signExtend,
    BitVec.signExtend_eq]

theorem high_byte : ∀ msb : U8,
    (msb.signExtend 32 <<< 8).setWidth 16 = msb ++ (0 : U8) ∧
      (msb ++ (0 : U8)) ||| (0xFF00 : U16) = 0xFF00 := by
  decide +kernel

theorem low_byte : ∀ lsb : U8,
    (lsb.toNat < 128 → lsb.signExtend 16 = (0 : U8) ++ lsb) ∧
      (128 ≤ lsb.toNat → lsb.signExtend 16 = (0xFF00 : U16) ||| lsb.signExtend 16 ∧
        (lsb.signExtend 16).toInt = lsb.toNat - 256) := by
  decide +kernel

theorem append_zero_or (msb lsb : U8) : (msb ++ (0 : U8)) ||| ((0 : U8) ++ lsb) = msb ++ lsb := by
  rw [BitVec.append_def, BitVec.append_def, BitVec.append_def]
  simp

/-- A low byte that is negative hides the high byte. -/
theorem gaugeWord_toInt (msb lsb : U8) :
    (gaugeWord msb lsb).toInt =
      if lsb.toNat < 128 then signedWord msb lsb else lsb.toNat - 256 := by
  rw [gaugeWord_eq, (high_byte msb).1]
  split
  · rename_i plain
    rw [(low_byte lsb).1 plain, append_zero_or, BitVec.toInt_append, signedWord]
    simp [Int.mul_comm]
  · rename_i negative
    obtain ⟨filled, value⟩ := (low_byte lsb).2 (Nat.not_lt.mp negative)
    rw [filled, ← BitVec.or_assoc, (high_byte msb).2, ← filled, value]

/-! ## The results -/

/-- The number is one of 16 bits. -/
def Fits (value : Int) : Prop := -2 ^ 15 ≤ value ∧ value < 2 ^ 15

instance (value : Int) : Decidable (Fits value) :=
  inferInstanceAs (Decidable (_ ∧ _))

/-- The current that a word of the gauge stands for, rounded as C rounds. -/
def currentOf (word : Int) (resistance : U16) : Int := (word / 4 * 645).tdiv resistance.toNat

/-- The temperature that a word of the gauge stands for. -/
def temperatureOf (word : Int) : Int := word / 32 * 125

section Results

variable {value : Int}

theorem bmod_of_fits (fits : Fits value) : value.bmod (2 ^ 16) = value := by
  obtain ⟨above, below⟩ := fits
  exact Int.bmod_eq_of_le (by omega) (by omega)

/-- A shifted word times a scale stays within 32 bits. -/
theorem scaled_toInt (word : U16) (shift : Nat) {scale : U32} {factor : Int}
    (value : scale.toInt = factor) (positive : 0 ≤ factor) (small : factor ≤ 645) :
    ((word.signExtend 32).sshiftRight shift * scale).toInt =
        word.toInt / (2 ^ shift : Nat) * factor ∧
      (word.toInt / (2 ^ shift : Nat) * factor).natAbs ≤ 2 ^ 15 * 645 := by
  have above := @BitVec.le_toInt_shiftRight 16 word shift
  have below := @BitVec.toInt_shiftRight_lt 16 word shift
  rw [Int.shiftRight_eq_div_pow] at above below
  have shifted : ((word.signExtend 32).sshiftRight shift).toInt =
      word.toInt / (2 ^ shift : Nat) := by
    rw [BitVec.toInt_sshiftRight, BitVec.toInt_signExtend_of_le (by decide),
      Int.shiftRight_eq_div_pow]
  generalize word.toInt / (2 ^ shift : Nat) = quotient at *
  have bound : (quotient * factor).natAbs ≤ 2 ^ 15 * 645 := by
    rw [Int.natAbs_mul]
    exact Nat.mul_le_mul (by omega) (by omega)
  refine ⟨?_, bound⟩
  rw [BitVec.toInt_mul, shifted, value]
  exact Int.bmod_eq_of_le (by omega) (by omega)

theorem toInt_setWidth_16 (word : U32) : (word.setWidth 16).toInt = word.toInt.bmod (2 ^ 16) := by
  rw [← BitVec.signExtend_eq_setWidth_of_le word (by decide),
    BitVec.toInt_signExtend_eq_toInt_bmod_of_le word (by decide)]

theorem ds2746Current_toInt (msb lsb : RegisterRead) (resistance : U16) :
    (ds2746Current msb lsb resistance).toInt =
      (currentOf (gaugeWord msb.byte lsb.byte).toInt resistance).bmod (2 ^ 16) := by
  obtain ⟨product, bound⟩ :=
    scaled_toInt (gaugeWord msb.byte lsb.byte) 2
      (rfl : DS2746_CURRENT_ACCUM_RES.toInt = 645) (by decide) (by decide)
  have divisor : (resistance.setWidth 32).toInt = resistance.toNat :=
    BitVec.toInt_setWidth'_of_lt (by decide)
  have quotient := Nat.le_trans (Int.natAbs_tdiv_le_natAbs _ (resistance.toNat : Int)) bound
  rw [ds2746Current, toInt_setWidth_16, BitVec.toInt_sdiv, product, divisor]
  refine congrArg (Int.bmod · (2 ^ 16)) (Int.bmod_eq_of_le ?_ ?_)
  · omega
  · omega

theorem ds2745Temperature_toInt (msb lsb : RegisterRead) :
    (ds2745Temperature msb lsb).toInt =
      (temperatureOf (gaugeWord msb.byte lsb.byte).toInt).bmod (2 ^ 16) := by
  have product := (scaled_toInt (gaugeWord msb.byte lsb.byte) 5
    (rfl : DS2745_TEMPERATURE_RES.toInt = 125) (by decide) (by decide)).1
  rw [ds2745Temperature, toInt_setWidth_16, product]
  rfl

end Results

/-! ## Exact readings -/

/-- Both readings are those of the signed word, where they fit, and a temperature fits. -/
def DecodedExactly (msb lsb : RegisterRead) (resistance : U16) : Prop :=
  let word := signedWord msb.byte lsb.byte
  (Fits (currentOf word resistance) →
    (ds2746Current msb lsb resistance).toInt = currentOf word resistance) ∧
  (Fits (temperatureOf word) → (ds2745Temperature msb lsb).toInt = temperatureOf word) ∧
  Fits (temperatureOf word)

/-- The sign of the low byte is not seen: it has none, or the high byte has its bits. -/
def SignUnseen (msb lsb : U8) : Prop := lsb.toNat < 128 ∨ msb = 0xFF

instance (msb lsb : U8) : Decidable (SignUnseen msb lsb) :=
  inferInstanceAs (Decidable (_ ∨ _))

theorem toInt_eq_neg_one_iff (msb : U8) : msb.toInt = -1 ↔ msb = 0xFF := by
  rw [← BitVec.toInt_inj]
  rfl

theorem gaugeWord_of_signUnseen {msb lsb : U8} (unseen : SignUnseen msb lsb) :
    (gaugeWord msb lsb).toInt = signedWord msb lsb := by
  rw [gaugeWord_toInt]
  split
  · rfl
  · rename_i negative
    rcases unseen with plain | same
    · exact absurd plain negative
    · rw [signedWord, (toInt_eq_neg_one_iff msb).mpr same]
      omega

/-- A temperature fits in a part of the range about zero. -/
theorem fits_temperatureOf_iff (word : Int) :
    Fits (temperatureOf word) ↔ -8384 ≤ word ∧ word < 8416 := by
  rw [Fits, temperatureOf]
  omega

/-- A temperature is wrong whenever the sign is seen. -/
theorem temperatureOf_gaugeWord_iff {msb lsb : U8}
    (fits : Fits (temperatureOf (signedWord msb lsb))) :
    (temperatureOf (gaugeWord msb lsb).toInt).bmod (2 ^ 16) =
        temperatureOf (signedWord msb lsb) ↔
      SignUnseen msb lsb := by
  rw [gaugeWord_toInt]
  split
  · rename_i plain
    exact iff_of_true (bmod_of_fits fits) (.inl plain)
  · rename_i negative
    have small := lsb.isLt
    have near : Fits (temperatureOf (lsb.toNat - 256)) :=
      (fits_temperatureOf_iff _).mpr (by omega)
    rw [bmod_of_fits near, SignUnseen, or_iff_right negative, ← toInt_eq_neg_one_iff,
      temperatureOf, temperatureOf, signedWord]
    omega

/-- The temperature alone: where it fits, it is exact exactly if the sign is not seen. -/
theorem ds2745Temperature_exact_iff {msb lsb : RegisterRead}
    (fits : Fits (temperatureOf (signedWord msb.byte lsb.byte))) :
    (ds2745Temperature msb lsb).toInt = temperatureOf (signedWord msb.byte lsb.byte) ↔
      SignUnseen msb.byte lsb.byte := by
  rw [ds2745Temperature_toInt]
  exact temperatureOf_gaugeWord_iff fits

/-- With the scale as the resistance, the current is a quarter of the word. -/
theorem currentOf_scale (word : Int) : currentOf word 645 = word / 4 :=
  Int.mul_tdiv_cancel _ (by decide)

/-- The current alone: it is exact for every resistance with which it fits, exactly if the sign
is not seen. -/
theorem ds2746Current_exact_iff (msb lsb : RegisterRead) :
    (∀ resistance, Fits (currentOf (signedWord msb.byte lsb.byte) resistance) →
      (ds2746Current msb lsb resistance).toInt =
        currentOf (signedWord msb.byte lsb.byte) resistance) ↔
      SignUnseen msb.byte lsb.byte := by
  constructor
  · intro exact
    have high := @BitVec.le_toInt 8 msb.byte
    have low := @BitVec.toInt_lt 8 msb.byte
    have small := lsb.byte.isLt
    have quarter := exact 645
    rw [ds2746Current_toInt, currentOf_scale, currentOf_scale, gaugeWord_toInt] at quarter
    rw [SignUnseen, or_iff_not_imp_left, ← toInt_eq_neg_one_iff]
    intro negative
    rw [if_neg negative] at quarter
    have near : Fits ((lsb.byte.toNat - 256 : Int) / 4) := by
      rw [Fits]
      omega
    rw [bmod_of_fits near, Fits, signedWord] at quarter
    omega
  · intro unseen resistance fits
    rw [ds2746Current_toInt, gaugeWord_of_signUnseen unseen]
    exact bmod_of_fits fits

/-- The readings are exact exactly if the sign of the low byte is not seen and the word is one
whose temperature fits. -/
theorem decodedExactly_iff (msb lsb : RegisterRead) (resistance : U16) :
    DecodedExactly msb lsb resistance ↔
      SignUnseen msb.byte lsb.byte ∧ -8384 ≤ signedWord msb.byte lsb.byte ∧
        signedWord msb.byte lsb.byte < 8416 := by
  rw [DecodedExactly, ← fits_temperatureOf_iff]
  constructor
  · rintro ⟨-, exact, fits⟩
    exact ⟨(ds2745Temperature_exact_iff fits).mp (exact fits), fits⟩
  · rintro ⟨unseen, fits⟩
    exact ⟨(ds2746Current_exact_iff msb lsb).mpr unseen resistance,
      fun _ => (ds2745Temperature_exact_iff fits).mpr unseen, fits⟩

/-- The bytes 0x01 and 0x80 give a temperature of -500 and not of 1500; that of 0x21 and 0x00
is 33000. -/
theorem not_decodedExactly :
    ¬ DecodedExactly ⟨true, 0x01⟩ ⟨true, 0x80⟩ 25 ∧
      ¬ DecodedExactly ⟨true, 0x21⟩ ⟨true, 0x00⟩ 25 := by
  constructor
  · rintro ⟨-, exact, -⟩
    exact absurd (exact (by decide)) (by decide)
  · rintro ⟨-, -, fits⟩
    exact absurd fits (by decide)

end HtcLeo.Charging
