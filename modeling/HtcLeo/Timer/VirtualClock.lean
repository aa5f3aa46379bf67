import HtcLeo.Timer.Gpt

/-!
# The virtual clock

The clock tells the time since the start of the performance counter as a day, hour, minute
and second.  It divides the counter by the rate of another timer, and numbers the days
from 0.
-/

namespace HtcLeo.Timer

/-! ## The clock -/

/-- The members of `EFI_TIME`, without padding. -/
structure EfiTime where
  year : U16
  month : U8
  day : U8
  hour : U8
  minute : U8
  second : U8
  nanosecond : U32
  timeZone : U16
  daylight : U8
  deriving DecidableEq, Repr

/-- `EFI_TIME_CAPABILITIES`. -/
structure EfiTimeCapabilities where
  resolution : U32
  accuracy : U32
  setsToZero : Bool
  deriving DecidableEq, Repr

/-- The statuses of the clock. -/
inductive ClockStatus where
  | success
  | invalidParameter
  | deviceError
  deriving DecidableEq, Repr

/-- The frequency of the timer in the platform's description. -/
def PcdMsmDgtTimerFreq : U32 := 4800000

def SECONDS_PER_DAY : U64 := 24 * 60 * 60
def SECONDS_PER_HOUR : U64 := 60 * 60
def SECONDS_PER_MINUTE : U64 := 60

/-- `BaseTime` after the initialization. -/
def libRtcInitialize (baseTime : EfiTime) : EfiTime :=
  { baseTime with year := 2019, month := 1 }

/-- What is stored in `*Time`. -/
def storedTime (baseTime : EfiTime) (elapsedSeconds : U64) : EfiTime :=
  let ofDay := elapsedSeconds % SECONDS_PER_DAY
  let ofHour := ofDay % SECONDS_PER_HOUR
  let ofMinute := ofHour % SECONDS_PER_MINUTE
  { year := baseTime.year
    month := baseTime.month
    day := (elapsedSeconds / SECONDS_PER_DAY).setWidth 8
    hour := (ofDay / SECONDS_PER_HOUR).setWidth 8
    minute := (ofHour / SECONDS_PER_MINUTE).setWidth 8
    second := ofMinute.setWidth 8
    nanosecond := 0
    timeZone := 0
    daylight := 0 }

/-- `time` and `capabilities` say which of the two pointers are not null. -/
def libGetTime (baseTime : EfiTime) (counter : U64) (time capabilities : Bool) :
    ClockStatus × Option EfiTime × Option EfiTimeCapabilities :=
  let freq := PcdMsmDgtTimerFreq
  if !time then (.invalidParameter, none, none)
  else if freq = 0 then (.deviceError, none, none)
  else
    (.success, some (storedTime baseTime (counter / freq.setWidth 64)),
      if capabilities then some ⟨freq, 0, false⟩ else none)

/-! ## What it tells -/

/-- The seconds since the start of the first day. -/
def EfiTime.seconds (time : EfiTime) : Int :=
  ((time.day.toNat : Int) - 1) * 86400 + time.hour.toNat * 3600 + time.minute.toNat * 60 +
    time.second.toNat

/-- The fields are in range. -/
structure EfiTime.Valid (time : EfiTime) : Prop where
  day_pos : 1 ≤ time.day.toNat
  day_le : time.day.toNat ≤ 31
  hour : time.hour.toNat < 24
  minute : time.minute.toNat < 60
  second : time.second.toNat < 60

/-- The clock tells a valid time, which is that of the counter at its own rate. -/
def TellsTime (baseTime : EfiTime) (counter : U64) : Prop :=
  ∃ time, (libGetTime (libRtcInitialize baseTime) counter true false).2.1 = some time ∧
    time.Valid ∧ time.seconds = (counter.toNat / frequency : Nat)

section Stored

variable (baseTime : EfiTime) (elapsed : U64)

theorem storedTime_day :
    (storedTime baseTime elapsed).day.toNat = elapsed.toNat / 86400 % 256 := by
  rw [storedTime, BitVec.toNat_setWidth, BitVec.toNat_udiv]
  rfl

theorem storedTime_hour :
    (storedTime baseTime elapsed).hour.toNat = elapsed.toNat % 86400 / 3600 := by
  have day : SECONDS_PER_DAY.toNat = 86400 := rfl
  have hour : SECONDS_PER_HOUR.toNat = 3600 := rfl
  rw [storedTime, BitVec.toNat_setWidth, BitVec.toNat_udiv, BitVec.toNat_umod, day, hour]
  omega

theorem storedTime_minute :
    (storedTime baseTime elapsed).minute.toNat = elapsed.toNat % 86400 % 3600 / 60 := by
  have day : SECONDS_PER_DAY.toNat = 86400 := rfl
  have hour : SECONDS_PER_HOUR.toNat = 3600 := rfl
  have minute : SECONDS_PER_MINUTE.toNat = 60 := rfl
  rw [storedTime, BitVec.toNat_setWidth, BitVec.toNat_udiv, BitVec.toNat_umod,
    BitVec.toNat_umod, day, hour, minute]
  omega

theorem storedTime_second :
    (storedTime baseTime elapsed).second.toNat = elapsed.toNat % 86400 % 3600 % 60 := by
  have day : SECONDS_PER_DAY.toNat = 86400 := rfl
  have hour : SECONDS_PER_HOUR.toNat = 3600 := rfl
  have minute : SECONDS_PER_MINUTE.toNat = 60 := rfl
  rw [storedTime, BitVec.toNat_setWidth, BitVec.toNat_umod, BitVec.toNat_umod,
    BitVec.toNat_umod, day, hour, minute]
  omega

/-- The fields are the elapsed seconds, a day late and without the days that the field for
them cannot hold. -/
theorem storedTime_seconds : (storedTime baseTime elapsed).seconds =
    elapsed.toNat - 86400 - elapsed.toNat / 86400 / 256 * 256 * 86400 := by
  rw [EfiTime.seconds, storedTime_day, storedTime_hour, storedTime_minute, storedTime_second]
  omega

end Stored

/-- The clock tells the time for no value of the counter. -/
theorem not_tellsTime (baseTime : EfiTime) (counter : U64) : ¬ TellsTime baseTime counter := by
  rintro ⟨time, stored, -, right⟩
  have rate : (PcdMsmDgtTimerFreq.setWidth 64).toNat = 4800000 := rfl
  rw [← Option.some.inj stored, storedTime_seconds, BitVec.toNat_udiv, rate,
    frequency_eq] at right
  have slower : counter.toNat / 4800000 ≤ counter.toNat / 32765 :=
    Nat.div_le_div_left (by decide) (by decide)
  omega

/-- It starts with day 0. -/
theorem first_day_invalid :
    ¬ ∀ (baseTime : EfiTime) (counter : U64), TellsTime baseTime counter := by
  intro claimed
  obtain ⟨time, stored, valid, -⟩ := claimed ⟨0, 0, 0, 0, 0, 0, 0, 0, 0⟩ 0
  have day := valid.day_pos
  rw [← Option.some.inj stored] at day
  revert day
  decide

end HtcLeo.Timer
