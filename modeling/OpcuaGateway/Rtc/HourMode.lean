/-
The two ways the chip can keep the hour.

In the 12-hour mode the register holds 12, 1, 2 up to 11, and a flag for the
afternoon.  `ds3231_get_time` takes one off that number instead of taking 12 for 0, so
that no hour comes out as in the 24-hour mode.
-/
import OpcuaGateway.Rtc.Calendar
import OpcuaGateway.Rtc.SetTime

namespace OpcuaGateway
namespace Rtc

open Idf Text

def dialHour (hour : Nat) : Nat := if hour % 12 = 0 then 12 else hour % 12

/-- The register of the hour in 12-hour mode: bit 6, bit 5 in the afternoon, and the
hour on the dial. -/
def hourRegister12 (hour : Nat) : UInt8 :=
  0x40 ||| (if 12 ≤ hour then 0x20 else 0) ||| bcd (dialHour hour)

/-- The time registers in 12-hour mode. -/
def Instant.registers12 (instant : Instant) (weekday : Fin 7) : Vector UInt8 7 :=
  #v[bcd instant.second, bcd instant.minute, hourRegister12 instant.hour, bcd (weekday + 1),
    bcd instant.day, bcd instant.month, bcd (instant.year - 2000)]

/-- The fields are the instant's own; `struct tm` counts the months from zero. -/
structure Tm.Shows (t : Tm) (instant : Instant) (weekday : Fin 7) : Prop where
  sec : t.tmSec = instant.second
  min : t.tmMin = instant.minute
  hour : t.tmHour = instant.hour
  wday : t.tmWday = (weekday : Nat)
  mday : t.tmMday = instant.day
  mon : t.tmMon + 1 = instant.month
  year : t.tmYear = instant.year

theorem registers24_shows (instant : Instant) (weekday : Fin 7) :
    (timeOfRegisters (instant.registers24 weekday)).Shows instant weekday := by
  rw [timeOfRegisters_registers24]
  exact ⟨rfl, rfl, rfl, rfl, rfl, Int.sub_add_cancel _ 1, rfl⟩

/-- One off the hour on the dial, and twelve on in the afternoon. -/
theorem hourOfRegister_register12 {hour : Nat} (h : hour < 24) :
    hourOfRegister (hourRegister12 hour) =
      (dialHour hour : Int) - 1 + if 12 ≤ hour then 12 else 0 := by
  have hall : ∀ k : Nat, k < 24 → hourOfRegister (hourRegister12 k) =
      (dialHour k : Int) - 1 + if 12 ≤ k then 12 else 0 := by decide +kernel
  exact hall hour h

theorem hourOfRegister_register12_ne {hour : Nat} (h : hour < 24) :
    hourOfRegister (hourRegister12 hour) ≠ hour := by
  rw [hourOfRegister_register12 h, dialHour]
  split_ifs <;> omega

theorem registers12_hour (instant : Instant) (weekday : Fin 7) :
    (timeOfRegisters (instant.registers12 weekday)).tmHour =
      hourOfRegister (hourRegister12 instant.hour) := rfl

/-- `ds3231_get_time` succeeds on both images and gives the instant's own fields on
both. -/
def HourModeFree (bus24 bus12 : I2cBus) (dev : I2cDev) (before : Tm) (instant : Instant)
    (weekday : Fin 7) : Prop :=
  ∃ t, ds3231GetTime bus24 (some dev) (some before) = (espOk, some t) ∧
    ds3231GetTime bus12 (some dev) (some before) = (espOk, some t) ∧ t.Shows instant weekday

/-- Both reads succeed, and no instant comes out of both modes as itself. -/
theorem hourMode_never_free {bus24 bus12 : I2cBus} {dev : I2cDev} {instant : Instant}
    {weekday : Fin 7} (h24 : timeRead bus24 dev = (espOk, instant.registers24 weekday))
    (h12 : timeRead bus12 dev = (espOk, instant.registers12 weekday)) (before : Tm) :
    (ds3231GetTime bus24 (some dev) (some before)).1 = espOk ∧
      (ds3231GetTime bus12 (some dev) (some before)).1 = espOk ∧
      ¬ HourModeFree bus24 bus12 dev before instant weekday := by
  have hget24 : ds3231GetTime bus24 (some dev) (some before) = _ :=
    ds3231GetTime_of_ok (congrArg Prod.fst h24)
  have hget12 : ds3231GetTime bus12 (some dev) (some before) = _ :=
    ds3231GetTime_of_ok (congrArg Prod.fst h12)
  refine ⟨congrArg Prod.fst hget24, congrArg Prod.fst hget12, ?_⟩
  rintro ⟨t, -, hread, hshows⟩
  rw [hget12, h12] at hread
  have hhour := hshows.hour
  rw [← Option.some.inj (congrArg Prod.snd hread), registers12_hour] at hhour
  exact hourOfRegister_register12_ne instant.hour_lt hhour

/-- One second to one in the morning, on the last day of 2023. -/
def beforeOne : Instant where
  year := 2023
  month := 12
  day := 31
  hour := 0
  minute := 59
  second := 59
  year_le := by decide
  year_lt := by decide
  month_pos := by decide
  month_le := by decide
  day_pos := by decide
  day_le := by decide
  hour_lt := by decide
  minute_lt := by decide
  second_lt := by decide

theorem hourMode_never_free_beforeOne :
    (ds3231GetTime (ds3231Chip.reading (beforeOne.registers24 0)) (some ds3231Desc)
        (some Tm.zero)).1 = espOk ∧
      (ds3231GetTime (ds3231Chip.reading (beforeOne.registers12 0)) (some ds3231Desc)
        (some Tm.zero)).1 = espOk ∧
      ¬ HourModeFree (ds3231Chip.reading (beforeOne.registers24 0))
        (ds3231Chip.reading (beforeOne.registers12 0)) ds3231Desc Tm.zero beforeOne 0 :=
  hourMode_never_free (ds3231Chip_reading _) (ds3231Chip_reading _) Tm.zero

/-- The hour after midnight comes out as eleven. -/
theorem beforeOne_at_eleven :
    beforeOne.registers12 0 = #v[0x59, 0x59, 0x52, 0x01, 0x31, 0x12, 0x23] ∧
      (timeOfRegisters (beforeOne.registers24 0)).tmHour = 0 ∧
      (timeOfRegisters (beforeOne.registers12 0)).tmHour = 11 ∧
      ¬ HourModeFree (ds3231Chip.reading (beforeOne.registers24 0))
        (ds3231Chip.reading (beforeOne.registers12 0)) ds3231Desc Tm.zero beforeOne 0 := by
  refine ⟨by decide, by decide, by decide, ?_⟩
  rintro ⟨t, -, hread, hshows⟩
  rw [ds3231GetTime_of_ok (congrArg Prod.fst (ds3231Chip_reading _)), ds3231Chip_reading] at hread
  have hhour := hshows.hour
  rw [← Option.some.inj (congrArg Prod.snd hread)] at hhour
  exact absurd hhour (by decide)

end Rtc
end OpcuaGateway
