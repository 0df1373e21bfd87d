/-
Calendar instants, the registers a DS3231 in 24-hour mode keeps for them, and
what `ds3231_get_time` makes of those.
-/
import OpcuaGateway.Rtc.Ds3231
import OpcuaGateway.Text.Decimal

namespace OpcuaGateway
namespace Rtc

open Text

def isLeapYear (year : Nat) : Bool :=
  year % 4 == 0 && (year % 100 != 0 || year % 400 == 0)

def daysInMonth (year month : Nat) : Nat :=
  if month = 2 then (if isLeapYear year then 29 else 28)
  else if month = 4 ∨ month = 6 ∨ month = 9 ∨ month = 11 then 30
  else 31

theorem daysInMonth_le (year month : Nat) : daysInMonth year month ≤ 31 := by
  unfold daysInMonth
  split
  · split <;> omega
  · split <;> omega

/-- A second of the years the clock counts. -/
structure Instant where
  year : Nat
  month : Nat
  day : Nat
  hour : Nat
  minute : Nat
  second : Nat
  year_le : 2000 ≤ year
  year_lt : year < 2100
  month_pos : 0 < month
  month_le : month ≤ 12
  day_pos : 0 < day
  day_le : day ≤ daysInMonth year month
  hour_lt : hour < 24
  minute_lt : minute < 60
  second_lt : second < 60
deriving DecidableEq, Repr

/-- `YYYY-MM-DD hh:mm:ss`. -/
def Instant.isoText (instant : Instant) : Bytes :=
  formatInt 4 instant.year ++ ascii "-" ++ formatInt 2 instant.month ++ ascii "-" ++
    formatInt 2 instant.day ++ ascii " " ++ formatInt 2 instant.hour ++ ascii ":" ++
    formatInt 2 instant.minute ++ ascii ":" ++ formatInt 2 instant.second

/-- The fields from the widest down, in which instants compare. -/
def Instant.fields (instant : Instant) : List Nat :=
  [instant.year, instant.month, instant.day, instant.hour, instant.minute, instant.second]

theorem Instant.fields_inj {a b : Instant} (h : a.fields = b.fields) : a = b := by
  simp only [Instant.fields, List.cons.injEq, and_true] at h
  obtain ⟨hyear, hmonth, hday, hhour, hminute, hsecond⟩ := h
  obtain ⟨⟩ := a
  obtain ⟨⟩ := b
  simp_all

/-! ## The registers -/

/-- Two decimal digits in a register. -/
def bcd (n : Nat) : UInt8 := dec2bcd n.toUInt8

/-- The time registers in 24-hour mode with the century bit clear.  The day of
the week is the owner's to number. -/
def Instant.registers24 (instant : Instant) (weekday : Fin 7) : Vector UInt8 7 :=
  #v[bcd instant.second, bcd instant.minute, bcd instant.hour, bcd (weekday + 1),
    bcd instant.day, bcd instant.month, bcd (instant.year - 2000)]

theorem bcdInt_bcd {n : Nat} (h : n < 100) : bcdInt (bcd n) = n := by
  have hall : ∀ k, k < 100 → bcdInt (bcd k) = k := by decide +kernel
  exact hall n h

theorem bcd_hourFlag {n : Nat} (h : n < 24) : ¬ bcd n &&& ds3231Flag12Hour ≠ 0 := by
  have hall : ∀ k, k < 24 → ¬ bcd k &&& ds3231Flag12Hour ≠ 0 := by decide
  exact hall n h

theorem bcd_monthMask {n : Nat} (h : n < 20) : bcd n &&& ds3231MonthMask = bcd n := by
  have hall : ∀ k, k < 20 → bcd k &&& ds3231MonthMask = bcd k := by decide
  exact hall n h

/-- The conversion gives the full year and counts the months from zero. -/
theorem timeOfRegisters_registers24 (instant : Instant) (weekday : Fin 7) :
    timeOfRegisters (instant.registers24 weekday) =
      { tmSec := instant.second, tmMin := instant.minute, tmHour := instant.hour
        tmMday := instant.day, tmMon := (instant.month : Int) - 1, tmYear := instant.year
        tmWday := (weekday : Nat), tmIsdst := 0 } := by
  have hsec : bcdInt (bcd instant.second) = instant.second :=
    bcdInt_bcd (Nat.lt_trans instant.second_lt (by omega))
  have hmin : bcdInt (bcd instant.minute) = instant.minute :=
    bcdInt_bcd (Nat.lt_trans instant.minute_lt (by omega))
  have hhour : bcdInt (bcd instant.hour) = instant.hour :=
    bcdInt_bcd (Nat.lt_trans instant.hour_lt (by omega))
  have hwday : bcdInt (bcd (weekday + 1)) = (weekday : Nat) + 1 := by
    rw [bcdInt_bcd (by omega)]
    omega
  have hday : bcdInt (bcd instant.day) = instant.day := by
    have hle := daysInMonth_le instant.year instant.month
    have hday := instant.day_le
    exact bcdInt_bcd (by omega)
  have hmonth : bcdInt (bcd instant.month) = instant.month :=
    bcdInt_bcd (Nat.lt_of_le_of_lt instant.month_le (by omega))
  have hyear : bcdInt (bcd (instant.year - 2000)) + 2000 = instant.year := by
    have hlow := instant.year_le
    have hhigh := instant.year_lt
    rw [bcdInt_bcd (by omega)]
    omega
  have hflag := bcd_hourFlag instant.hour_lt
  have hmask : bcd instant.month &&& ds3231MonthMask = bcd instant.month :=
    bcd_monthMask (Nat.lt_of_le_of_lt instant.month_le (by omega))
  unfold timeOfRegisters
  simp only [Instant.registers24]
  show Tm.mk (bcdInt (bcd instant.second)) (bcdInt (bcd instant.minute))
    (if bcd instant.hour &&& ds3231Flag12Hour ≠ 0 then _ else bcdInt (bcd instant.hour))
    (bcdInt (bcd instant.day)) (bcdInt (bcd instant.month &&& ds3231MonthMask) - 1)
    (bcdInt (bcd (instant.year - 2000)) + 2000) (bcdInt (bcd (weekday + 1)) - 1) 0 = _
  rw [if_neg hflag, hmask, hsec, hmin, hhour, hwday, hday, hmonth, hyear, Int.add_sub_cancel]

end Rtc
end OpcuaGateway
