import OpcuaGateway.Idf.Basic
import OpcuaGateway.Text.Ascii

namespace OpcuaGateway
namespace Rtc

open Idf

/-! ## The device -/

structure I2cDev where
  port : Int
  addr : UInt8
  sdaIoNum : Int
  sclIoNum : Int
  clkSpeed : UInt32
deriving DecidableEq, Repr

/-- The descriptor as the global `rtc_i2c` starts out.  Nothing in `app_main`
sets it up. -/
def I2cDev.zero : I2cDev :=
  { port := 0, addr := 0, sdaIoNum := 0, sclIoNum := 0, clkSpeed := 0 }

def i2cDevRead (bus : I2cBus) (dev : Option I2cDev) (outData : List UInt8) {n : Nat}
    (inData : Vector UInt8 n) : EspErr × Vector UInt8 n :=
  match dev with
  | none => (espErrInvalidArg, inData)
  | some dev =>
    if n = 0 then (espErrInvalidArg, inData)
    else
      let select : List I2cCommand :=
        if outData = [] then []
        else [.start, .writeByte (dev.addr <<< 1), .write outData]
      bus dev.port (select ++ [.start, .writeByte (dev.addr <<< 1 ||| 1), .read n, .stop]) n

def i2cDevReadReg (bus : I2cBus) (dev : Option I2cDev) (reg : UInt8) {n : Nat}
    (inData : Vector UInt8 n) : EspErr × Vector UInt8 n :=
  i2cDevRead bus dev [reg] inData

/-! ## The clock -/

def ds3231AddrTime : UInt8 := 0x00
def ds3231Flag12Hour : UInt8 := 0x40
def ds3231Mask12Hour : UInt8 := 0x1f
def ds3231PmFlag : UInt8 := 0x20
def ds3231MonthMask : UInt8 := 0x1f

/-- `struct tm`, without the fields nothing writes. -/
structure Tm where
  tmSec : Int
  tmMin : Int
  tmHour : Int
  tmMday : Int
  tmMon : Int
  tmYear : Int
  tmWday : Int
  tmIsdst : Int
deriving DecidableEq, Repr

def Tm.zero : Tm :=
  { tmSec := 0, tmMin := 0, tmHour := 0, tmMday := 0, tmMon := 0, tmYear := 0, tmWday := 0,
    tmIsdst := 0 }

def bcd2dec (val : UInt8) : UInt8 := (val >>> 4) * 10 + (val &&& 0x0f)

def dec2bcd (val : UInt8) : UInt8 := ((val / 10) <<< 4) + (val % 10)

/-- The value of a register in BCD, as an `int`. -/
def bcdInt (val : UInt8) : Int := (bcd2dec val).toNat

/-- The conversion at the end of `ds3231_get_time`. -/
def timeOfRegisters (data : Vector UInt8 7) : Tm where
  tmSec := bcdInt data[0]
  tmMin := bcdInt data[1]
  tmHour :=
    if data[2] &&& ds3231Flag12Hour ≠ 0 then
      let hour := bcdInt (data[2] &&& ds3231Mask12Hour) - 1
      if data[2] &&& ds3231PmFlag ≠ 0 then hour + 12 else hour
    else bcdInt data[2]
  tmWday := bcdInt data[3] - 1
  tmMday := bcdInt data[4]
  tmMon := bcdInt (data[5] &&& ds3231MonthMask) - 1
  tmYear := bcdInt data[6] + 2000
  tmIsdst := 0

/-- What any seven registers keep the fields within. -/
structure Tm.InRange (t : Tm) : Prop where
  sec : 0 ≤ t.tmSec ∧ t.tmSec < 256
  min : 0 ≤ t.tmMin ∧ t.tmMin < 256
  hour : -1 ≤ t.tmHour ∧ t.tmHour < 256
  mday : 0 ≤ t.tmMday ∧ t.tmMday < 256
  mon : -1 ≤ t.tmMon ∧ t.tmMon < 25
  year : 2000 ≤ t.tmYear ∧ t.tmYear < 2256

theorem bcdInt_range (val : UInt8) : 0 ≤ bcdInt val ∧ bcdInt val < 256 := by
  have hlt := (bcd2dec val).toNat_lt
  unfold bcdInt
  omega

theorem bcdInt_mask (val : UInt8) : bcdInt (val &&& 0x1f) < 26 := by
  have hall : ∀ n, n < 256 → bcdInt (n.toUInt8 &&& 0x1f) < 26 := by decide +kernel
  exact Text.forall_byte (P := fun val => bcdInt (val &&& 0x1f) < 26) hall val

theorem timeOfRegisters_inRange (data : Vector UInt8 7) : (timeOfRegisters data).InRange where
  sec := bcdInt_range _
  min := bcdInt_range _
  hour := by
    have hfull := bcdInt_range data[2]
    have hlow := bcdInt_range (data[2] &&& ds3231Mask12Hour)
    have hhigh : bcdInt (data[2] &&& ds3231Mask12Hour) < 26 := bcdInt_mask data[2]
    simp only [timeOfRegisters]
    split
    · split <;> omega
    · omega
  mday := bcdInt_range _
  mon := by
    have hlow := bcdInt_range (data[5] &&& ds3231MonthMask)
    have hhigh : bcdInt (data[5] &&& ds3231MonthMask) < 26 := bcdInt_mask data[5]
    simp only [timeOfRegisters]
    omega
  year := by
    have h := bcdInt_range data[6]
    simp only [timeOfRegisters]
    omega

/-- `ds3231_get_time`: the result, and what is left in `*time`. -/
def ds3231GetTime (bus : I2cBus) (dev : Option I2cDev) (time : Option Tm) :
    EspErr × Option Tm :=
  if dev = none then (espErrInvalidArg, time)
  else if time = none then (espErrInvalidArg, time)
  else
    let (res, data) := i2cDevReadReg bus dev ds3231AddrTime (Vector.replicate 7 0)
    if res ≠ espOk then (res, time)
    else (espOk, some (timeOfRegisters data))

/-- What the bus answers to the read of the seven time registers. -/
def timeRead (bus : I2cBus) (dev : I2cDev) : EspErr × Vector UInt8 7 :=
  i2cDevReadReg bus (some dev) ds3231AddrTime (Vector.replicate 7 0)

/-- A failed read leaves the time as it was. -/
theorem ds3231GetTime_of_error {bus : I2cBus} {dev : I2cDev} {time : Tm}
    (h : (timeRead bus dev).1 ≠ espOk) :
    ds3231GetTime bus (some dev) (some time) = ((timeRead bus dev).1, some time) := by
  show (if (timeRead bus dev).1 ≠ espOk then ((timeRead bus dev).1, some time)
    else (espOk, some (timeOfRegisters (timeRead bus dev).2))) = _
  rw [if_pos h]

/-- A successful read replaces the whole time. -/
theorem ds3231GetTime_of_ok {bus : I2cBus} {dev : I2cDev} {time : Tm}
    (h : (timeRead bus dev).1 = espOk) :
    ds3231GetTime bus (some dev) (some time) =
      (espOk, some (timeOfRegisters (timeRead bus dev).2)) := by
  show (if (timeRead bus dev).1 ≠ espOk then ((timeRead bus dev).1, some time)
    else (espOk, some (timeOfRegisters (timeRead bus dev).2))) = _
  rw [if_neg (not_not.mpr h)]

end Rtc
end OpcuaGateway
