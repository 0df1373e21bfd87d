/-
`ds3231_set_time`, and what a following `ds3231_get_time` finds.

Each field is narrowed to a byte and packed as two decimal digits, whatever it is.
What comes back is the field itself as long as the digits fit, the month mask leaves
them alone and the hour does not look like one of the 12-hour mode.
-/
import OpcuaGateway.Rtc.Ds3231

namespace OpcuaGateway
namespace Rtc

open Idf Text

/-! ## A bus that remembers -/

/-- `i2c_master_cmd_begin` on a bus with devices in the state `σ`. -/
structure MemoryBus (σ : Type) where
  transfer : σ → Int → List I2cCommand → (n : Nat) → (EspErr × Vector UInt8 n) × σ

variable {σ : Type}

/-- The bus as a read finds it. -/
def MemoryBus.reading (bus : MemoryBus σ) (s : σ) : I2cBus :=
  fun port commands n => (bus.transfer s port commands n).1

def i2cDevWrite (bus : MemoryBus σ) (s : σ) (dev : Option I2cDev) (outReg outData : List UInt8) :
    EspErr × σ :=
  match dev with
  | none => (espErrInvalidArg, s)
  | some dev =>
    if outData = [] then (espErrInvalidArg, s)
    else
      let select : List I2cCommand := if outReg = [] then [] else [.write outReg]
      let (res, s') := bus.transfer s dev.port
        ([.start, .writeByte (dev.addr <<< 1)] ++ select ++ [.write outData, .stop]) 0
      (res.1, s')

def i2cDevWriteReg (bus : MemoryBus σ) (s : σ) (dev : Option I2cDev) (reg : UInt8)
    (outData : List UInt8) : EspErr × σ :=
  i2cDevWrite bus s dev [reg] outData

/-! ## Setting the clock -/

/-- An `int` converted to `uint8_t`. -/
def uint8OfInt (z : Int) : UInt8 := (z % 256).toNat.toUInt8

/-- `data` as `ds3231_set_time` fills it in. -/
def registersOfTime (time : Tm) : Vector UInt8 7 :=
  #v[dec2bcd (uint8OfInt time.tmSec), dec2bcd (uint8OfInt time.tmMin),
    dec2bcd (uint8OfInt time.tmHour), dec2bcd (uint8OfInt (time.tmWday + 1)),
    dec2bcd (uint8OfInt time.tmMday), dec2bcd (uint8OfInt (time.tmMon + 1)),
    dec2bcd (uint8OfInt (time.tmYear - 2000))]

def ds3231SetTime (bus : MemoryBus σ) (s : σ) (dev : Option I2cDev) (time : Option Tm) :
    EspErr × σ :=
  if dev = none then (espErrInvalidArg, s)
  else
    match time with
    | none => (espErrInvalidArg, s)
    | some time => i2cDevWriteReg bus s dev ds3231AddrTime (registersOfTime time).toList

/-- The bus takes seven bytes for the time registers of the device and gives them back. -/
def StoresTime (bus : MemoryBus σ) (dev : I2cDev) : Prop :=
  ∀ s (data : Vector UInt8 7),
    (i2cDevWriteReg bus s (some dev) ds3231AddrTime data.toList).1 = espOk ∧
      timeRead (bus.reading (i2cDevWriteReg bus s (some dev) ds3231AddrTime data.toList).2) dev =
        (espOk, data)

/-! ## One field -/

/-- Two decimal digits in a byte, read back. -/
theorem bcdInt_dec2bcd {n : Nat} (h : n < 256) :
    bcdInt (dec2bcd n.toUInt8) = if n < 160 then (n : Int) else n - 160 := by
  have hall : ∀ k : Nat, k < 256 →
      bcdInt (dec2bcd k.toUInt8) = if k < 160 then (k : Int) else k - 160 := by decide +kernel
  exact hall n h

theorem uint8OfInt_eq (z : Int) :
    ∃ n : Nat, n < 256 ∧ (n : Int) = z % 256 ∧ uint8OfInt z = n.toUInt8 := by
  have hlow := Int.emod_nonneg z (b := 256) (by omega)
  have hhigh := Int.emod_lt_of_pos z (b := 256) (by omega)
  exact ⟨(z % 256).toNat, by omega, by omega, rfl⟩

theorem field_kept_iff (z : Int) : bcdInt (dec2bcd (uint8OfInt z)) = z ↔ 0 ≤ z ∧ z < 160 := by
  obtain ⟨n, hn, hmod, heq⟩ := uint8OfInt_eq z
  rw [heq, bcdInt_dec2bcd hn]
  split_ifs <;> omega

/-- The field of the month has one bit for its tens. -/
theorem monthField_kept_iff (z : Int) :
    bcdInt (dec2bcd (uint8OfInt z) &&& ds3231MonthMask) = z ↔ 0 ≤ z ∧ z < 20 := by
  have hall : ∀ k : Nat, k < 256 →
      bcdInt (dec2bcd k.toUInt8 &&& ds3231MonthMask) =
        if k < 160 then ((k % 20 : Nat) : Int) else ((k - 160) % 20 : Nat) := by decide +kernel
  obtain ⟨n, hn, hmod, heq⟩ := uint8OfInt_eq z
  rw [heq, hall n hn]
  split_ifs <;> omega

/-- What `ds3231_get_time` makes of the register of the hour. -/
def hourOfRegister (register : UInt8) : Int :=
  if register &&& ds3231Flag12Hour ≠ 0 then
    let hour := bcdInt (register &&& ds3231Mask12Hour) - 1
    if register &&& ds3231PmFlag ≠ 0 then hour + 12 else hour
  else bcdInt register

/-- The tens of the hours from 40 to 79 and from 120 to 159 set the flag of the 12-hour
mode. -/
theorem hourField_kept_iff (z : Int) :
    hourOfRegister (dec2bcd (uint8OfInt z)) = z ↔ 0 ≤ z ∧ z < 40 ∨ 80 ≤ z ∧ z < 120 := by
  have hall : ∀ k : Nat, k < 256 →
      hourOfRegister (dec2bcd k.toUInt8) =
        if k < 40 ∨ 80 ≤ k ∧ k < 120 then (k : Int)
        else if 160 ≤ k ∧ k < 200 ∨ 240 ≤ k then k - 160
        else ((k % 20 : Nat) : Int) - 1 + if k / 20 % 2 = 1 then 12 else 0 := by decide +kernel
  obtain ⟨n, hn, hmod, heq⟩ := uint8OfInt_eq z
  rw [heq, hall n hn]
  split_ifs <;> omega

/-! ## Set and get -/

/-- The seven fields the registers stand for are the same. -/
structure Tm.SameFields (t u : Tm) : Prop where
  sec : t.tmSec = u.tmSec
  min : t.tmMin = u.tmMin
  hour : t.tmHour = u.tmHour
  wday : t.tmWday = u.tmWday
  mday : t.tmMday = u.tmMday
  mon : t.tmMon = u.tmMon
  year : t.tmYear = u.tmYear

/-- The fields the registers can hold. -/
structure Tm.Keepable (t : Tm) : Prop where
  sec : 0 ≤ t.tmSec ∧ t.tmSec < 160
  min : 0 ≤ t.tmMin ∧ t.tmMin < 160
  hour : 0 ≤ t.tmHour ∧ t.tmHour < 40 ∨ 80 ≤ t.tmHour ∧ t.tmHour < 120
  wday : -1 ≤ t.tmWday ∧ t.tmWday < 159
  mday : 0 ≤ t.tmMday ∧ t.tmMday < 160
  mon : -1 ≤ t.tmMon ∧ t.tmMon < 19
  year : 2000 ≤ t.tmYear ∧ t.tmYear < 2160

/-- The registers made of a time give the time back exactly if they can hold it. -/
theorem sameFields_iff (t : Tm) :
    (timeOfRegisters (registersOfTime t)).SameFields t ↔ t.Keepable := by
  have hsec := field_kept_iff t.tmSec
  have hmin := field_kept_iff t.tmMin
  have hhour := hourField_kept_iff t.tmHour
  have hwday : bcdInt (dec2bcd (uint8OfInt (t.tmWday + 1))) - 1 = t.tmWday ↔
      -1 ≤ t.tmWday ∧ t.tmWday < 159 := by
    have hfield := field_kept_iff (t.tmWday + 1)
    omega
  have hmday := field_kept_iff t.tmMday
  have hmon : bcdInt (dec2bcd (uint8OfInt (t.tmMon + 1)) &&& ds3231MonthMask) - 1 = t.tmMon ↔
      -1 ≤ t.tmMon ∧ t.tmMon < 19 := by
    have hfield := monthField_kept_iff (t.tmMon + 1)
    omega
  have hyear : bcdInt (dec2bcd (uint8OfInt (t.tmYear - 2000))) + 2000 = t.tmYear ↔
      2000 ≤ t.tmYear ∧ t.tmYear < 2160 := by
    have hfield := field_kept_iff (t.tmYear - 2000)
    omega
  constructor
  · intro h
    exact ⟨hsec.mp h.sec, hmin.mp h.min, hhour.mp h.hour, hwday.mp h.wday, hmday.mp h.mday,
      hmon.mp h.mon, hyear.mp h.year⟩
  · intro h
    exact ⟨hsec.mpr h.sec, hmin.mpr h.min, hhour.mpr h.hour, hwday.mpr h.wday, hmday.mpr h.mday,
      hmon.mpr h.mon, hyear.mpr h.year⟩

/-- Setting the clock fails and writes nothing, or what is read back has the same
fields. -/
def RoundTrips (bus : MemoryBus σ) (s : σ) (dev : I2cDev) (time before : Tm) : Prop :=
  ((ds3231SetTime bus s (some dev) (some time)).1 ≠ espOk ∧
      (ds3231SetTime bus s (some dev) (some time)).2 = s) ∨
    ∃ t, ds3231GetTime (bus.reading (ds3231SetTime bus s (some dev) (some time)).2) (some dev)
        (some before) = (espOk, some t) ∧ t.SameFields time

theorem setTime_run {bus : MemoryBus σ} {dev : I2cDev} (hbus : StoresTime bus dev) (s : σ)
    (time before : Tm) :
    (ds3231SetTime bus s (some dev) (some time)).1 = espOk ∧
      ds3231GetTime (bus.reading (ds3231SetTime bus s (some dev) (some time)).2) (some dev)
        (some before) = (espOk, some (timeOfRegisters (registersOfTime time))) := by
  have hset : ds3231SetTime bus s (some dev) (some time) =
      i2cDevWriteReg bus s (some dev) ds3231AddrTime (registersOfTime time).toList := rfl
  obtain ⟨hok, hread⟩ := hbus s (registersOfTime time)
  rw [hset]
  refine ⟨hok, ?_⟩
  rw [ds3231GetTime_of_ok (congrArg Prod.fst hread), hread]

/-- Every time is stored and something is read back, which has the same fields exactly
if the registers can hold them. -/
theorem setTime_getTime {bus : MemoryBus σ} {dev : I2cDev} (hbus : StoresTime bus dev) (s : σ)
    (time before : Tm) :
    (ds3231SetTime bus s (some dev) (some time)).1 = espOk ∧
      (∃ t, ds3231GetTime (bus.reading (ds3231SetTime bus s (some dev) (some time)).2) (some dev)
        (some before) = (espOk, some t)) ∧
      (RoundTrips bus s dev time before ↔ time.Keepable) := by
  obtain ⟨hset, hget⟩ := setTime_run hbus s time before
  refine ⟨hset, ⟨_, hget⟩, ?_⟩
  rw [← sameFields_iff]
  constructor
  · rintro (⟨hfailed, -⟩ | ⟨t, hread, hsame⟩)
    · exact absurd hset hfailed
    · rw [hget] at hread
      rwa [Option.some.inj (congrArg Prod.snd hread)]
  · exact fun hsame => Or.inr ⟨_, hget, hsame⟩

/-! ## The chip -/

def ds3231Addr : UInt8 := 0x68

/-- A DS3231 alone on the bus: it takes and gives the seven time registers in one
transfer from the first of them on, and acknowledges nothing else. -/
def ds3231Chip : MemoryBus (Vector UInt8 7) where
  transfer regs _ commands n :=
    match commands with
    | [.start, .writeByte address, .write [reg], .write data, .stop] =>
      if address = ds3231Addr <<< 1 ∧ reg = ds3231AddrTime ∧ data.length = 7 then
        ((espOk, Vector.replicate n 0), Vector.ofFn fun k => data.getD k 0)
      else ((espFail, Vector.replicate n 0), regs)
    | [.start, .writeByte address, .write [reg], .start, .writeByte address', .read _, .stop] =>
      if address = ds3231Addr <<< 1 ∧ reg = ds3231AddrTime ∧ address' = address ||| 1 then
        ((espOk, Vector.ofFn fun k => regs.toArray.getD k 0), regs)
      else ((espFail, Vector.replicate n 0), regs)
    | _ => ((espFail, Vector.replicate n 0), regs)

/-- The descriptor that `ds3231_init_desc` makes for the first port. -/
def ds3231Desc : I2cDev :=
  { port := 0, addr := ds3231Addr, sdaIoNum := 21, sclIoNum := 22, clkSpeed := 100000 }

theorem ds3231Chip_reading (regs : Vector UInt8 7) :
    timeRead (ds3231Chip.reading regs) ds3231Desc = (espOk, regs) := by
  have hread : timeRead (ds3231Chip.reading regs) ds3231Desc =
      (espOk, Vector.ofFn fun k : Fin 7 => regs.toArray.getD k 0) := rfl
  rw [hread]
  congr 1
  ext k
  simp

theorem ds3231Chip_storesTime : StoresTime ds3231Chip ds3231Desc := by
  intro regs data
  have hlen : data.toList.length = 7 := data.length_toList
  have hne : data.toList ≠ [] := by
    intro hnil
    rw [hnil] at hlen
    cases hlen
  have hwrite : i2cDevWriteReg ds3231Chip regs (some ds3231Desc) ds3231AddrTime data.toList =
      (espOk, data) := by
    simp [i2cDevWriteReg, i2cDevWrite, ds3231Chip, ds3231Desc, hne]
  rw [hwrite]
  exact ⟨rfl, ds3231Chip_reading data⟩

/-- The registers of a chip that has just got power: the first of January 2000. -/
def powerOnRegisters : Vector UInt8 7 := #v[0, 0, 0, 1, 1, 1, 0]

/-- Twelve seconds after half past two, on Tuesday, the fifth of March 2024. -/
def sampleTime : Tm :=
  { tmSec := 12, tmMin := 30, tmHour := 14, tmMday := 5, tmMon := 2, tmYear := 2024, tmWday := 2,
    tmIsdst := 0 }

theorem setTime_getTime_chip :
    (ds3231SetTime ds3231Chip powerOnRegisters (some ds3231Desc) (some sampleTime)).1 = espOk ∧
      RoundTrips ds3231Chip powerOnRegisters ds3231Desc sampleTime Tm.zero := by
  obtain ⟨hset, -, htrips⟩ :=
    setTime_getTime ds3231Chip_storesTime powerOnRegisters sampleTime Tm.zero
  refine ⟨hset, htrips.mpr ?_⟩
  constructor <;> decide

/-- Half past two and 160 seconds. -/
def overfullTime : Tm :=
  { tmSec := 160, tmMin := 30, tmHour := 2, tmMday := 5, tmMon := 2, tmYear := 2024, tmWday := 2,
    tmIsdst := 0 }

/-- It is stored without an error and comes back without its seconds. -/
theorem overfullTime_lost :
    ¬ RoundTrips ds3231Chip (Vector.replicate 7 0) ds3231Desc overfullTime Tm.zero := by
  obtain ⟨hset, hget⟩ := setTime_run ds3231Chip_storesTime (Vector.replicate 7 0) overfullTime
    Tm.zero
  rintro (⟨hfailed, -⟩ | ⟨t, hread, hsame⟩)
  · exact hfailed hset
  · rw [hget] at hread
    have hsec := hsame.sec
    rw [← Option.some.inj (congrArg Prod.snd hread)] at hsec
    exact absurd hsec (by decide)

end Rtc
end OpcuaGateway
