/-
The timestamp a message carries, against the instant the clock was showing.

`ds3231_get_time` already gives the full year and counts the months from zero.
The format string writes a century in front of that year and the month as it
stands, so no instant is published as itself.  The texts of different instants
still differ, and compare as the instants do.
-/
import OpcuaGateway.Poller.Pass
import OpcuaGateway.Rtc.Calendar
import OpcuaGateway.Text.Order

namespace OpcuaGateway
namespace Poller

open Effect Effect.Action Opcua Rtc Text Numeric Idf

/-! ## The member of a payload -/

/-- The payload up to the text of its timestamp. -/
def payloadHead (name value : Bytes) : Bytes :=
  ascii "\x7b\"name\":\"" ++ name ++ ascii "\",\"value\":" ++ value ++ ascii ",\"timestamp\":\""

/-- What stands between the quotes of the timestamp. -/
def timestampMember (name value data : Bytes) : Bytes :=
  (data.drop (payloadHead name value).length).takeWhile fun b => b ≠ 34

theorem payloadText_eq (name value : Bytes) (t : Tm) :
    payloadText name value t =
      payloadHead name value ++ (timestampText t ++ ascii "\"\x7d") := by
  simp only [payloadText, payloadHead, List.append_assoc]

/-- The buffer may end before the timestamp does. -/
theorem timestampMember_prefix (nodeName value : Bytes) (t : Tm) :
    timestampMember (cString nodeName) value (dataReceiverOpcua nodeName value t) <+:
      timestampText t ++ ascii "\"\x7d" := by
  have hdrop : (dataReceiverOpcua nodeName value t).drop
      (payloadHead (cString nodeName) value).length =
      (timestampText t ++ ascii "\"\x7d").take
        (99 - (payloadHead (cString nodeName) value).length) := by
    rw [dataReceiverOpcua, snprintf, payloadText_eq, List.drop_take, List.drop_left]
  rw [timestampMember, hdrop]
  exact (List.takeWhile_prefix _).trans (List.take_prefix _ _)

/-! ## The texts of an instant -/

theorem year_digits {year : Nat} (h : year < 10000) :
    ∃ a b c d, formatInt 4 (year : Int) = [a, b, c, d] ∧ isDigit c = true := by
  have hdigits : ∀ b ∈ formatInt 4 (year : Int), isDigit b = true := by
    rw [formatInt, if_neg (by omega)]
    exact zeroPad_isDigit (decimal_isDigit _)
  have hlen : (formatInt 4 (year : Int)).length = 4 :=
    length_formatInt_four (by omega) (by omega)
  obtain ⟨a, b, c, d, heq⟩ := List.length_eq_four.mp hlen
  refine ⟨a, b, c, d, heq, hdigits c ?_⟩
  rw [heq]
  simp

/-- The year is written out after a century of its own, and the month counts from
zero. -/
theorem timestampText_registers24 (instant : Instant) (weekday : Fin 7) :
    timestampText (timeOfRegisters (instant.registers24 weekday)) =
      ascii "20" ++ formatInt 4 instant.year ++ ascii "-" ++
        formatInt 2 ((instant.month : Int) - 1) ++ ascii "-" ++ formatInt 2 instant.day ++
        ascii " " ++ formatInt 2 instant.hour ++ ascii ":" ++ formatInt 2 instant.minute ++
        ascii ":" ++ formatInt 2 instant.second := by
  rw [timeOfRegisters_registers24]
  rfl

/-- The fifth byte is a dash in the one and a digit in the other. -/
theorem isoText_not_prefix (instant : Instant) (weekday : Fin 7) (rest : Bytes) :
    ¬ instant.isoText <+:
      timestampText (timeOfRegisters (instant.registers24 weekday)) ++ rest := by
  obtain ⟨a, b, c, d, heq, hdigit⟩ := year_digits (Nat.lt_trans instant.year_lt (by omega))
  intro hinitial
  obtain ⟨more, hmore⟩ := hinitial
  rw [Instant.isoText, timestampText_registers24, heq] at hmore
  have hfifth : (45 : UInt8) = c := by
    have hat := congrArg (fun text : Bytes => text[4]?) hmore
    simpa [ascii] using hat
  rw [← hfifth] at hdigit
  exact absurd hdigit (by decide)

/-! ## The order of what is published -/

/-- What is written for an instant still compares as the instant does. -/
theorem timestampText_lt_iff (a b : Instant) (v w : Fin 7) :
    timestampText (timeOfRegisters (a.registers24 v)) <
        timestampText (timeOfRegisters (b.registers24 w)) ↔ a.fields < b.fields := by
  have hmonth : ∀ i : Instant, (i.month : Int) - 1 = ((i.month - 1 : Nat) : Int) := by
    intro i
    have hpos := i.month_pos
    omega
  have hday : ∀ i : Instant, i.day < 10 ^ 2 := by
    intro i
    have hle := daysInMonth_le i.year i.month
    have hday := i.day_le
    omega
  have hsmall : ∀ i : Instant, i.year < 10 ^ 4 ∧ i.month - 1 < 10 ^ 2 ∧ i.hour < 10 ^ 2 ∧
      i.minute < 10 ^ 2 ∧ i.second < 10 ^ 2 := by
    intro i
    have hyear := i.year_lt
    have hmonth := i.month_le
    have hhour := i.hour_lt
    have hminute := i.minute_lt
    have hsecond := i.second_lt
    omega
  obtain ⟨hyear, hmonthLt, hhour, hminute, hsecond⟩ := hsmall a
  obtain ⟨hyear', hmonthLt', hhour', hminute', hsecond'⟩ := hsmall b
  have hpos := a.month_pos
  have hpos' := b.month_pos
  have hmonths : a.month - 1 < b.month - 1 ↔ a.month < b.month := by omega
  have hmonthsEq : a.month - 1 = b.month - 1 ↔ a.month = b.month := by omega
  rw [timestampText_registers24, timestampText_registers24, hmonth a, hmonth b]
  simp only [List.append_assoc]
  rw [append_lt_append_iff rfl, field_append_lt_iff (by omega) hyear hyear',
    field_append_lt_iff (by omega) hmonthLt hmonthLt',
    field_append_lt_iff (by omega) (hday a) (hday b),
    field_append_lt_iff (by omega) hhour hhour', field_append_lt_iff (by omega) hminute hminute',
    field_lt_iff (by omega) hsecond hsecond', hmonths, hmonthsEq]
  simp only [Instant.fields, List.cons_lt_cons_iff, List.lt_irrefl, false_or, true_and, and_false,
    or_false]

theorem timestampText_inj {a b : Instant} {v w : Fin 7}
    (h : timestampText (timeOfRegisters (a.registers24 v)) =
      timestampText (timeOfRegisters (b.registers24 w))) : a = b := by
  have hab := (timestampText_lt_iff a b v w).not.mp (by rw [h]; exact List.lt_irrefl _)
  have hba := (timestampText_lt_iff b a w v).not.mp (by rw [h]; exact List.lt_irrefl _)
  apply Instant.fields_inj
  exact le_antisymm (not_lt.mp hba) (not_lt.mp hab)

/-! ## No instant is published as itself -/

def publishedTimestamps (name value : Bytes) (log : List Event) : List Bytes :=
  (log.filterMap Event.message?).map fun message => timestampMember name value message.data

/-- Whichever branch publishes, and whatever the instant. -/
theorem timestamp_never_iso (env : PassEnv) {i : Nat} (hi : i < 10) (nodeName : Bytes)
    {value : UaVariant} {sample : Sample} (hsample : value.content?.bind sampleOf = some sample)
    {instant : Instant} {weekday : Fin 7}
    (hread : timeRead (env.rtc i) I2cDev.zero = (espOk, instant.registers24 weekday))
    (s : TaskState) :
    ∃ text, publishedTimestamps (cString nodeName) sample.valueText
        ((publishValue env i nodeName value).run s).log = [text] ∧ text ≠ instant.isoText := by
  have htime : timeAfter (env.rtc i) s.localTime =
      timeOfRegisters (instant.registers24 weekday) := by
    rw [timeAfter, hread, if_pos rfl]
  rw [publishValue_sampled env hi nodeName hsample s, htime]
  have hinitial := timestampMember_prefix nodeName sample.valueText
    (timeOfRegisters (instant.registers24 weekday))
  refine ⟨_, rfl, fun hsame => ?_⟩
  change timestampMember _ _ _ = _ at hsame
  rw [hsame] at hinitial
  exact isoText_not_prefix instant weekday _ hinitial

/-- The fifth of March 2024, half past twelve. -/
def springNoon : Instant where
  year := 2024
  month := 3
  day := 5
  hour := 12
  minute := 30
  second := 0
  year_le := by decide
  year_lt := by decide
  month_pos := by decide
  month_le := by decide
  day_pos := by decide
  day_le := by decide
  hour_lt := by decide
  minute_lt := by decide
  second_lt := by decide

/-- The clock stands at `springNoon`. -/
def springEnv : PassEnv :=
  PassEnv.serving
    (fun _ => goodResponse (UaVariant.scalar (.localizedText { text := plainName })))
    (fun _ => goodResponse (UaVariant.scalar (.uint16 7)))
    (fun _ => steadyClock (springNoon.registers24 1))

def springLog : List Event :=
  ((publishValue springEnv 0 (ascii "p") (UaVariant.scalar (.uint16 7))).run TaskState.start).log

theorem timestamp_never_iso_spring :
    ∃ text, publishedTimestamps (cString (ascii "p")) (Sample.intValue 7).valueText springLog =
        [text] ∧ text ≠ springNoon.isoText :=
  have hread : timeRead (springEnv.rtc 0) I2cDev.zero = (espOk, springNoon.registers24 1) := by
    decide
  timestamp_never_iso springEnv (by decide) (ascii "p") rfl hread TaskState.start

/-- The century is doubled and the month is February. -/
theorem springNoon_misprinted :
    publishedTimestamps (ascii "p") (Sample.intValue 7).valueText springLog =
        [ascii "202024-02-05 12:30:00"] ∧
      springNoon.isoText = ascii "2024-03-05 12:30:00" ∧
      publishedTimestamps (ascii "p") (Sample.intValue 7).valueText springLog ≠
        [springNoon.isoText] := by
  decide +kernel

end Poller
end OpcuaGateway
