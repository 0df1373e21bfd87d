/-
What a reader of JSON makes of a published message.

A name is copied between quotes as it stands and the whole is cut to the buffer.
`carries_iff` says which messages come through: the plain names, as long as
everything fits.  The other names either end their string early or leave the
object without its closing brace.
-/
import OpcuaGateway.Json.Value
import OpcuaGateway.Poller.Pass

namespace OpcuaGateway
namespace Poller

open Effect Effect.Action Opcua Rtc Text Numeric Idf Json

/-! ## How wide the fields are -/

/-- The number `%f` or `%d` writes, if it writes one. -/
def Sample.number? : Sample → Option ℚ
  | .floatValue bits =>
    if binary32.isFinite bits.toNat then some (binary32.sixPlaces bits.toNat) else none
  | .doubleValue bits =>
    if binary32.isFinite bits.toUInt32.toNat then some (binary32.sixPlaces bits.toUInt32.toNat)
    else none
  | .intValue value => some value.toNat

/-- The sign, the whole part, the point and six places. -/
def fixedWidth (w : Nat) : Nat :=
  (if binary32.negative w then 1 else 0) + digitCount (binary32.millionths w / 10 ^ 6) + 7

def Sample.width : Sample → Nat
  | .floatValue bits => fixedWidth bits.toNat
  | .doubleValue bits => fixedWidth bits.toUInt32.toNat
  | .intValue value => digitCount value.toNat

/-- Twenty-one, and one for each field that needs three digits. -/
def timestampWidth (t : Tm) : Nat :=
  21 + (if 100 ≤ t.tmMday then 1 else 0) + (if 100 ≤ t.tmHour then 1 else 0) +
    (if 100 ≤ t.tmMin then 1 else 0) + (if 100 ≤ t.tmSec then 1 else 0)

theorem length_timestampText {t : Tm} (h : t.InRange) :
    (timestampText t).length = timestampWidth t := by
  have hfield : ∀ z : Int, -1 ≤ z → z < 256 →
      (formatInt 2 z).length = 2 + if 100 ≤ z then 1 else 0 := by
    intro z hlow hhigh
    exact length_formatInt_two (by omega) (by omega)
  have hyear : (formatInt 4 t.tmYear).length = 4 := by
    have hrange := h.year
    exact length_formatInt_four (by omega) (by omega)
  have hmon : (formatInt 2 t.tmMon).length = 2 := by
    have hrange := h.mon
    rw [hfield t.tmMon (by omega) (by omega), if_neg (by omega)]
  have hmday := hfield t.tmMday (by have hrange := h.mday; omega) h.mday.2
  have hhour := hfield t.tmHour h.hour.1 h.hour.2
  have hmin := hfield t.tmMin (by have hrange := h.min; omega) h.min.2
  have hsec := hfield t.tmSec (by have hrange := h.sec; omega) h.sec.2
  simp only [timestampText, List.length_append, hyear, hmon, hmday, hhour, hmin, hsec]
  show 2 + 4 + 1 + 2 + 1 + _ + 1 + _ + 1 + _ + 1 + _ = _
  unfold timestampWidth
  omega

/-! ## The text of a value -/

/-- The bytes of numbers and of dates. -/
def isFigure (b : UInt8) : Bool := isDigit b || b == 45 || b == 46 || b == 32 || b == 58

theorem isFigure_of_isDigit {b : UInt8} (h : isDigit b = true) : isFigure b = true := by
  rw [isFigure, h]
  rfl

/-- A byte of the text around a name: no backslash, no brace, below 128. -/
def isTame (b : UInt8) : Bool := b != 92 && b != 125 && b < 128

theorem isFigure_spec (b : UInt8) : isFigure b = true → isPlain b = true ∧ isTame b = true := by
  have hall : ∀ n, n < 256 →
      (isFigure n.toUInt8 = true → isPlain n.toUInt8 = true ∧ isTame n.toUInt8 = true) := by
    decide +kernel
  exact forall_byte (P := fun b => isFigure b = true → isPlain b = true ∧ isTame b = true) hall b

/-- The text of a value, as something JSON can read. -/
structure Numeral (text : Bytes) (q : ℚ) : Prop where
  read : ∀ fuel rest, value (fuel + 1) (text ++ 44 :: rest) = some (.number q, 44 :: rest)
  byte : ∀ b ∈ text, isFigure b = true

theorem value_magnitude {s t rest : Bytes} {q : ℚ} (hs : IsWhole s) (fuel : Nat)
    (h : magnitude (s ++ t) = some (q, rest)) :
    value (fuel + 1) (s ++ t) = some (.number q, rest) := by
  cases s with
  | nil => exact absurd rfl hs.ne_nil
  | cons d ds => exact value_digit fuel (hs.digit d List.mem_cons_self) h

theorem numeral_decimal (n : Nat) : Numeral (formatInt 0 n) n := by
  have htext : formatInt 0 n = decimal n := by
    rw [formatInt, if_neg (by omega), zeroPad, Nat.zero_sub]
    rfl
  rw [htext]
  refine ⟨fun fuel rest => ?_, fun b hb => isFigure_of_isDigit (decimal_isDigit n b hb)⟩
  have hread := magnitude_whole (isWhole_decimal n) rest
  rw [digitsValue_decimal] at hread
  exact value_magnitude (isWhole_decimal n) fuel hread

theorem magnitude_millionths (m : Nat) (rest : Bytes) :
    magnitude (decimal (m / 10 ^ 6) ++ 46 :: (zeroPad 6 (decimal (m % 10 ^ 6)) ++ 44 :: rest)) =
      some ((m : ℚ) / 10 ^ 6, 44 :: rest) := by
  have hshort : (decimal (m % 10 ^ 6)).length ≤ 6 :=
    length_decimal_le (by omega) (Nat.mod_lt m (by omega))
  have hlen : (zeroPad 6 (decimal (m % 10 ^ 6))).length = 6 := by
    rw [length_zeroPad]
    omega
  have hne : zeroPad 6 (decimal (m % 10 ^ 6)) ≠ [] := by
    intro hnil
    rw [hnil] at hlen
    cases hlen
  have hread := magnitude_fraction (isWhole_decimal (m / 10 ^ 6))
    (zeroPad_isDigit (decimal_isDigit (m % 10 ^ 6))) hne rest
  rw [hlen, digitsValue_millionths] at hread
  exact hread

theorem numeral_millionths (negative : Bool) (m : Nat) :
    Numeral (formatMillionths negative m) ((if negative then -1 else 1) * (m / 10 ^ 6)) := by
  refine ⟨fun fuel rest => ?_, fun b hb => ?_⟩
  · have hread := magnitude_millionths m rest
    rw [formatMillionths, List.append_assoc, List.append_assoc, List.cons_append]
    cases negative with
    | false =>
      rw [if_neg Bool.false_ne_true, if_neg Bool.false_ne_true, one_mul, List.nil_append]
      exact value_magnitude (isWhole_decimal _) fuel hread
    | true =>
      rw [if_pos rfl, if_pos rfl, neg_one_mul]
      exact value_minus fuel hread
  · rw [formatMillionths, List.mem_append, List.mem_append, List.mem_cons] at hb
    rcases hb with hb | hb | rfl | hb
    · cases negative with
      | false => cases hb
      | true =>
        rw [List.mem_singleton.mp hb]
        rfl
    · exact isFigure_of_isDigit (decimal_isDigit _ b hb)
    · rfl
    · exact isFigure_of_isDigit (zeroPad_isDigit (decimal_isDigit _) b hb)

theorem numeral_fixed {w : Nat} (h : binary32.isFinite w = true) :
    Numeral (formatFixed binary32 w) (binary32.sixPlaces w) ∧
      (formatFixed binary32 w).length = fixedWidth w := by
  rw [formatFixed, if_pos h]
  refine ⟨numeral_millionths _ _, ?_⟩
  rw [length_formatMillionths, length_decimal, fixedWidth, Nat.add_assoc]

theorem Sample.numeral {sample : Sample} {q : ℚ} (h : sample.number? = some q) :
    Numeral sample.valueText q ∧ sample.valueText.length = sample.width := by
  cases sample with
  | floatValue bits =>
    obtain ⟨hfinite, hq⟩ := Option.ite_none_right_eq_some.mp h
    rw [← Option.some.inj hq]
    exact numeral_fixed hfinite
  | doubleValue bits =>
    obtain ⟨hfinite, hq⟩ := Option.ite_none_right_eq_some.mp h
    rw [← Option.some.inj hq]
    exact numeral_fixed hfinite
  | intValue value =>
    cases h
    refine ⟨numeral_decimal value.toNat, ?_⟩
    show (formatInt 0 value.toNat).length = digitCount value.toNat
    rw [formatInt, if_neg (by omega), length_zeroPad, Nat.zero_max]
    exact length_decimal value.toNat

/-! ## The text of a message -/

/-- What follows the name and its quote. -/
def payloadTail (value : Bytes) (t : Tm) : Bytes :=
  ascii ",\"value\":" ++ (value ++ (ascii ",\"timestamp\":\"" ++ (timestampText t ++
    ascii "\"\x7d")))

theorem payloadText_cons (name value : Bytes) (t : Tm) :
    payloadText name value t =
      123 :: 34 :: (ascii "name" ++ 34 :: 58 :: 34 :: (name ++ 34 :: payloadTail value t)) := by
  simp only [payloadText, payloadTail, List.append_assoc]
  rfl

theorem formatInt_figure (width : Nat) (z : Int) : ∀ b ∈ formatInt width z, isFigure b = true := by
  intro b hb
  rw [formatInt] at hb
  split at hb
  · rcases List.mem_cons.mp hb with rfl | hb
    · rfl
    · exact isFigure_of_isDigit (zeroPad_isDigit (decimal_isDigit _) b hb)
  · exact isFigure_of_isDigit (zeroPad_isDigit (decimal_isDigit _) b hb)

theorem timestampText_figure (t : Tm) : ∀ b ∈ timestampText t, isFigure b = true := by
  have hliteral : ∀ s ∈ ["20", "-", " ", ":"], ∀ b ∈ ascii s, isFigure b = true := by
    have hall : ∀ s ∈ ["20", "-", " ", ":"], (ascii s).all isFigure = true := by decide
    exact fun s hs => List.all_eq_true.mp (hall s hs)
  intro b hb
  simp only [timestampText, List.mem_append] at hb
  rcases hb with (((((((((((hb | hb) | hb) | hb) | hb) | hb) | hb) | hb) | hb) | hb) | hb) | hb)
  · exact hliteral "20" (by simp) b hb
  · exact formatInt_figure _ _ b hb
  · exact hliteral "-" (by simp) b hb
  · exact formatInt_figure _ _ b hb
  · exact hliteral "-" (by simp) b hb
  · exact formatInt_figure _ _ b hb
  · exact hliteral " " (by simp) b hb
  · exact formatInt_figure _ _ b hb
  · exact hliteral ":" (by simp) b hb
  · exact formatInt_figure _ _ b hb
  · exact hliteral ":" (by simp) b hb
  · exact formatInt_figure _ _ b hb

/-- The text after the name, without its closing brace. -/
def payloadCore (value : Bytes) (t : Tm) : Bytes :=
  ascii ",\"value\":" ++ (value ++ (ascii ",\"timestamp\":\"" ++ (timestampText t ++ [34])))

theorem payloadTail_eq (value : Bytes) (t : Tm) :
    payloadTail value t = payloadCore value t ++ [125] := by
  simp only [payloadTail, payloadCore, List.append_assoc]
  rfl

theorem payloadCore_tame {value : Bytes} (hvalue : ∀ b ∈ value, isFigure b = true) (t : Tm) :
    ∀ b ∈ payloadCore value t, isTame b = true := by
  have hfirst : ∀ b ∈ ascii ",\"value\":", isTame b = true :=
    List.all_eq_true.mp (by decide)
  have hsecond : ∀ b ∈ ascii ",\"timestamp\":\"", isTame b = true :=
    List.all_eq_true.mp (by decide)
  intro b hb
  simp only [payloadCore, List.mem_append] at hb
  rcases hb with hb | hb | hb | hb | hb
  · exact hfirst b hb
  · exact (isFigure_spec b (hvalue b hb)).2
  · exact hsecond b hb
  · exact (isFigure_spec b (timestampText_figure t b hb)).2
  · rw [List.mem_singleton.mp hb]
    decide

theorem length_payloadTail (value : Bytes) (t : Tm) :
    (payloadTail value t).length = 25 + value.length + (timestampText t).length := by
  simp only [payloadTail, List.length_append]
  show 9 + (value.length + (14 + ((timestampText t).length + 2))) = _
  omega

/-! ## What comes through -/

/-- The text is an object of a name, a value and a timestamp, with the given name
and number. -/
def Carries (name : Bytes) (q : ℚ) (text : Bytes) : Prop :=
  Utf8 text ∧ ∃ members, parse text = some (.object members) ∧
    (members.map Prod.fst).Perm [ascii "name", ascii "value", ascii "timestamp"] ∧
    (ascii "name", .string name) ∈ members ∧ (ascii "value", .number q) ∈ members

theorem key_plain : (∀ b ∈ ascii "name", isPlain b = true) ∧
    (∀ b ∈ ascii "value", isPlain b = true) ∧ (∀ b ∈ ascii "timestamp", isPlain b = true) :=
  ⟨List.all_eq_true.mp (by decide), List.all_eq_true.mp (by decide),
    List.all_eq_true.mp (by decide)⟩

/-- What the cut leaves after the opening of the name. -/
theorem snprintf_payloadText (name value : Bytes) (t : Tm) :
    snprintf 100 (payloadText name value t) =
      123 :: 34 :: (ascii "name" ++ 34 :: 58 :: 34 ::
        (name ++ 34 :: payloadTail value t).take 90) := by
  rw [snprintf, payloadText_cons]
  rfl

/-- The first member of a message that comes through is the name. -/
theorem name_first {name s : Bytes} {members more : List (Bytes × Value)}
    (hmembers : members = (ascii "name", .string s) :: more)
    (hkeys : (members.map Prod.fst).Perm [ascii "name", ascii "value", ascii "timestamp"])
    (hname : (ascii "name", Value.string name) ∈ members) : s = name := by
  rw [hmembers] at hkeys hname
  have hmore : (more.map Prod.fst).Perm [ascii "value", ascii "timestamp"] :=
    List.Perm.cons_inv hkeys
  have hother : ascii "name" ∉ more.map Prod.fst := by
    intro hmem
    have hlisted := hmore.mem_iff.mp hmem
    revert hlisted
    decide
  rcases List.mem_cons.mp hname with heq | hmem
  · exact (Value.string.inj (congrArg Prod.snd heq)).symm
  · exact absurd (List.mem_map_of_mem hmem) hother

theorem fits_of_carries {name value : Bytes} {t : Tm} {q : ℚ}
    (hvalue : ∀ b ∈ value, isFigure b = true)
    (h : Carries name q (snprintf 100 (payloadText name value t))) :
    (∀ b ∈ name, isPlain b = true) ∧
      name.length + value.length + (timestampText t).length ≤ 64 := by
  obtain ⟨-, members, hparse, hkeys, hname, -⟩ := h
  rw [snprintf_payloadText] at hparse
  obtain ⟨s, rest, more, hstring, hmembers, hbrace⟩ := parse_object_string key_plain.1 hparse
  have hs : s = name := name_first hmembers hkeys hname
  rw [hs] at hstring
  have htame := payloadCore_tame hvalue t
  have hback : (92 : UInt8) ∉ payloadTail value t := by
    rw [payloadTail_eq]
    intro hmem
    rcases List.mem_append.mp hmem with hmem | hmem
    · exact absurd (htame 92 hmem) (by decide)
    · exact absurd hmem (by decide)
  have hcut : (name ++ 34 :: payloadTail value t).take 90 <+: name ++ 34 :: payloadTail value t :=
    List.take_prefix _ _
  obtain ⟨hplain, hleft⟩ := string_verbatim hback hstring hcut
  refine ⟨hplain, ?_⟩
  -- The brace is the last byte of the tail, so nothing of the tail was cut off.
  have hrest : rest <+: payloadCore value t ++ [125] := by
    rw [hleft, payloadTail_eq] at hcut
    exact (List.cons_prefix_cons.mp ((List.prefix_append_right_inj name).mp hcut)).2
  have hwhole : rest = payloadTail value t := by
    rw [payloadTail_eq]
    rcases List.prefix_concat_iff.mp hrest with heq | hshort
    · exact heq
    · exact absurd (htame 125 (hshort.mem hbrace)) (by decide)
  have hlen := congrArg List.length hleft
  rw [List.length_take, List.length_append, List.length_append, List.length_cons,
    List.length_cons, hwhole, length_payloadTail] at hlen
  omega

theorem payloadTail_cons (value : Bytes) (t : Tm) :
    payloadTail value t =
      44 :: 34 :: (ascii "value" ++ 34 :: 58 :: (value ++ 44 :: 34 :: (ascii "timestamp" ++
        34 :: 58 :: 34 :: (timestampText t ++ 34 :: [125])))) := rfl

/-- The three members of a message that was not cut. -/
theorem parse_payloadText {name value : Bytes} {t : Tm} {q : ℚ} (hvalue : Numeral value q)
    (hname : ∀ b ∈ name, isPlain b = true) :
    parse (payloadText name value t) =
      some (.object [(ascii "name", .string name), (ascii "value", .number q),
        (ascii "timestamp", .string (timestampText t))]) := by
  have htime : ∀ b ∈ timestampText t, isPlain b = true := fun b hb =>
    (isFigure_spec b (timestampText_figure t b hb)).1
  have hstring : ∀ s rest, (∀ b ∈ s, isPlain b = true) →
      Json.value 1 (34 :: (s ++ 34 :: rest)) = some (.string s, rest) := by
    intro s rest hs
    rw [value_quote, bind_of_some (string_plain hs rest)]
    rfl
  rw [payloadText_cons]
  apply parse_object
  rw [bracketed_cons rfl (by decide), payloadTail_cons]
  generalize hfuel : List.length (ascii "name" ++ 34 :: 58 :: 34 :: _) + 1 = fuel
  obtain ⟨k, rfl⟩ : ∃ k, fuel = k + 1 + 1 + 1 := by
    rw [List.length_append, List.length_cons, List.length_cons] at hfuel
    exact ⟨fuel - 3, by omega⟩
  rw [listOf_comma (member_of_value key_plain.1 (hstring name _ hname)),
    listOf_comma (member_of_value key_plain.2.1 (hvalue.read 0 _)),
    listOf_close (member_of_value key_plain.2.2 (hstring (timestampText t) _ htime)) rfl
      (by decide)]
  rfl

theorem utf8_payloadText {name value : Bytes} {t : Tm} (hutf8 : Utf8 name)
    (hvalue : ∀ b ∈ value, isFigure b = true) : Utf8 (payloadText name value t) := by
  have hopening : Utf8 (ascii "\x7b\"name\":\"") := utf8_of_ascii (by decide)
  have htail : Utf8 (34 :: payloadTail value t) := by
    refine utf8_of_ascii ?_
    rw [payloadTail_eq, List.all_cons, List.all_append]
    have hcore : (payloadCore value t).all (fun b => b < 128) = true := by
      refine List.all_eq_true.mpr fun b hb => ?_
      exact (Bool.and_eq_true_iff.mp (payloadCore_tame hvalue t b hb)).2
    rw [hcore]
    rfl
  have hall := hopening.append (hutf8.append htail)
  rwa [payloadText_cons]

theorem carries_of_fits {name value : Bytes} {t : Tm} {q : ℚ} (hutf8 : Utf8 name)
    (hvalue : Numeral value q) (hname : ∀ b ∈ name, isPlain b = true)
    (hfits : name.length + value.length + (timestampText t).length ≤ 64) :
    Carries name q (snprintf 100 (payloadText name value t)) := by
  have hlen : (payloadText name value t).length ≤ 99 := by
    rw [payloadText_cons]
    simp only [List.length_cons, List.length_append, length_payloadTail]
    show 4 + (name.length + _ + 1 + 1 + 1 + 1) + 1 + 1 ≤ 99
    omega
  rw [snprintf, List.take_of_length_le hlen]
  refine ⟨utf8_payloadText hutf8 hvalue.byte, _, parse_payloadText hvalue hname, ?_, ?_, ?_⟩
  · exact List.Perm.refl _
  · exact List.mem_cons_self
  · exact List.mem_cons_of_mem _ List.mem_cons_self

/-! ## Which messages come through -/

def publishedTexts (log : List Event) : List Bytes :=
  (log.filterMap Event.message?).map Message.data

/-- A message comes through exactly when its name needs no escape and all of it
fits into the buffer. -/
theorem published_carries_iff (env : PassEnv) {i : Nat} (hi : i < 10) {name : Bytes}
    (hzero : (0 : UInt8) ∉ name) (hutf8 : Utf8 name) {value : UaVariant} {sample : Sample} {q : ℚ}
    (hsample : value.content?.bind sampleOf = some sample) (hnumber : sample.number? = some q)
    {data : Vector UInt8 7} (hread : timeRead (env.rtc i) I2cDev.zero = (espOk, data))
    (s : TaskState) :
    ∃ text, publishedTexts ((publishValue env i (name ++ [0]) value).run s).log = [text] ∧
      (Carries name q text ↔ (∀ b ∈ name, isPlain b = true) ∧
        name.length + sample.width + timestampWidth (timeOfRegisters data) ≤ 64) := by
  have htime : timeAfter (env.rtc i) s.localTime = timeOfRegisters data := by
    rw [timeAfter, hread, if_pos rfl]
  obtain ⟨hnumeral, hwidth⟩ := sample.numeral hnumber
  rw [publishValue_sampled env hi (name ++ [0]) hsample s, htime]
  refine ⟨dataReceiverOpcua (name ++ [0]) sample.valueText (timeOfRegisters data), rfl, ?_⟩
  rw [dataReceiverOpcua, cString_append_zero hzero, ← hwidth,
    ← length_timestampText (timeOfRegisters_inRange data)]
  constructor
  · exact fits_of_carries hnumeral.byte
  · intro h
    exact carries_of_fits hutf8 hnumeral h.1 h.2

/-- A run that publishes the number 7 under the given name. -/
def sevenLog (name : Bytes) : List Event :=
  ((publishValue pickyEnv 0 (name ++ [0]) (UaVariant.scalar (.uint16 7))).run TaskState.start).log

theorem published_carries_iff_plain :
    ∃ text, publishedTexts (sevenLog (ascii "p")) = [text] ∧
      (Carries (ascii "p") 7 text ↔ (∀ b ∈ ascii "p", isPlain b = true) ∧
        (ascii "p").length + (Sample.intValue 7).width +
          timestampWidth (timeOfRegisters (Vector.replicate 7 1)) ≤ 64) :=
  have hread : timeRead (pickyEnv.rtc 0) I2cDev.zero = (espOk, Vector.replicate 7 1) := by decide
  published_carries_iff pickyEnv (by decide) (by decide) (utf8_of_ascii (by decide)) rfl rfl hread
    TaskState.start

theorem not_carries_of_unread {name text : Bytes} {q : ℚ} (h : (parse text).isNone = true) :
    ¬ Carries name q text := by
  intro hcarries
  obtain ⟨-, members, hparse, -⟩ := hcarries
  rw [hparse] at h
  cases h

def quoteText : Bytes :=
  ascii "\x7b\"name\":\"\"\",\"value\":7,\"timestamp\":\"202001-00-01 01:01:01\"\x7d"

def longName : Bytes := List.replicate 43 97

def longText : Bytes :=
  ascii "\x7b\"name\":\"" ++ longName ++
    ascii "\",\"value\":7,\"timestamp\":\"202001-00-01 01:01:01\""

/-- A quote ends the string it is copied into, and 43 letters are one too many. -/
theorem quote_and_length_lost :
    (publishedTexts (sevenLog [34]) = [quoteText] ∧ ¬ Carries [34] 7 quoteText) ∧
      (publishedTexts (sevenLog longName) = [longText] ∧ ¬ Carries longName 7 longText) := by
  refine ⟨⟨?_, ?_⟩, ⟨?_, ?_⟩⟩
  · decide +kernel
  · exact not_carries_of_unread (by decide +kernel)
  · decide +kernel
  · exact not_carries_of_unread (by decide +kernel)

end Poller
end OpcuaGateway
