/-
The values of JSON, and the text of a whole message.
-/
import Mathlib.Data.Rat.Defs
import Mathlib.Tactic.Ring
import OpcuaGateway.Json.String
import OpcuaGateway.Text.Decimal

namespace OpcuaGateway
namespace Json

open Text

inductive Value where
  | null
  | bool (b : Bool)
  | number (q : ℚ)
  | string (s : Bytes)
  | array (items : List Value)
  | object (members : List (Bytes × Value))

/-! ## The parser -/

def digits : Parser Bytes := do
  let s ← takeAll isDigit
  if s = [] then fail else pure s

/-- Digits without a leading zero, unless that is all. -/
def wholePart : Parser Bytes := do
  let s ← digits
  if s.head? = some 48 ∧ s ≠ [48] then fail else pure s

def exponent : Parser Int := do
  let minus ← optionally (· == 45) (pure true) false
  if minus then do
    let s ← digits
    pure (-(digitsValue s : Int))
  else do
    optionally (· == 43) (pure ()) ()
    let s ← digits
    pure (digitsValue s)

def magnitude : Parser ℚ := do
  let whole ← wholePart
  let fraction ← optionally (· == 46) digits []
  let power ← optionally (fun b => b == 101 || b == 69) exponent 0
  pure ((digitsValue (whole ++ fraction) : ℚ) / 10 ^ fraction.length * 10 ^ power)

def member (value : Parser Value) : Parser (Bytes × Value) := do
  skipSpace
  expect 34
  let name ← string
  skipSpace
  expect 58
  let v ← value
  pure (name, v)

def keyword : Bytes → Parser Unit
  | [] => pure ()
  | b :: more => do
    expect b
    keyword more

/-- A value with at most `fuel` values around each other. -/
def value : Nat → Parser Value
  | 0 => fail
  | fuel + 1 => do
    skipSpace
    let b ← peek
    if b = 123 then do
      expect 123
      let members ← bracketed (member (value fuel)) 125
      pure (.object members)
    else if b = 91 then do
      expect 91
      let items ← bracketed (value fuel) 93
      pure (.array items)
    else if b = 34 then do
      expect 34
      let s ← string
      pure (.string s)
    else if b = 45 then do
      expect 45
      let q ← magnitude
      pure (.number (-q))
    else if isDigit b then do
      let q ← magnitude
      pure (.number q)
    else if b = 116 then do
      keyword (ascii "true")
      pure (.bool true)
    else if b = 102 then do
      keyword (ascii "false")
      pure (.bool false)
    else do
      keyword (ascii "null")
      pure .null

def parse (text : Bytes) : Option Value :=
  (value (text.length + 1) text).bind fun r =>
    if r.2.dropWhile isSpace = [] then some r.1 else none

namespace Suffixes

theorem digits : Suffixes digits :=
  bind (takeAll isDigit) fun s => ite fail (pure s)

theorem wholePart : Suffixes wholePart :=
  bind digits fun s => ite fail (pure s)

theorem exponent : Suffixes exponent :=
  bind (optionally _ (pure true) false) fun _ =>
    ite (bind digits fun _ => pure _)
      (bind (optionally _ (pure ()) ()) fun _ => bind digits fun _ => pure _)

theorem magnitude : Suffixes magnitude :=
  bind wholePart fun _ => bind (optionally _ digits []) fun _ =>
    bind (optionally _ exponent 0) fun _ => pure _

theorem member {v : Parser Value} (hv : Suffixes v) : Suffixes (member v) :=
  bind skipSpace fun _ => bind (expect 34) fun _ => bind string fun _ => bind skipSpace fun _ =>
    bind (expect 58) fun _ => bind hv fun _ => pure _

theorem keyword (text : Bytes) : Suffixes (keyword text) := by
  induction text with
  | nil => exact pure ()
  | cons b more ih => exact bind (expect b) fun _ => ih

theorem value (fuel : Nat) : Suffixes (value fuel) := by
  induction fuel with
  | zero => exact fail
  | succ fuel ih =>
    refine bind skipSpace fun _ => bind peek fun b => ?_
    refine ite (bind (expect 123) fun _ => bind (bracketed (member ih) 125) fun _ => pure _) ?_
    refine ite (bind (expect 91) fun _ => bind (bracketed ih 93) fun _ => pure _) ?_
    refine ite (bind (expect 34) fun _ => bind string fun _ => pure _) ?_
    refine ite (bind (expect 45) fun _ => bind magnitude fun _ => pure _) ?_
    refine ite (bind magnitude fun _ => pure _) ?_
    refine ite (bind (keyword _) fun _ => pure _) ?_
    exact ite (bind (keyword _) fun _ => pure _) (bind (keyword _) fun _ => pure _)

end Suffixes

/-! ## The fuel of `parse` is enough -/

theorem value_nil (fuel : Nat) : value fuel [] = none := by
  cases fuel with
  | zero => rfl
  | succ fuel => rfl

theorem member_covers {n : Nat} {v v' : Parser Value} (hv : Suffixes v) (h : Covers n v v') :
    Covers n (member v) (member v') :=
  Covers.bind Suffixes.skipSpace (Covers.refl n _) fun _ =>
    Covers.bind (Suffixes.expect 34) (Covers.refl n _) fun _ =>
      Covers.bind Suffixes.string (Covers.refl n _) fun _ =>
        Covers.bind Suffixes.skipSpace (Covers.refl n _) fun _ =>
          Covers.bind (Suffixes.expect 58) (Covers.refl n _) fun _ =>
            Covers.bind hv h fun _ => Covers.refl n _

/-- Every value inside another is shorter than that one. -/
theorem value_covers (fuel n : Nat) : Covers n (value fuel) (value (n + 1)) := by
  induction fuel generalizing n with
  | zero =>
    intro input v rest _ h
    cases h
  | succ fuel ih =>
    cases n with
    | zero =>
      intro input v rest hlen h
      rw [List.length_eq_zero_iff.mp (Nat.le_zero.mp hlen), value_nil] at h
      cases h
    | succ n =>
      have hmember : Covers n (member (value fuel)) (member (value (n + 1))) :=
        member_covers (Suffixes.value fuel) (ih n)
      have hobject := Covers.bracketed (Suffixes.member (Suffixes.value fuel)) hmember 125
      have harray := Covers.bracketed (Suffixes.value fuel) (ih n) 93
      have hsame : ∀ p : Parser Value, Covers (n + 1) p p := Covers.refl (n + 1)
      refine Covers.bind Suffixes.skipSpace (Covers.refl _ _) fun _ =>
        Covers.bind Suffixes.peek (Covers.refl _ _) fun b => ?_
      apply Covers.ite
      · apply Covers.expect
        exact Covers.bind (Suffixes.bracketed (Suffixes.member (Suffixes.value fuel)) 125) hobject
          fun _ => Covers.refl n _
      · apply Covers.ite
        · apply Covers.expect
          exact Covers.bind (Suffixes.bracketed (Suffixes.value fuel) 93) harray
            fun _ => Covers.refl n _
        · exact hsame _

/-- What any amount of fuel reads as the whole text, `parse` reads. -/
theorem parse_of_value {fuel : Nat} {text rest : Bytes} {v : Value}
    (h : value fuel text = some (v, rest)) (hrest : rest.dropWhile isSpace = []) :
    parse text = some v := by
  have hvalue := value_covers fuel text.length text v rest (Nat.le_refl _) h
  rw [parse, hvalue]
  exact if_pos hrest

/-! ## Numbers that are read back -/

theorem takeAll_append {kind : UInt8 → Bool} {s : Bytes} (hs : ∀ b ∈ s, kind b = true) {b : UInt8}
    (hb : kind b = false) (rest : Bytes) :
    takeAll kind (s ++ b :: rest) = some (s, b :: rest) := by
  rw [takeAll, List.takeWhile_append_of_pos hs, List.dropWhile_append_of_pos hs,
    List.takeWhile_cons, List.dropWhile_cons, hb]
  simp

/-- Digits as a number is written with. -/
structure IsWhole (s : Bytes) : Prop where
  digit : ∀ b ∈ s, isDigit b = true
  ne_nil : s ≠ []
  leading : ¬ (s.head? = some 48 ∧ s ≠ [48])

theorem isWhole_decimal (n : Nat) : IsWhole (decimal n) where
  digit := decimal_isDigit n
  ne_nil := decimal_ne_nil n
  leading := by
    intro h
    obtain ⟨hhead, hne⟩ := h
    rcases Nat.eq_zero_or_pos n with rfl | hpos
    · exact hne rfl
    · obtain ⟨d, rest, heq, hd, -⟩ := decimal_head (Nat.ne_of_gt hpos)
      rw [heq] at hhead
      exact hd (Option.some.inj hhead)

theorem digits_append {s : Bytes} (hs : ∀ b ∈ s, isDigit b = true) (hne : s ≠ []) {b : UInt8}
    (hb : isDigit b = false) (rest : Bytes) : digits (s ++ b :: rest) = some (s, b :: rest) := by
  rw [digits, bind_of_some (takeAll_append hs hb rest), if_neg hne]
  rfl

theorem wholePart_append {s : Bytes} (hs : IsWhole s) {b : UInt8} (hb : isDigit b = false)
    (rest : Bytes) : wholePart (s ++ b :: rest) = some (s, b :: rest) := by
  rw [wholePart, bind_of_some (digits_append hs.digit hs.ne_nil hb rest), if_neg hs.leading]
  rfl

/-- A comma ends a number without a fraction. -/
theorem magnitude_whole {s : Bytes} (hs : IsWhole s) (rest : Bytes) :
    magnitude (s ++ 44 :: rest) = some ((digitsValue s : ℚ), 44 :: rest) := by
  rw [magnitude, bind_of_some (wholePart_append hs rfl rest)]
  show some (((digitsValue (s ++ []) : ℚ) / 10 ^ 0 * 10 ^ (0 : Int), 44 :: rest)) = _
  rw [List.append_nil, pow_zero, zpow_zero, div_one, mul_one]

/-- A comma ends a number with a fraction. -/
theorem magnitude_fraction {s t : Bytes} (hs : IsWhole s) (ht : ∀ b ∈ t, isDigit b = true)
    (hne : t ≠ []) (rest : Bytes) :
    magnitude (s ++ 46 :: (t ++ 44 :: rest)) =
      some ((digitsValue (s ++ t) : ℚ) / 10 ^ t.length, 44 :: rest) := by
  have hfraction : optionally (· == 46) digits [] (46 :: (t ++ 44 :: rest)) =
      some (t, 44 :: rest) := digits_append ht hne rfl rest
  rw [magnitude, bind_of_some (wholePart_append hs rfl _), bind_of_some hfraction]
  show some (((digitsValue (s ++ t) : ℚ) / 10 ^ t.length * 10 ^ (0 : Int), 44 :: rest)) = _
  rw [zpow_zero, mul_one]

/-! ## Values by their first byte -/

theorem value_digit (fuel : Nat) {b : UInt8} {s rest : Bytes} {q : ℚ} (hb : isDigit b = true)
    (h : magnitude (b :: s) = some (q, rest)) :
    value (fuel + 1) (b :: s) = some (.number q, rest) := by
  have hne : ∀ c, isDigit c = false → b ≠ c := by
    intro c hc heq
    rw [heq, hc] at hb
    cases hb
  have hspace : isSpace b = false := by
    rw [isSpace, beq_false_of_ne (hne 32 rfl), beq_false_of_ne (hne 9 rfl),
      beq_false_of_ne (hne 10 rfl), beq_false_of_ne (hne 13 rfl)]
    rfl
  rw [value, bind_of_some (skipSpace_cons hspace s), bind_of_some (peek_cons b s),
    if_neg (hne 123 rfl), if_neg (hne 91 rfl), if_neg (hne 34 rfl), if_neg (hne 45 rfl), if_pos hb,
    bind_of_some h]
  rfl

theorem value_minus (fuel : Nat) {s rest : Bytes} {q : ℚ} (h : magnitude s = some (q, rest)) :
    value (fuel + 1) (45 :: s) = some (.number (-q), rest) := by
  show (magnitude >>= fun q => (pure (.number (-q)) : Parser Value)) s = _
  rw [bind_of_some h]
  rfl

theorem value_quote (fuel : Nat) (s : Bytes) :
    value (fuel + 1) (34 :: s) = (string >>= fun t => (pure (.string t) : Parser Value)) s := rfl

theorem value_brace (fuel : Nat) (s : Bytes) :
    value (fuel + 1) (123 :: s) =
      (bracketed (member (value fuel)) 125 >>= fun members =>
        (pure (.object members) : Parser Value)) s := rfl

theorem member_quote {v : Parser Value} {key : Bytes} (hkey : ∀ b ∈ key, isPlain b = true)
    (s : Bytes) :
    member v (34 :: (key ++ 34 :: 58 :: s)) =
      (v >>= fun x => (pure (key, x) : Parser (Bytes × Value))) s := by
  rw [member, bind_of_some (skipSpace_cons rfl _), bind_of_some (expect_cons _ _),
    bind_of_some (string_plain hkey _), bind_of_some (skipSpace_cons rfl _),
    bind_of_some (expect_cons _ _)]

theorem member_of_value {v : Parser Value} {key s rest : Bytes} {x : Value}
    (hkey : ∀ b ∈ key, isPlain b = true) (h : v s = some (x, rest)) :
    member v (34 :: (key ++ 34 :: 58 :: s)) = some ((key, x), rest) := by
  rw [member_quote hkey, bind_of_some h]
  rfl

/-! ## Objects -/

/-- An object that opens with a member whose value is a string. -/
theorem parse_object_string {key body : Bytes} {members : List (Bytes × Value)}
    (hkey : ∀ b ∈ key, isPlain b = true)
    (h : parse (123 :: 34 :: (key ++ 34 :: 58 :: 34 :: body)) = some (.object members)) :
    ∃ s rest more, string body = some (s, rest) ∧ members = (key, .string s) :: more ∧
      125 ∈ rest := by
  obtain ⟨r, hvalue, hend⟩ := Option.bind_eq_some_iff.mp h
  obtain ⟨v, left⟩ := r
  have hv : v = .object members := by
    split at hend
    · exact Option.some.inj hend
    · cases hend
  rw [hv, value_brace] at hvalue
  obtain ⟨found, middle, hlist, hpure⟩ := bind_eq_some hvalue
  have hfound : found = members := Value.object.inj (pure_eq_some hpure).1
  rw [bracketed_cons rfl (by decide), hfound] at hlist
  obtain ⟨first, more, rest, hfirst, hmembers, hclose⟩ :=
    listOf_eq_some (Suffixes.member (Suffixes.value _)) hlist
  rw [member_quote hkey] at hfirst
  obtain ⟨x, _, hx, hpair⟩ := bind_eq_some hfirst
  obtain ⟨hpair, hmiddle⟩ := pure_eq_some hpair
  rw [List.length_cons, value_quote] at hx
  obtain ⟨s, _, hstring, hs⟩ := bind_eq_some hx
  obtain ⟨hs, hrest⟩ := pure_eq_some hs
  refine ⟨s, rest, more, ?_, ?_, hclose⟩
  · rw [hstring, hrest, hmiddle]
  · rw [hmembers, ← hpair, ← hs]

/-- An object that is all of the text. -/
theorem parse_object {fuel : Nat} {s : Bytes} {members : List (Bytes × Value)}
    (h : bracketed (member (value fuel)) 125 s = some (members, [])) :
    parse (123 :: s) = some (.object members) := by
  have hvalue : value (fuel + 1) (123 :: s) = some (.object members, []) := by
    rw [value_brace, bind_of_some h]
    rfl
  exact parse_of_value hvalue rfl

end Json
end OpcuaGateway
