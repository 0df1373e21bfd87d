/-
Decimal text: digits, zero-padded fields, and the number a run of digits stands
for.
-/
import Mathlib.Data.Nat.Log
import Mathlib.Tactic.IntervalCases
import OpcuaGateway.Text.Ascii

namespace OpcuaGateway
namespace Text

def decimal (n : Nat) : Bytes := (Nat.toDigits 10 n).map fun c => c.toNat.toUInt8

def isDigit (b : UInt8) : Bool := 48 ≤ b && b ≤ 57

/-- The number a list of digits stands for. -/
def digitsValue (s : Bytes) : Nat := s.foldl (fun v b => v * 10 + (b.toNat - 48)) 0

/-- Zeros in front of a text, up to the given width. -/
def zeroPad (width : Nat) (s : Bytes) : Bytes := List.replicate (width - s.length) 48 ++ s

/-- `%0<width>d`.  The sign counts towards the width. -/
def formatInt (width : Nat) (z : Int) : Bytes :=
  if z < 0 then 45 :: zeroPad (width - 1) (decimal z.natAbs) else zeroPad width (decimal z.natAbs)

/-! ## Digits -/

theorem digitChar_toUInt8 {d : Nat} (h : d < 10) :
    (Nat.digitChar d).toNat.toUInt8 = (48 + d).toUInt8 := by
  interval_cases d <;> rfl

theorem decimal_of_lt {n : Nat} (h : n < 10) : decimal n = [(48 + n).toUInt8] := by
  rw [decimal, Nat.toDigits_of_lt_base h, List.map_singleton, digitChar_toUInt8 h]

/-- The last digit comes off the end. -/
theorem decimal_of_ge {n : Nat} (h : 10 ≤ n) :
    decimal n = decimal (n / 10) ++ [(48 + n % 10).toUInt8] := by
  rw [decimal, Nat.toDigits_of_base_le (by omega) h, List.map_append, List.map_singleton,
    digitChar_toUInt8 (Nat.mod_lt n (by omega))]
  rfl

theorem isDigit_digit {d : Nat} (h : d < 10) : isDigit (48 + d).toUInt8 = true := by
  interval_cases d <;> rfl

theorem toNat_digit {d : Nat} (h : d < 10) : ((48 + d).toUInt8).toNat - 48 = d := by
  interval_cases d <;> rfl

theorem decimal_isDigit (n : Nat) : ∀ b ∈ decimal n, isDigit b = true := by
  induction n using Nat.strongRecOn with
  | ind n ih =>
    intro b hb
    rcases Nat.lt_or_ge n 10 with h | h
    · rw [decimal_of_lt h, List.mem_singleton] at hb
      rw [hb]
      exact isDigit_digit h
    · rw [decimal_of_ge h, List.mem_append, List.mem_singleton] at hb
      rcases hb with hb | rfl
      · exact ih (n / 10) (by omega) b hb
      · exact isDigit_digit (Nat.mod_lt n (by omega))

theorem digitsValue_append_singleton (s : Bytes) (b : UInt8) :
    digitsValue (s ++ [b]) = digitsValue s * 10 + (b.toNat - 48) := by
  simp only [digitsValue, List.foldl_append, List.foldl_cons, List.foldl_nil]

theorem digitsValue_decimal (n : Nat) : digitsValue (decimal n) = n := by
  induction n using Nat.strongRecOn with
  | ind n ih =>
    rcases Nat.lt_or_ge n 10 with h | h
    · rw [decimal_of_lt h, ← List.nil_append [_], digitsValue_append_singleton, toNat_digit h,
        digitsValue, List.foldl_nil, Nat.zero_mul, Nat.zero_add]
    · rw [decimal_of_ge h, digitsValue_append_singleton, ih (n / 10) (by omega),
        toNat_digit (Nat.mod_lt n (by omega))]
      omega

theorem decimal_ne_nil (n : Nat) : decimal n ≠ [] := by
  rcases Nat.lt_or_ge n 10 with h | h
  · rw [decimal_of_lt h]
    exact List.cons_ne_nil _ _
  · rw [decimal_of_ge h]
    exact List.append_ne_nil_of_right_ne_nil _ (List.cons_ne_nil _ _)

/-- A number other than zero has no leading zero. -/
theorem decimal_head {n : Nat} (h : n ≠ 0) :
    ∃ d rest, decimal n = d :: rest ∧ d ≠ 48 ∧ isDigit d = true := by
  induction n using Nat.strongRecOn with
  | ind n ih =>
    rcases Nat.lt_or_ge n 10 with hlt | hge
    · refine ⟨(48 + n).toUInt8, [], decimal_of_lt hlt, ?_, isDigit_digit hlt⟩
      intro hzero
      have hval := toNat_digit hlt
      rw [hzero] at hval
      exact h hval.symm
    · obtain ⟨d, rest, heq, hne, hdigit⟩ := ih (n / 10) (by omega) (by omega)
      refine ⟨d, rest ++ [(48 + n % 10).toUInt8], ?_, hne, hdigit⟩
      rw [decimal_of_ge hge, heq, List.cons_append]

theorem length_decimal_le {n k : Nat} (hk : 0 < k) (h : n < 10 ^ k) : (decimal n).length ≤ k := by
  rw [decimal, List.length_map]
  exact (Nat.length_toDigits_le_iff (by omega) hk).mpr h

def digitCount (n : Nat) : Nat := Nat.log 10 n + 1

theorem length_decimal (n : Nat) : (decimal n).length = digitCount n := by
  have hpos : 0 < (decimal n).length := List.length_pos_of_ne_nil (decimal_ne_nil n)
  have hlt : n < 10 ^ (decimal n).length := by
    refine (Nat.length_toDigits_le_iff (by omega) hpos).mp ?_
    rw [decimal, List.length_map]
  have hle : (decimal n).length ≤ digitCount n :=
    length_decimal_le (Nat.succ_pos _) (Nat.lt_pow_succ_log_self (by omega) n)
  have hlog : Nat.log 10 n < (decimal n).length := by
    rcases Nat.eq_zero_or_pos n with hzero | hn
    · rw [hzero, Nat.log_zero_right]
      rwa [hzero] at hpos
    · exact Nat.log_lt_of_lt_pow (Nat.ne_of_gt hn) hlt
  unfold digitCount at hle ⊢
  omega

/-! ## Padding -/

theorem digitsValue_replicate_append (k : Nat) (s : Bytes) :
    digitsValue (List.replicate k 48 ++ s) = digitsValue s := by
  induction k with
  | zero => rfl
  | succ k ih =>
    rw [List.replicate_succ, List.cons_append, ← ih]
    rfl

theorem digitsValue_zeroPad (width : Nat) (s : Bytes) :
    digitsValue (zeroPad width s) = digitsValue s :=
  digitsValue_replicate_append _ _

theorem zeroPad_isDigit {width : Nat} {s : Bytes} (h : ∀ b ∈ s, isDigit b = true) :
    ∀ b ∈ zeroPad width s, isDigit b = true := by
  intro b hb
  rcases List.mem_append.mp hb with hb | hb
  · rw [List.eq_of_mem_replicate hb]
    rfl
  · exact h b hb

theorem length_zeroPad (width : Nat) (s : Bytes) :
    (zeroPad width s).length = max width s.length := by
  rw [zeroPad, List.length_append, List.length_replicate]
  omega

/-- A field is as wide as its digits and its sign need, and at least its width. -/
theorem length_formatInt {width : Nat} (hwidth : 0 < width) (z : Int) :
    (formatInt width z).length =
      max width ((decimal z.natAbs).length + if z < 0 then 1 else 0) := by
  by_cases hz : z < 0
  · rw [formatInt, if_pos hz, if_pos hz, List.length_cons, length_zeroPad]
    omega
  · rw [formatInt, if_neg hz, if_neg hz, length_zeroPad, Nat.add_zero]

/-- A field of width two is wider from a hundred on. -/
theorem length_formatInt_two {z : Int} (hlow : -10 < z) (hhigh : z < 1000) :
    (formatInt 2 z).length = 2 + if 100 ≤ z then 1 else 0 := by
  have hthree : (decimal z.natAbs).length ≤ 3 := length_decimal_le (by omega) (by omega)
  rw [length_formatInt (by omega)]
  by_cases hneg : z < 0
  · have hone : (decimal z.natAbs).length ≤ 1 := length_decimal_le (by omega) (by omega)
    rw [if_pos hneg, if_neg (by omega)]
    omega
  · rw [if_neg hneg]
    by_cases hwide : 100 ≤ z
    · have hcount : 2 ≤ Nat.log 10 z.natAbs := by
        refine (Nat.le_log_iff_pow_le (by omega) (by omega)).mpr ?_
        omega
      have hlen := length_decimal z.natAbs
      unfold digitCount at hlen
      rw [if_pos hwide]
      omega
    · have htwo : (decimal z.natAbs).length ≤ 2 := length_decimal_le (by omega) (by omega)
      rw [if_neg hwide]
      omega

/-- A field of width four, for a year. -/
theorem length_formatInt_four {z : Int} (hlow : 0 ≤ z) (hhigh : z < 10000) :
    (formatInt 4 z).length = 4 := by
  have hfour : (decimal z.natAbs).length ≤ 4 := length_decimal_le (by omega) (by omega)
  rw [length_formatInt (by omega), if_neg (by omega)]
  omega

end Text
end OpcuaGateway
