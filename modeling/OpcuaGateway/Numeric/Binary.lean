/-
Binary interchange formats and rounding to a multiple of a unit fraction.

A pattern of the format with `p` fraction bits and `e` exponent bits is a natural
number below `2 ^ (1 + e + p)`.  Every finite value is a whole number of the
format's smallest positive value, `2 ^ -scale`; `units` is that number.
-/
import Mathlib.Algebra.Order.Field.Rat
import Mathlib.Tactic.Linarith
import Mathlib.Tactic.FieldSimp
import Mathlib.Tactic.Ring
import Mathlib.Tactic.Positivity

namespace OpcuaGateway
namespace Numeric

structure Format where
  fractionBits : Nat
  exponentBits : Nat

def binary32 : Format := { fractionBits := 23, exponentBits := 8 }

def binary64 : Format := { fractionBits := 52, exponentBits := 11 }

namespace Format

def fraction (f : Format) (w : Nat) : Nat := w % 2 ^ f.fractionBits

def field (f : Format) (w : Nat) : Nat := w / 2 ^ f.fractionBits % 2 ^ f.exponentBits

def negative (f : Format) (w : Nat) : Bool :=
  w / 2 ^ (f.fractionBits + f.exponentBits) % 2 == 1

/-- Neither an infinity nor a NaN. -/
def isFinite (f : Format) (w : Nat) : Bool := f.field w != 2 ^ f.exponentBits - 1

def isNan (f : Format) (w : Nat) : Bool := !f.isFinite w && f.fraction w != 0

/-- The fraction, with the hidden bit of a normal pattern. -/
def significand (f : Format) (w : Nat) : Nat :=
  if f.field w = 0 then f.fraction w else 2 ^ f.fractionBits + f.fraction w

def scale (f : Format) : Nat := 2 ^ (f.exponentBits - 1) - 2 + f.fractionBits

def units (f : Format) (w : Nat) : Nat := f.significand w * 2 ^ (max (f.field w) 1 - 1)

def value (f : Format) (w : Nat) : ℚ :=
  (if f.negative w then -1 else 1) * (f.units w / 2 ^ f.scale)

end Format

/-! ## Rounding to nearest, ties to even -/

/-- `n / d` rounded to the nearest whole number. -/
def roundHalfEven (n d : Nat) : Nat :=
  let q := n / d
  let r := n % d
  if 2 * r < d ∨ (2 * r = d ∧ q % 2 = 0) then q else q + 1

/-- The result is within half a unit of the quotient. -/
theorem roundHalfEven_bounds {n d : Nat} (hd : 0 < d) :
    2 * (roundHalfEven n d * d) ≤ 2 * n + d ∧ 2 * n ≤ 2 * (roundHalfEven n d * d) + d := by
  have hdiv : n / d * d + n % d = n := by
    rw [Nat.mul_comm]
    exact Nat.div_add_mod n d
  have hmod : n % d < d := Nat.mod_lt n hd
  unfold roundHalfEven
  by_cases h : 2 * (n % d) < d ∨ (2 * (n % d) = d ∧ n / d % 2 = 0)
  · rw [if_pos h]
    omega
  · rw [if_neg h, Nat.add_mul, Nat.one_mul]
    omega

theorem roundHalfEven_even_of_tie {n d : Nat} (hd : 0 < d)
    (htie : 2 * n = 2 * (roundHalfEven n d * d) + d ∨ 2 * (roundHalfEven n d * d) = 2 * n + d) :
    roundHalfEven n d % 2 = 0 := by
  have hdiv : n / d * d + n % d = n := by
    rw [Nat.mul_comm]
    exact Nat.div_add_mod n d
  have hmod : n % d < d := Nat.mod_lt n hd
  unfold roundHalfEven at htie ⊢
  by_cases h : 2 * (n % d) < d ∨ (2 * (n % d) = d ∧ n / d % 2 = 0)
  · rw [if_pos h] at htie ⊢
    omega
  · rw [if_neg h, Nat.add_mul, Nat.one_mul] at htie
    rw [if_neg h]
    omega

/-! ## A finite pattern rounded to six decimal places -/

namespace Format

/-- The magnitude in millionths. -/
def millionths (f : Format) (w : Nat) : Nat :=
  roundHalfEven (f.units w * 10 ^ 6) (2 ^ f.scale)

/-- The value rounded to six decimal places. -/
def sixPlaces (f : Format) (w : Nat) : ℚ :=
  (if f.negative w then -1 else 1) * (f.millionths w / 10 ^ 6)

theorem millionths_near (f : Format) (w : Nat) :
    |(f.millionths w : ℚ) / 10 ^ 6 - f.units w / 2 ^ f.scale| ≤ 1 / (2 * 10 ^ 6) := by
  have hpos : (0 : ℚ) < 2 ^ f.scale := by positivity
  have h := roundHalfEven_bounds (n := f.units w * 10 ^ 6) (d := 2 ^ f.scale) (by positivity)
  change 2 * (f.millionths w * 2 ^ f.scale) ≤ 2 * (f.units w * 10 ^ 6) + 2 ^ f.scale ∧
    2 * (f.units w * 10 ^ 6) ≤ 2 * (f.millionths w * 2 ^ f.scale) + 2 ^ f.scale at h
  have hle : 2 * ((f.millionths w : ℚ) * 2 ^ f.scale) ≤
      2 * (f.units w * 10 ^ 6) + 2 ^ f.scale := by exact_mod_cast h.1
  have hge : 2 * ((f.units w : ℚ) * 10 ^ 6) ≤
      2 * (f.millionths w * 2 ^ f.scale) + 2 ^ f.scale := by exact_mod_cast h.2
  rw [div_sub_div _ _ (by norm_num) (ne_of_gt hpos), abs_le]
  constructor
  · rw [← neg_div, div_le_div_iff₀ (by norm_num) (by positivity)]
    linarith
  · rw [div_le_div_iff₀ (by positivity) (by norm_num)]
    linarith

/-- Rounding moves a value by at most half a millionth. -/
theorem sixPlaces_near (f : Format) (w : Nat) :
    |f.sixPlaces w - f.value w| ≤ 1 / (2 * 10 ^ 6) := by
  have h := f.millionths_near w
  unfold sixPlaces value
  rw [← mul_sub, abs_mul]
  have hsign : |(if f.negative w then (-1 : ℚ) else 1)| = 1 := by
    by_cases hn : f.negative w = true <;> simp [hn]
  rw [hsign, one_mul]
  exact h

end Format
end Numeric
end OpcuaGateway
