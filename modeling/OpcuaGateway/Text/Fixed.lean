import OpcuaGateway.Numeric.Binary
import OpcuaGateway.Text.Decimal

namespace OpcuaGateway
namespace Text

open Numeric

/-- A number of millionths with its point. -/
def formatMillionths (negative : Bool) (q : Nat) : Bytes :=
  (if negative then [45] else []) ++
    (decimal (q / 10 ^ 6) ++ 46 :: zeroPad 6 (decimal (q % 10 ^ 6)))

/-- `%f` of a floating-point pattern. -/
def formatFixed (f : Format) (w : Nat) : Bytes :=
  if f.isFinite w then formatMillionths (f.negative w) (f.millionths w)
  else (if f.negative w then [45] else []) ++ (if f.isNan w then ascii "nan" else ascii "inf")

theorem digitsValue_append (s t : Bytes) :
    digitsValue (s ++ t) = digitsValue s * 10 ^ t.length + digitsValue t := by
  induction t using List.reverseRecOn with
  | nil => simp [digitsValue]
  | append_singleton t b ih =>
    rw [← List.append_assoc, digitsValue_append_singleton, ih, digitsValue_append_singleton,
      List.length_append, List.length_singleton, Nat.pow_succ]
    ring

/-- Whole part and six places together spell the number of millionths. -/
theorem digitsValue_millionths (q : Nat) :
    digitsValue (decimal (q / 10 ^ 6) ++ zeroPad 6 (decimal (q % 10 ^ 6))) = q := by
  have hlen : (decimal (q % 10 ^ 6)).length ≤ 6 :=
    length_decimal_le (by omega) (Nat.mod_lt q (by norm_num))
  rw [digitsValue_append, digitsValue_zeroPad, digitsValue_decimal, digitsValue_decimal,
    length_zeroPad, Nat.max_eq_left hlen]
  omega

theorem length_formatMillionths (negative : Bool) (q : Nat) :
    (formatMillionths negative q).length =
      (if negative then 1 else 0) + ((decimal (q / 10 ^ 6)).length + 7) := by
  have hlen : (decimal (q % 10 ^ 6)).length ≤ 6 :=
    length_decimal_le (by omega) (Nat.mod_lt q (by norm_num))
  rw [formatMillionths, List.length_append, List.length_append, List.length_cons,
    length_zeroPad, Nat.max_eq_left hlen]
  cases negative <;> rfl

end Text
end OpcuaGateway
