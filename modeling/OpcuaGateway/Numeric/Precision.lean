/-
One value in two formats.

A value that a narrow format has is written in a wide one with zeros behind it:
`wide_fraction_dvd` says how many.  If it is a power of two, there are only zeros.
-/
import OpcuaGateway.Numeric.Binary

namespace OpcuaGateway
namespace Numeric
namespace Format

/-- The value of a pattern, if it is finite. -/
def number? (f : Format) (w : Nat) : Option ℚ := if f.isFinite w then some (f.value w) else none

/-! ## Magnitudes -/

theorem fraction_lt (f : Format) (w : Nat) : f.fraction w < 2 ^ f.fractionBits :=
  Nat.mod_lt _ (Nat.two_pow_pos _)

theorem significand_of_field_eq {f : Format} {w : Nat} (h : f.field w = 0) :
    f.significand w = f.fraction w := if_pos h

theorem significand_of_field_ne {f : Format} {w : Nat} (h : f.field w ≠ 0) :
    f.significand w = 2 ^ f.fractionBits + f.fraction w := if_neg h

theorem significand_lt (f : Format) (w : Nat) : f.significand w < 2 ^ (f.fractionBits + 1) := by
  have hlt := f.fraction_lt w
  rw [Nat.pow_succ]
  by_cases h : f.field w = 0
  · rw [significand_of_field_eq h]
    omega
  · rw [significand_of_field_ne h]
    omega

theorem abs_value (f : Format) (w : Nat) : |f.value w| = f.units w / 2 ^ f.scale := by
  have hpos : (0 : ℚ) ≤ f.units w / 2 ^ f.scale := by positivity
  have hsign : |(if f.negative w then (-1 : ℚ) else 1)| = 1 := by
    by_cases hn : f.negative w = true <;> simp [hn]
  rw [value, abs_mul, hsign, one_mul, abs_of_nonneg hpos]

theorem value_eq_zero_iff (f : Format) (w : Nat) : f.value w = 0 ↔ f.units w = 0 := by
  rw [← abs_eq_zero, abs_value, div_eq_zero_iff]
  have hpos : (2 : ℚ) ^ f.scale ≠ 0 := by positivity
  simp only [hpos, or_false, Nat.cast_eq_zero]

theorem units_eq_zero_iff (f : Format) (w : Nat) :
    f.units w = 0 ↔ f.field w = 0 ∧ f.fraction w = 0 := by
  have hpow : 2 ^ (max (f.field w) 1 - 1) ≠ 0 := by positivity
  rw [units, Nat.mul_eq_zero, or_iff_left hpow]
  by_cases h : f.field w = 0
  · rw [significand_of_field_eq h]
    exact (and_iff_right h).symm
  · rw [significand_of_field_ne h]
    have hhidden : 0 < 2 ^ f.fractionBits := Nat.two_pow_pos _
    omega

/-- Equal values are equal numbers of the smaller unit. -/
theorem units_eq_of_value_eq {f g : Format} {w u : Nat} (hscale : g.scale ≤ f.scale)
    (h : f.value w = g.value u) : f.units w = g.units u * 2 ^ (f.scale - g.scale) := by
  have habs := congrArg (fun q : ℚ => |q|) h
  simp only [abs_value] at habs
  have hpos : ∀ n : Nat, (2 : ℚ) ^ n ≠ 0 := fun n => by positivity
  rw [div_eq_div_iff (hpos _) (hpos _)] at habs
  have hcross : f.units w * 2 ^ g.scale = g.units u * 2 ^ f.scale := by exact_mod_cast habs
  have hsplit : 2 ^ f.scale = 2 ^ (f.scale - g.scale) * 2 ^ g.scale := by
    rw [← Nat.pow_add, Nat.sub_add_cancel hscale]
  rw [hsplit, ← Nat.mul_assoc] at hcross
  exact Nat.eq_of_mul_eq_mul_right (Nat.two_pow_pos _) hcross

/-! ## A narrow value in a wide format -/

section Wide

variable {f g : Format} {w u : Nat} (hscale : g.scale + f.fractionBits ≤ f.scale)
  (h : f.value w = g.value u) (hne : f.value w ≠ 0)
include hscale h hne

/-- A wide pattern of a narrow value is normal. -/
theorem wide_normal : f.field w ≠ 0 := by
  intro hfield
  have hunits := units_eq_of_value_eq (by omega) h
  have hzero : f.units w ≠ 0 := fun hz => hne ((f.value_eq_zero_iff w).mpr hz)
  have hone : 1 ≤ g.units u := by
    rcases Nat.eq_zero_or_pos (g.units u) with hz | hpos
    · rw [hz, Nat.zero_mul] at hunits
      exact absurd hunits hzero
    · exact hpos
  have hsmall : f.units w < 2 ^ f.fractionBits := by
    rw [units, significand_of_field_eq hfield, hfield]
    simpa using f.fraction_lt w
  have hlarge : 2 ^ f.fractionBits ≤ g.units u * 2 ^ (f.scale - g.scale) := by
    calc 2 ^ f.fractionBits ≤ 2 ^ (f.scale - g.scale) :=
          Nat.pow_le_pow_right (by omega) (by omega)
      _ = 1 * 2 ^ (f.scale - g.scale) := (Nat.one_mul _).symm
      _ ≤ g.units u * 2 ^ (f.scale - g.scale) := Nat.mul_le_mul_right _ hone
  omega

/-- The two significands, with the powers of two that make up the difference. -/
theorem significands_eq :
    (2 ^ f.fractionBits + f.fraction w) * 2 ^ (max (f.field w) 1 - 1) =
      g.significand u * 2 ^ (max (g.field u) 1 - 1 + (f.scale - g.scale)) := by
  have hunits := units_eq_of_value_eq (by omega) h
  have hnormal := wide_normal hscale h hne
  rw [units, units, significand_of_field_ne hnormal, Nat.mul_assoc, ← Nat.pow_add] at hunits
  exact hunits

/-- The fraction ends in as many zeros as the wide format has more digits. -/
theorem wide_fraction_dvd (hwide : g.fractionBits < f.fractionBits) :
    2 ^ (f.fractionBits - g.fractionBits) ∣ f.fraction w := by
  have heq := significands_eq hscale h hne
  have hlt := g.significand_lt u
  generalize max (f.field w) 1 - 1 = e at heq
  generalize max (g.field u) 1 - 1 + (f.scale - g.scale) = e' at heq
  have hhidden : 2 ^ (f.fractionBits - g.fractionBits) ∣ 2 ^ f.fractionBits :=
    Nat.pow_dvd_pow 2 (Nat.sub_le _ _)
  rcases Nat.lt_or_ge e' e with hless | hmore
  · exfalso
    have hsplit : 2 ^ e = 2 ^ (e - e') * 2 ^ e' := by
      rw [← Nat.pow_add, Nat.sub_add_cancel (Nat.le_of_lt hless)]
    rw [hsplit, ← Nat.mul_assoc] at heq
    have hcancel := Nat.eq_of_mul_eq_mul_right (Nat.two_pow_pos e') heq
    have htwo : 2 ≤ 2 ^ (e - e') := by
      calc 2 = 2 ^ 1 := rfl
        _ ≤ 2 ^ (e - e') := Nat.pow_le_pow_right (by omega) (by omega)
    have hlarge : 2 ^ f.fractionBits * 2 ≤ (2 ^ f.fractionBits + f.fraction w) * 2 ^ (e - e') :=
      Nat.mul_le_mul (Nat.le_add_right _ _) htwo
    have hsmall : 2 ^ (g.fractionBits + 1) ≤ 2 ^ f.fractionBits :=
      Nat.pow_le_pow_right (by omega) hwide
    omega
  · have hsplit : 2 ^ e' = 2 ^ (e' - e) * 2 ^ e := by
      rw [← Nat.pow_add, Nat.sub_add_cancel hmore]
    rw [hsplit, ← Nat.mul_assoc] at heq
    have hcancel := Nat.eq_of_mul_eq_mul_right (Nat.two_pow_pos e) heq
    have hshift : f.fractionBits - g.fractionBits ≤ e' - e := by
      by_contra hshort
      have hpow : 2 ^ (g.fractionBits + 1) * 2 ^ (e' - e) ≤ 2 ^ f.fractionBits := by
        rw [← Nat.pow_add]
        exact Nat.pow_le_pow_right (by omega) (by omega)
      have hless : g.significand u * 2 ^ (e' - e) < 2 ^ (g.fractionBits + 1) * 2 ^ (e' - e) :=
        Nat.mul_lt_mul_of_pos_right hlt (Nat.two_pow_pos _)
      omega
    have hdvd : 2 ^ (f.fractionBits - g.fractionBits) ∣ 2 ^ f.fractionBits + f.fraction w := by
      rw [hcancel]
      exact Nat.dvd_mul_left_of_dvd (Nat.pow_dvd_pow 2 hshift) _
    exact (Nat.dvd_add_right hhidden).mp hdvd

/-- A power of two has no fraction in either format. -/
theorem wide_fraction_eq_zero (hnarrow : g.fraction u = 0) : f.fraction w = 0 := by
  have heq := significands_eq hscale h hne
  have hfield : g.field u ≠ 0 := by
    intro hz
    apply hne
    rw [h, value_eq_zero_iff, units_eq_zero_iff]
    exact ⟨hz, hnarrow⟩
  rw [significand_of_field_ne hfield, hnarrow, Nat.add_zero, ← Nat.pow_add] at heq
  have hlt := f.fraction_lt w
  generalize max (f.field w) 1 - 1 = e at heq
  generalize g.fractionBits + (max (g.field u) 1 - 1 + (f.scale - g.scale)) = e' at heq
  have hlow : 2 ^ (f.fractionBits + e) ≤ 2 ^ e' := by
    rw [← heq, Nat.pow_add]
    exact Nat.mul_le_mul_right _ (Nat.le_add_right _ _)
  have hhigh : 2 ^ e' < 2 ^ (f.fractionBits + 1 + e) := by
    rw [← heq, Nat.pow_add, Nat.pow_succ]
    exact Nat.mul_lt_mul_of_pos_right (by omega) (Nat.two_pow_pos e)
  have hle := (Nat.pow_le_pow_iff_right (by omega)).mp hlow
  have hlt' := (Nat.pow_lt_pow_iff_right (by omega)).mp hhigh
  have hexp : e' = f.fractionBits + e := by omega
  rw [hexp, Nat.pow_add] at heq
  have hcancel := Nat.eq_of_mul_eq_mul_right (Nat.two_pow_pos e) heq
  omega

end Wide

end Format
end Numeric
end OpcuaGateway
