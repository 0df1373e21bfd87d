/-
The number of a DOUBLE sample.

The DOUBLE branch reads the first four bytes of the value through a `float *`, as the
FLOAT branch does.  On the little-endian target these are the low half of the double,
where a value that a float can represent has little but zeros.
-/
import OpcuaGateway.Numeric.Precision
import OpcuaGateway.Poller.Pass

namespace OpcuaGateway
namespace Poller

open Effect Effect.Action Opcua Rtc Text Numeric Idf

/-! ## The low half of a double -/

theorem binary32_number_zero : binary32.number? 0 = some 0 := by
  rw [Format.number?, if_pos (by decide)]
  exact congrArg some ((binary32.value_eq_zero_iff 0).mpr rfl)

theorem field_fraction_zero_iff (w : Nat) :
    binary64.field w = 0 ∧ binary64.fraction w = 0 ↔ w % 2 ^ 63 = 0 := by
  show w / 2 ^ 52 % 2 ^ 11 = 0 ∧ w % 2 ^ 52 = 0 ↔ w % 2 ^ 63 = 0
  omega

/-- Plus and minus zero are the doubles of value zero. -/
theorem isZero_iff (d : UInt64) :
    binary64.value d.toNat = 0 ↔ d = 0 ∨ d = 0x8000000000000000 := by
  rw [Format.value_eq_zero_iff, Format.units_eq_zero_iff, field_fraction_zero_iff]
  constructor
  · intro h
    have hlt := d.toNat_lt
    have hcases : d.toNat = 0 ∨ d.toNat = 2 ^ 63 := by omega
    rcases hcases with hz | hz
    · exact Or.inl (UInt64.toNat_inj.mp hz)
    · exact Or.inr (UInt64.toNat_inj.mp hz)
  · rintro (rfl | rfl) <;> rfl

/-- The low half denotes the value of the whole only if that is zero. -/
theorem low_number_iff (d : UInt64) :
    binary32.number? d.toUInt32.toNat = some (binary64.value d.toNat) ↔
      d = 0 ∨ d = 0x8000000000000000 := by
  rw [← isZero_iff]
  constructor
  · intro hnumber
    by_contra hne
    obtain ⟨-, hvalue⟩ := Option.ite_none_right_eq_some.mp hnumber
    have hsame := (Option.some.inj hvalue).symm
    have hscale : binary32.scale + binary64.fractionBits ≤ binary64.scale := by decide
    have hdvd : 2 ^ 29 ∣ binary64.fraction d.toNat :=
      Format.wide_fraction_dvd hscale hsame hne (by decide)
    have hlow : d.toUInt32.toNat = binary64.fraction d.toNat % 2 ^ 32 := by
      rw [UInt64.toNat_toUInt32, Format.fraction]
      show d.toNat % 2 ^ 32 = d.toNat % 2 ^ 52 % 2 ^ 32
      omega
    -- So the low half has no fraction of its own, and the double has none at all.
    have hnarrow : binary32.fraction d.toUInt32.toNat = 0 := by
      rw [hlow, Format.fraction]
      show binary64.fraction d.toNat % 2 ^ 32 % 2 ^ 23 = 0
      omega
    have hwide := Format.wide_fraction_eq_zero hscale hsame hne hnarrow
    rw [hwide] at hlow
    rw [hlow] at hnumber
    have hzero := Option.some.inj (binary32_number_zero.symm.trans hnumber)
    exact hne hzero.symm
  · intro hzero
    have hlow : d.toUInt32.toNat = 0 := by
      rcases (isZero_iff d).mp hzero with rfl | rfl <;> rfl
    rw [hlow, hzero, binary32_number_zero]

/-! ## The two branches -/

/-- The branch for `value` reads the pattern `bits` and formats that. -/
def Formats (env : PassEnv) (i : Nat) (nodeName : Bytes) (value : UaVariant) (s : TaskState)
    (bits : UInt32) : Prop :=
  (castFloat value.data).run s = { log := [], exit := .ok (bits, s) } ∧
    ((publishValue env i nodeName value).run s).log =
      sampleLog (env.rtc i) (nodeTopic (nodeIds i)) nodeName (formatFixed binary32 bits.toNat)
        (timeAfter (env.rtc i) s.localTime)

theorem formats_float (env : PassEnv) {i : Nat} (hi : i < 10) (nodeName : Bytes)
    {value : UaVariant} {bits : UInt32} (h : value.content? = some (.float bits))
    (s : TaskState) : Formats env i nodeName value s bits := by
  have hsample : value.content?.bind sampleOf = some (.floatValue bits) := by
    rw [h]
    rfl
  refine ⟨?_, ?_⟩
  · rw [UaVariant.data_of_content? h]
    rfl
  · rw [publishValue_sampled env hi nodeName hsample s]
    rfl

theorem formats_double (env : PassEnv) {i : Nat} (hi : i < 10) (nodeName : Bytes)
    {value : UaVariant} {bits : UInt64} (h : value.content? = some (.double bits))
    (s : TaskState) : Formats env i nodeName value s bits.toUInt32 := by
  have hsample : value.content?.bind sampleOf = some (.doubleValue bits) := by
    rw [h]
    rfl
  refine ⟨?_, ?_⟩
  · rw [UaVariant.data_of_content? h]
    rfl
  · rw [publishValue_sampled env hi nodeName hsample s]
    rfl

/-- The number formatted for a double is its own exactly if it is zero, and so it is
the number formatted for a float of the same value. -/
theorem double_formatted_iff (env : PassEnv) {i : Nat} (hi : i < 10) (nodeName : Bytes)
    {value : UaVariant} {d : UInt64} (hvalue : value.content? = some (.double d))
    (s : TaskState) :
    Formats env i nodeName value s d.toUInt32 ∧
      (binary32.number? d.toUInt32.toNat = some (binary64.value d.toNat) ↔
        d = 0 ∨ d = 0x8000000000000000) ∧
      ∀ (value' : UaVariant) (b : UInt32), value'.content? = some (.float b) →
        binary32.number? b.toNat = some (binary64.value d.toNat) →
          Formats env i nodeName value' s b ∧
            (binary32.number? d.toUInt32.toNat = binary32.number? b.toNat ↔
              d = 0 ∨ d = 0x8000000000000000) := by
  refine ⟨formats_double env hi nodeName hvalue s, low_number_iff d, ?_⟩
  intro value' b hvalue' hsame
  refine ⟨formats_float env hi nodeName hvalue' s, ?_⟩
  rw [hsame]
  exact low_number_iff d

/-- One and a half. -/
def oneAndHalf : UInt64 := 0x3FF8000000000000

theorem double_formatted_iff_oneAndHalf :
    binary32.number? oneAndHalf.toUInt32.toNat = some (binary64.value oneAndHalf.toNat) ↔
      oneAndHalf = 0 ∨ oneAndHalf = 0x8000000000000000 :=
  have hvalue : (UaVariant.scalar (.double oneAndHalf)).content? = some (.double oneAndHalf) := rfl
  (double_formatted_iff pickyEnv (i := 0) (by decide) (ascii "p") hvalue TaskState.start).2.1

/-- A float can represent it, and the DOUBLE branch formats zero. -/
theorem oneAndHalf_lost :
    binary64.isFinite oneAndHalf.toNat = true ∧
      binary32.number? 0x3FC00000 = some (binary64.value oneAndHalf.toNat) ∧
      Formats pickyEnv 0 (ascii "p") (UaVariant.scalar (.double oneAndHalf)) TaskState.start 0 ∧
      binary32.number? 0 ≠ some (binary64.value oneAndHalf.toNat) := by
  have hvalue : (UaVariant.scalar (.double oneAndHalf)).content? = some (.double oneAndHalf) := rfl
  refine ⟨by decide, by decide +kernel, ?_, by decide +kernel⟩
  exact formats_double pickyEnv (by decide) (ascii "p") hvalue TaskState.start

end Poller
end OpcuaGateway
