import Mathlib.Data.List.Basic

namespace OpcuaGateway
namespace Text

abbrev Bytes := List UInt8

/-- What holds of the numbers below 256 holds of the bytes. -/
theorem forall_byte {P : UInt8 → Prop} (h : ∀ n, n < 256 → P n.toUInt8) (b : UInt8) : P b := by
  have hb := h b.toNat b.toNat_lt
  rwa [Nat.toUInt8_eq, UInt8.ofNat_toNat] at hb

/-- The bytes of a literal of ASCII characters. -/
def ascii (s : String) : Bytes := s.toList.map fun c => c.toNat.toUInt8

/-- What a function that expects a NUL-terminated string reads of a buffer. -/
def cString (buffer : Bytes) : Bytes := buffer.takeWhile fun b => b ≠ 0

theorem cString_append_zero {s : Bytes} (h : (0 : UInt8) ∉ s) (rest : Bytes) :
    cString (s ++ 0 :: rest) = s := by
  induction s with
  | nil => simp [cString]
  | cons b s ih =>
    have hb : b ≠ 0 := fun e => h (e ▸ List.mem_cons_self)
    have hs : (0 : UInt8) ∉ s := fun hmem => h (List.mem_cons_of_mem b hmem)
    have hrest := ih hs
    simp only [cString] at hrest ⊢
    rw [List.cons_append, List.takeWhile_cons_of_pos (by simpa using hb), hrest]

theorem cString_append_nul (s : Bytes) : cString (s ++ [0]) = cString s := by
  induction s with
  | nil => rfl
  | cons b s ih =>
    unfold cString at ih ⊢
    rw [List.cons_append, List.takeWhile_cons, List.takeWhile_cons, ih]

/-- The bytes of some characters. -/
def Utf8 (s : Bytes) : Prop := ∃ chars : List Char, s = chars.flatMap String.utf8EncodeChar

theorem Utf8.append {s t : Bytes} (hs : Utf8 s) (ht : Utf8 t) : Utf8 (s ++ t) := by
  obtain ⟨first, rfl⟩ := hs
  obtain ⟨second, rfl⟩ := ht
  exact ⟨first ++ second, List.flatMap_append.symm⟩

theorem utf8_of_ascii {s : Bytes} (h : (s.all fun b => b < 128) = true) : Utf8 s := by
  have hlow : ∀ b ∈ s, b < 128 := fun b hb => of_decide_eq_true (List.all_eq_true.mp h b hb)
  clear h
  refine ⟨s.map fun b => Char.ofNat b.toNat, ?_⟩
  induction s with
  | nil => rfl
  | cons b s ih =>
    have hb : b.toNat < 128 := UInt8.lt_iff_toNat_lt.mp (hlow b List.mem_cons_self)
    have hone : String.utf8EncodeChar (Char.ofNat b.toNat) = [b] := by
      have hvalid : b.toNat.isValidChar := Or.inl (by omega)
      have hval : (Char.ofNat b.toNat).val.toNat = b.toNat := by
        rw [Char.ofNat, dif_pos hvalid]
        rfl
      rw [String.utf8EncodeChar]
      simp only [hval]
      rw [if_pos (by omega), UInt8.ofNat_toNat]
    rw [List.map_cons, List.flatMap_cons, hone,
      ← ih fun c hc => hlow c (List.mem_cons_of_mem b hc)]
    rfl

end Text
end OpcuaGateway
