/-
The lexicographic order of texts that are built from fields of fixed width.
-/
import Mathlib.Tactic.Ring
import OpcuaGateway.Text.Fixed

namespace OpcuaGateway
namespace Text

/-! ## Blocks of one length -/

/-- The first block decides, unless it is the same. -/
theorem append_lt_append_iff {s t u v : Bytes} (h : s.length = t.length) :
    s ++ u < t ++ v ↔ s < t ∨ s = t ∧ u < v := by
  induction s generalizing t with
  | nil =>
    have ht : t = [] := List.length_eq_zero_iff.mp h.symm
    rw [ht]
    simp
  | cons b s ih =>
    cases t with
    | nil => cases h
    | cons c t =>
      have hrest := ih (Nat.succ.inj h)
      rw [List.cons_append, List.cons_append, List.cons_lt_cons_iff, List.cons_lt_cons_iff, hrest,
        List.cons.injEq]
      constructor
      · intro hlt
        rcases hlt with hbc | ⟨hbc, hst | ⟨hst, huv⟩⟩
        · exact Or.inl (Or.inl hbc)
        · exact Or.inl (Or.inr ⟨hbc, hst⟩)
        · exact Or.inr ⟨⟨hbc, hst⟩, huv⟩
      · intro hlt
        rcases hlt with (hbc | ⟨hbc, hst⟩) | ⟨⟨hbc, hst⟩, huv⟩
        · exact Or.inl hbc
        · exact Or.inr ⟨hbc, Or.inl hst⟩
        · exact Or.inr ⟨hbc, Or.inr ⟨hst, huv⟩⟩

/-! ## Digits -/

theorem digitsValue_cons (b : UInt8) (s : Bytes) :
    digitsValue (b :: s) = (b.toNat - 48) * 10 ^ s.length + digitsValue s := by
  have hone : digitsValue [b] = b.toNat - 48 := by simp [digitsValue]
  rw [← List.singleton_append, digitsValue_append, hone]

theorem isDigit_range {b : UInt8} (h : isDigit b = true) : 48 ≤ b.toNat ∧ b.toNat ≤ 57 := by
  rw [isDigit, Bool.and_eq_true, decide_eq_true_eq, decide_eq_true_eq] at h
  exact ⟨UInt8.le_iff_toNat_le.mp h.1, UInt8.le_iff_toNat_le.mp h.2⟩

theorem digitsValue_lt {s : Bytes} (h : ∀ b ∈ s, isDigit b = true) :
    digitsValue s < 10 ^ s.length := by
  induction s with
  | nil => exact Nat.one_pos
  | cons b s ih =>
    have hrest := ih fun c hc => h c (List.mem_cons_of_mem b hc)
    have hb := isDigit_range (h b List.mem_cons_self)
    have hdigit : (b.toNat - 48) * 10 ^ s.length ≤ 9 * 10 ^ s.length :=
      Nat.mul_le_mul_right _ (by omega)
    rw [digitsValue_cons, List.length_cons, Nat.pow_succ]
    omega

/-- Digits of one length compare as the numbers they stand for. -/
theorem digits_lt_iff {s t : Bytes} (hs : ∀ b ∈ s, isDigit b = true)
    (ht : ∀ b ∈ t, isDigit b = true) (h : s.length = t.length) :
    s < t ↔ digitsValue s < digitsValue t := by
  induction s generalizing t with
  | nil =>
    have hnil : t = [] := List.length_eq_zero_iff.mp h.symm
    rw [hnil]
    simp
  | cons b s ih =>
    cases t with
    | nil => cases h
    | cons c t =>
      have hlen : s.length = t.length := Nat.succ.inj h
      have hsTail : ∀ x ∈ s, isDigit x = true := fun x hx => hs x (List.mem_cons_of_mem b hx)
      have htTail : ∀ x ∈ t, isDigit x = true := fun x hx => ht x (List.mem_cons_of_mem c hx)
      have hb := isDigit_range (hs b List.mem_cons_self)
      have hc := isDigit_range (ht c List.mem_cons_self)
      have hsmall := digitsValue_lt hsTail
      have hsmall' := digitsValue_lt htTail
      rw [List.cons_lt_cons_iff, ih hsTail htTail hlen, digitsValue_cons, digitsValue_cons, hlen,
        UInt8.lt_iff_toNat_lt]
      rw [hlen] at hsmall
      rcases Nat.lt_trichotomy b.toNat c.toNat with hlt | heq | hgt
      · have hstep : (b.toNat - 48 + 1) * 10 ^ t.length ≤ (c.toNat - 48) * 10 ^ t.length :=
          Nat.mul_le_mul_right _ (by omega)
        rw [Nat.add_mul, Nat.one_mul] at hstep
        exact iff_of_true (Or.inl hlt) (by omega)
      · have hbc : b = c := UInt8.toNat_inj.mp heq
        rw [hbc]
        simp
      · have hstep : (c.toNat - 48 + 1) * 10 ^ t.length ≤ (b.toNat - 48) * 10 ^ t.length :=
          Nat.mul_le_mul_right _ (by omega)
        rw [Nat.add_mul, Nat.one_mul] at hstep
        refine iff_of_false ?_ (by omega)
        intro hor
        rcases hor with hlt | ⟨heq, _⟩
        · omega
        · rw [heq] at hgt
          omega

/-! ## Fields -/

theorem formatInt_natCast (width n : Nat) :
    formatInt width (n : Int) = zeroPad width (decimal n) := by
  rw [formatInt, if_neg (by omega)]
  rfl

theorem length_field {width n : Nat} (hwidth : 0 < width) (h : n < 10 ^ width) :
    (formatInt width (n : Int)).length = width := by
  rw [formatInt_natCast, length_zeroPad, Nat.max_eq_left (length_decimal_le hwidth h)]

theorem field_lt_iff {width m n : Nat} (hwidth : 0 < width) (hm : m < 10 ^ width)
    (hn : n < 10 ^ width) : formatInt width (m : Int) < formatInt width (n : Int) ↔ m < n := by
  have hlen : (formatInt width (m : Int)).length = (formatInt width (n : Int)).length := by
    rw [length_field hwidth hm, length_field hwidth hn]
  rw [formatInt_natCast, formatInt_natCast] at hlen ⊢
  rw [digits_lt_iff (zeroPad_isDigit (decimal_isDigit m)) (zeroPad_isDigit (decimal_isDigit n))
      hlen, digitsValue_zeroPad, digitsValue_zeroPad, digitsValue_decimal, digitsValue_decimal]

theorem field_inj {width m n : Nat} (h : formatInt width (m : Int) = formatInt width (n : Int)) :
    m = n := by
  have hvalue := congrArg digitsValue h
  rwa [formatInt_natCast, formatInt_natCast, digitsValue_zeroPad, digitsValue_zeroPad,
    digitsValue_decimal, digitsValue_decimal] at hvalue

/-- A field, what separates it from the rest, and the rest. -/
theorem field_append_lt_iff {width m n : Nat} (hwidth : 0 < width) (hm : m < 10 ^ width)
    (hn : n < 10 ^ width) (separator u v : Bytes) :
    formatInt width (m : Int) ++ (separator ++ u) < formatInt width (n : Int) ++ (separator ++ v) ↔
      m < n ∨ m = n ∧ u < v := by
  have hlen : (formatInt width (m : Int)).length = (formatInt width (n : Int)).length := by
    rw [length_field hwidth hm, length_field hwidth hn]
  have hsame : ¬ separator < separator := List.lt_irrefl separator
  rw [append_lt_append_iff hlen, field_lt_iff hwidth hm hn, append_lt_append_iff rfl]
  constructor
  · intro h
    rcases h with hlt | ⟨heq, hbad | ⟨_, huv⟩⟩
    · exact Or.inl hlt
    · exact absurd hbad hsame
    · exact Or.inr ⟨field_inj heq, huv⟩
  · intro h
    rcases h with hlt | ⟨heq, huv⟩
    · exact Or.inl hlt
    · exact Or.inr ⟨by rw [heq], Or.inr ⟨rfl, huv⟩⟩

end Text
end OpcuaGateway
