/-
The strings of JSON: a grammar for what stands between the quotes, and a parser
that accepts exactly that.
-/
import Mathlib.Tactic.SplitIfs
import OpcuaGateway.Json.Basic

namespace OpcuaGateway
namespace Json

open Text

/-! ## The grammar -/

/-- A byte that stands for itself. -/
def isPlain (b : UInt8) : Bool := 32 ≤ b && b != 34 && b != 92

def shortEscape (b : UInt8) : Option UInt8 :=
  if b = 34 ∨ b = 92 ∨ b = 47 then some b
  else if b = 98 then some 8
  else if b = 102 then some 12
  else if b = 110 then some 10
  else if b = 114 then some 13
  else if b = 116 then some 9
  else none

def hexValue (b : UInt8) : Option Nat :=
  if 48 ≤ b ∧ b ≤ 57 then some (b.toNat - 48)
  else if 65 ≤ b ∧ b ≤ 70 then some (b.toNat - 55)
  else if 97 ≤ b ∧ b ≤ 102 then some (b.toNat - 87)
  else none

def hexUnit (a b c d : UInt8) : Option Nat := do
  let a ← hexValue a
  let b ← hexValue b
  let c ← hexValue c
  let d ← hexValue d
  some (((a * 16 + b) * 16 + c) * 16 + d)

def isHigh (unit : Nat) : Bool := 0xd800 ≤ unit && unit < 0xdc00

def isLow (unit : Nat) : Bool := 0xdc00 ≤ unit && unit < 0xe000

def scalar (n : Nat) : Bytes := String.utf8EncodeChar (Char.ofNat n)

def surrogates (high low : Nat) : Nat := 0x10000 + (high - 0xd800) * 0x400 + (low - 0xdc00)

/-- What the bytes after a backslash stand for. -/
inductive Escape : Bytes → Bytes → Prop
  | short {b c : UInt8} (h : shortEscape b = some c) : Escape [b] [c]
  | unit {a b c d : UInt8} {u : Nat} (h : hexUnit a b c d = some u) (hhigh : isHigh u = false)
      (hlow : isLow u = false) : Escape [117, a, b, c, d] (scalar u)
  | pair {a b c d e f g i : UInt8} {u v : Nat} (hu : hexUnit a b c d = some u)
      (hhigh : isHigh u = true) (hv : hexUnit e f g i = some v) (hlow : isLow v = true) :
      Escape [117, a, b, c, d, 92, 117, e, f, g, i] (scalar (surrogates u v))

/-- `Spells raw s`: between quotes, `raw` stands for `s`. -/
inductive Spells : Bytes → Bytes → Prop
  | nil : Spells [] []
  | plain {b : UInt8} {raw s : Bytes} (hb : isPlain b = true) (h : Spells raw s) :
      Spells (b :: raw) (b :: s)
  | escape {e piece raw s : Bytes} (he : Escape e piece) (h : Spells raw s) :
      Spells (92 :: (e ++ raw)) (piece ++ s)

/-! ## The parser -/

def ofOption {α : Type} : Option α → Parser α
  | some a => pure a
  | none => fail

def hexDigits : Parser Nat := do
  let a ← next
  let b ← next
  let c ← next
  let d ← next
  ofOption (hexUnit a b c d)

def escape : Parser Bytes := do
  let b ← next
  if b = 117 then do
    let unit ← hexDigits
    if isHigh unit then do
      expect 92
      expect 117
      let low ← hexDigits
      if isLow low then pure (scalar (surrogates unit low)) else fail
    else if isLow unit then fail
    else pure (scalar unit)
  else do
    let c ← ofOption (shortEscape b)
    pure [c]

def stringBody : Nat → Parser Bytes
  | 0 => fail
  | fuel + 1 => do
    let b ← next
    if b = 34 then pure []
    else if b = 92 then do
      let piece ← escape
      let more ← stringBody fuel
      pure (piece ++ more)
    else if isPlain b then do
      let more ← stringBody fuel
      pure (b :: more)
    else fail

def string : Parser Bytes := fun input => stringBody (input.length + 1) input

/-! ## The parser accepts what the grammar spells -/

theorem ofOption_eq_some {α : Type} {o : Option α} {input rest : Bytes} {a : α}
    (h : ofOption o input = some (a, rest)) : o = some a ∧ rest = input := by
  cases o with
  | none => cases h
  | some b =>
    cases h
    exact ⟨rfl, rfl⟩

theorem hexDigits_eq_some {input rest : Bytes} {u : Nat}
    (h : hexDigits input = some (u, rest)) :
    ∃ a b c d, input = a :: b :: c :: d :: rest ∧ hexUnit a b c d = some u := by
  obtain ⟨a, _, ha, h⟩ := bind_eq_some h
  obtain ⟨b, _, hb, h⟩ := bind_eq_some h
  obtain ⟨c, _, hc, h⟩ := bind_eq_some h
  obtain ⟨d, _, hd, h⟩ := bind_eq_some h
  obtain ⟨hunit, hrest⟩ := ofOption_eq_some h
  refine ⟨a, b, c, d, ?_, hunit⟩
  rw [next_eq_some ha, next_eq_some hb, next_eq_some hc, next_eq_some hd, hrest]

theorem hexDigits_apply {a b c d : UInt8} {u : Nat} (h : hexUnit a b c d = some u)
    (rest : Bytes) : hexDigits (a :: b :: c :: d :: rest) = some (u, rest) := by
  show ofOption (hexUnit a b c d) rest = _
  rw [h]
  rfl

theorem escape_eq_some {input rest piece : Bytes} (h : escape input = some (piece, rest)) :
    ∃ e, input = e ++ rest ∧ Escape e piece := by
  obtain ⟨b, tail, hb, h⟩ := bind_eq_some h
  rw [next_eq_some hb]
  split at h
  · next hmark =>
    obtain ⟨u, afterUnit, hdigits, h⟩ := bind_eq_some h
    obtain ⟨a, b, c, d, htail, hunit⟩ := hexDigits_eq_some hdigits
    rw [hmark, htail]
    split at h
    · next hhigh =>
      obtain ⟨_, _, hback, h⟩ := bind_eq_some h
      obtain ⟨_, _, hmarkLow, h⟩ := bind_eq_some h
      obtain ⟨v, _, hdigitsLow, h⟩ := bind_eq_some h
      obtain ⟨e, f, g, i, hlast, hunitLow⟩ := hexDigits_eq_some hdigitsLow
      split at h
      · next hlow =>
        obtain ⟨rfl, rfl⟩ := pure_eq_some h
        refine ⟨[117, a, b, c, d, 92, 117, e, f, g, i], ?_,
          Escape.pair hunit hhigh hunitLow hlow⟩
        rw [expect_eq_some hback, expect_eq_some hmarkLow, hlast]
        rfl
      · cases h
    · next hhigh =>
      split at h
      · cases h
      · next hlow =>
        obtain ⟨rfl, rfl⟩ := pure_eq_some h
        exact ⟨[117, a, b, c, d], rfl,
          Escape.unit hunit (Bool.eq_false_iff.mpr hhigh) (Bool.eq_false_iff.mpr hlow)⟩
  · obtain ⟨c, middle, hshort, h⟩ := bind_eq_some h
    obtain ⟨hc, hrest⟩ := ofOption_eq_some hshort
    cases h
    exact ⟨[b], by rw [hrest]; rfl, Escape.short hc⟩

theorem escape_apply {e piece : Bytes} (h : Escape e piece) (rest : Bytes) :
    escape (e ++ rest) = some (piece, rest) := by
  cases h with
  | @short b c hshort =>
    have hmark : b ≠ 117 := by
      intro heq
      rw [heq] at hshort
      cases hshort
    show (if b = 117 then _ else _ : Parser Bytes) rest = _
    rw [if_neg hmark, hshort]
    rfl
  | @unit a b c d u hunit hhigh hlow =>
    rw [escape, List.cons_append, bind_of_some (next_cons _ _), if_pos rfl]
    show (hexDigits >>= _) (a :: b :: c :: d :: rest) = _
    rw [bind_of_some (hexDigits_apply hunit rest), hhigh, hlow]
    rfl
  | @pair a b c d e f g i u v hu hhigh hv hlow =>
    rw [escape, List.cons_append, bind_of_some (next_cons _ _), if_pos rfl]
    show (hexDigits >>= _) (a :: b :: c :: d :: 92 :: 117 :: e :: f :: g :: i :: rest) = _
    rw [bind_of_some (hexDigits_apply hu _), if_pos hhigh, bind_of_some (expect_cons _ _),
      bind_of_some (expect_cons _ _), bind_of_some (hexDigits_apply hv rest), if_pos hlow]
    rfl

theorem stringBody_eq_some {fuel : Nat} {input rest s : Bytes}
    (h : stringBody fuel input = some (s, rest)) :
    ∃ raw, input = raw ++ 34 :: rest ∧ Spells raw s := by
  induction fuel generalizing input s rest with
  | zero => cases h
  | succ fuel ih =>
    obtain ⟨b, tail, hb, h⟩ := bind_eq_some h
    rw [next_eq_some hb]
    split at h
    · next hquote =>
      cases h
      exact ⟨[], by rw [hquote]; rfl, Spells.nil⟩
    · split at h
      · next hback =>
        obtain ⟨piece, middle, hescape, h⟩ := bind_eq_some h
        obtain ⟨more, left, hmore, h⟩ := bind_eq_some h
        obtain ⟨e, htail, he⟩ := escape_eq_some hescape
        obtain ⟨raw, hmiddle, hraw⟩ := ih hmore
        cases h
        refine ⟨92 :: (e ++ raw), ?_, Spells.escape he hraw⟩
        rw [hback, htail, hmiddle, List.cons_append, List.append_assoc]
      · split at h
        · next hplain =>
          obtain ⟨more, left, hmore, h⟩ := bind_eq_some h
          obtain ⟨raw, htail, hraw⟩ := ih hmore
          cases h
          exact ⟨b :: raw, by rw [htail]; rfl, Spells.plain hplain hraw⟩
        · cases h

theorem stringBody_apply {raw s : Bytes} (h : Spells raw s) (rest : Bytes) {fuel : Nat}
    (hfuel : raw.length < fuel) : stringBody fuel (raw ++ 34 :: rest) = some (s, rest) := by
  induction h generalizing fuel with
  | nil =>
    rw [List.length_nil] at hfuel
    obtain ⟨fuel, rfl⟩ : ∃ k, fuel = k + 1 := ⟨fuel - 1, by omega⟩
    rfl
  | @plain b raw s hb h ih =>
    rw [List.length_cons] at hfuel
    obtain ⟨fuel, rfl⟩ : ∃ k, fuel = k + 1 := ⟨fuel - 1, by omega⟩
    have hquote : b ≠ 34 := by
      rintro rfl
      exact absurd hb (by decide)
    have hback : b ≠ 92 := by
      rintro rfl
      exact absurd hb (by decide)
    rw [stringBody, List.cons_append, bind_of_some (next_cons _ _), if_neg hquote, if_neg hback,
      if_pos hb, bind_of_some (ih (by omega))]
    rfl
  | @escape e piece raw s he h ih =>
    rw [List.length_cons, List.length_append] at hfuel
    obtain ⟨fuel, rfl⟩ : ∃ k, fuel = k + 1 := ⟨fuel - 1, by omega⟩
    rw [stringBody, List.cons_append, bind_of_some (next_cons _ _), if_neg (by decide),
      if_pos rfl, List.append_assoc, bind_of_some (escape_apply he _),
      bind_of_some (ih (by omega))]
    rfl

/-- The parser reads exactly the strings of the grammar. -/
theorem string_eq_some_iff {input rest s : Bytes} :
    string input = some (s, rest) ↔ ∃ raw, input = raw ++ 34 :: rest ∧ Spells raw s := by
  constructor
  · exact stringBody_eq_some
  · intro h
    obtain ⟨raw, rfl, hraw⟩ := h
    refine stringBody_apply hraw rest ?_
    rw [List.length_append]
    omega

theorem Suffixes.string : Suffixes string := by
  intro input s rest h
  obtain ⟨raw, rfl, -⟩ := string_eq_some_iff.mp h
  exact ⟨raw ++ [34], by simp⟩

/-! ## What a spelling costs -/

theorem length_scalar_le (n : Nat) : (scalar n).length ≤ 4 := by
  rw [scalar, String.length_utf8EncodeChar]
  exact Char.utf8Size_le_four _

/-- Bytes past the first 128 are no backslash. -/
theorem ofNat_ne_backslash {n : Nat} (hlow : 128 ≤ n) (hhigh : n < 256) :
    UInt8.ofNat n ≠ 92 := by
  intro h
  have hval := congrArg UInt8.toNat h
  rw [UInt8.toNat_ofNat', Nat.mod_eq_of_lt hhigh] at hval
  have : (92 : UInt8).toNat = 92 := rfl
  omega

theorem count_scalar_le (n : Nat) : (scalar n).count 92 ≤ 1 := by
  rw [scalar, String.utf8EncodeChar]
  split
  · exact List.count_le_length
  · split
    · rw [List.count_cons_of_ne (ofNat_ne_backslash (by omega) (by omega)),
        List.count_cons_of_ne (ofNat_ne_backslash (by omega) (by omega))]
      exact Nat.zero_le 1
    · split
      · rw [List.count_cons_of_ne (ofNat_ne_backslash (by omega) (by omega)),
          List.count_cons_of_ne (ofNat_ne_backslash (by omega) (by omega)),
          List.count_cons_of_ne (ofNat_ne_backslash (by omega) (by omega))]
        exact Nat.zero_le 1
      · rw [List.count_cons_of_ne (ofNat_ne_backslash (by omega) (by omega)),
          List.count_cons_of_ne (ofNat_ne_backslash (by omega) (by omega)),
          List.count_cons_of_ne (ofNat_ne_backslash (by omega) (by omega)),
          List.count_cons_of_ne (ofNat_ne_backslash (by omega) (by omega))]
        exact Nat.zero_le 1

theorem hexUnit_count_quote {a b c d : UInt8} {u : Nat} (h : hexUnit a b c d = some u) :
    [a, b, c, d].count 34 = 0 := by
  have hquote : ∀ x v, hexValue x = some v → x ≠ 34 := by
    intro x v hx heq
    rw [heq] at hx
    cases hx
  obtain ⟨_, ha, h⟩ := Option.bind_eq_some_iff.mp h
  obtain ⟨_, hb, h⟩ := Option.bind_eq_some_iff.mp h
  obtain ⟨_, hc, h⟩ := Option.bind_eq_some_iff.mp h
  obtain ⟨_, hd, _⟩ := Option.bind_eq_some_iff.mp h
  rw [List.count_cons_of_ne (hquote a _ ha), List.count_cons_of_ne (hquote b _ hb),
    List.count_cons_of_ne (hquote c _ hc), List.count_cons_of_ne (hquote d _ hd),
    List.count_nil]

namespace Escape

theorem length_le {e piece : Bytes} (h : Escape e piece) : piece.length ≤ e.length := by
  cases h with
  | short h => exact Nat.le_refl 1
  | unit h hhigh hlow => exact Nat.le_trans (length_scalar_le _) (by show 4 ≤ 5; omega)
  | pair hu hhigh hv hlow => exact Nat.le_trans (length_scalar_le _) (by show 4 ≤ 11; omega)

/-- A quote after the backslash, or a backslash that is meant, uses the backslash
up. -/
theorem count_le {e piece : Bytes} (h : Escape e piece) :
    piece.count 92 + e.count 34 ≤ 1 + e.count 92 := by
  cases h with
  | @short b c h =>
    unfold shortEscape at h
    split_ifs at h with hsame
    · rcases hsame with rfl | rfl | rfl <;> cases h <;> decide
    all_goals (cases h; subst b; decide)
  | @unit a b c d u h hhigh hlow =>
    have hpiece := count_scalar_le u
    have hquotes := hexUnit_count_quote h
    rw [List.count_cons_of_ne (by decide), hquotes]
    omega
  | @pair a b c d e f g i u v hu hhigh hv hlow =>
    have hpiece := count_scalar_le (surrogates u v)
    have hquotes : [117, a, b, c, d, 92, 117, e, f, g, i].count 34 = 0 := by
      show ([117] ++ [a, b, c, d] ++ [92, 117] ++ [e, f, g, i]).count 34 = 0
      simp only [List.count_append, hexUnit_count_quote hu, hexUnit_count_quote hv]
      decide
    omega

end Escape

namespace Spells

theorem length_le {raw s : Bytes} (h : Spells raw s) : s.length ≤ raw.length := by
  induction h with
  | nil => exact Nat.le_refl 0
  | plain hb h ih =>
    rw [List.length_cons, List.length_cons]
    omega
  | escape he h ih =>
    have hpiece := he.length_le
    rw [List.length_append, List.length_cons, List.length_append]
    omega

/-- A spelling with a backslash is longer than what it stands for. -/
theorem length_lt {raw s : Bytes} (h : Spells raw s) (hback : 92 ∈ raw) :
    s.length < raw.length := by
  induction h with
  | nil => cases hback
  | @plain b raw s hb h ih =>
    have hne : (92 : UInt8) ≠ b := by
      rintro rfl
      exact absurd hb (by decide)
    have hrest := ih ((List.mem_cons.mp hback).resolve_left hne)
    rw [List.length_cons, List.length_cons]
    omega
  | escape he h ih =>
    have hpiece := he.length_le
    have hrest := h.length_le
    rw [List.length_append, List.length_cons, List.length_append]
    omega

/-- Every quote inside a spelling has a backslash of its own. -/
theorem count_le {raw s : Bytes} (h : Spells raw s) :
    s.count 92 + raw.count 34 ≤ raw.count 92 := by
  induction h with
  | nil => exact Nat.le_refl 0
  | @plain b raw s hb h ih =>
    have hquote : b ≠ 34 := by
      rintro rfl
      exact absurd hb (by decide)
    have hback : b ≠ 92 := by
      rintro rfl
      exact absurd hb (by decide)
    rw [List.count_cons_of_ne hback, List.count_cons_of_ne hquote, List.count_cons_of_ne hback]
    exact ih
  | escape he h ih =>
    have hpiece := he.count_le
    rw [List.count_append, List.count_cons_of_ne (by decide), List.count_append,
      List.count_cons_self, List.count_append]
    omega

theorem of_plain {s : Bytes} (h : ∀ b ∈ s, isPlain b = true) : Spells s s := by
  induction s with
  | nil => exact Spells.nil
  | cons b s ih =>
    exact Spells.plain (h b List.mem_cons_self) (ih fun c hc => h c (List.mem_cons_of_mem b hc))

/-- Only plain bytes spell themselves. -/
theorem self_iff {s : Bytes} : Spells s s ↔ ∀ b ∈ s, isPlain b = true := by
  refine ⟨fun h => ?_, of_plain⟩
  have hback : (92 : UInt8) ∉ s := fun hmem => absurd (h.length_lt hmem) (Nat.lt_irrefl _)
  suffices hall : ∀ raw t, Spells raw t → (92 : UInt8) ∉ raw → ∀ b ∈ raw, isPlain b = true from
    hall s s h hback
  intro raw t h
  induction h with
  | nil =>
    intro _ b hb
    cases hb
  | @plain b raw s hb h ih =>
    intro hback c hc
    rcases List.mem_cons.mp hc with rfl | hc
    · exact hb
    · exact ih (fun hmem => hback (List.mem_cons_of_mem b hmem)) c hc
  | escape he h ih =>
    intro hback
    exact absurd List.mem_cons_self hback

end Spells

/-! ## A string before a text that knows no backslash -/

/-- A string that was written as it is, and is read back, is plain: it was closed
by the quote written after it. -/
theorem string_verbatim {s rest tail left : Bytes} (htail : (92 : UInt8) ∉ tail)
    (hread : string left = some (s, rest)) (hleft : left <+: s ++ 34 :: tail) :
    (∀ b ∈ s, isPlain b = true) ∧ left = s ++ 34 :: rest := by
  obtain ⟨raw, rfl, hraw⟩ := string_eq_some_iff.mp hread
  have hinitial : raw <+: s ++ 34 :: tail := (List.prefix_append _ _).trans hleft
  obtain ⟨more, rfl⟩ : s <+: raw :=
    List.prefix_of_prefix_length_le (List.prefix_append _ _) hinitial hraw.length_le
  have hmore : more <+: 34 :: tail := (List.prefix_append_right_inj s).mp hinitial
  cases more with
  | nil =>
    rw [List.append_nil] at hraw ⊢
    exact ⟨Spells.self_iff.mp hraw, rfl⟩
  | cons b more =>
    -- The quote written after the string would have to be escaped from inside it.
    exfalso
    obtain ⟨rfl, hafter⟩ := List.cons_prefix_cons.mp hmore
    have hnone : more.count 92 = 0 :=
      List.count_eq_zero.mpr fun hmem => htail (hafter.mem hmem)
    have hcount := hraw.count_le
    rw [List.count_append, List.count_append, List.count_cons_self,
      List.count_cons_of_ne (by decide), hnone] at hcount
    omega

/-- A plain string, its quote, and whatever follows. -/
theorem string_plain {s : Bytes} (h : ∀ b ∈ s, isPlain b = true) (rest : Bytes) :
    string (s ++ 34 :: rest) = some (s, rest) :=
  string_eq_some_iff.mpr ⟨s, rfl, Spells.of_plain h⟩

end Json
end OpcuaGateway
