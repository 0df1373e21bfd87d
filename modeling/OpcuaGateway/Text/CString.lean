/-
The string functions of the C library, on buffers of bytes.

A position is an offset into the buffer, and everything from the first NUL on is
out of their sight.
-/
import Mathlib.Data.List.Basic
import Mathlib.Data.List.Infix
import OpcuaGateway.Text.Ascii

namespace OpcuaGateway
namespace Text

/-- `strchr(s + start, c)` for a `c` other than NUL, as an offset into `s`. -/
def strchr (s : Bytes) (start : Nat) (c : UInt8) : Option Nat :=
  ((cString (s.drop start)).idxOf? c).map fun k => start + k

/-- The bytes that `strncpy(dst, src, n)` stores. -/
def strncpyBytes (src : Bytes) (n : Nat) : Bytes :=
  (cString src).take n ++ List.replicate (n - (cString src).length) 0

/-- `strstr(s, t) != NULL`. -/
def strstrFound (s t : Bytes) : Bool := cString t <:+: cString s

/-! ## First occurrences -/

theorem idxOf?_append_cons {a : Bytes} {c : UInt8} (h : c ∉ a) (b : Bytes) :
    (a ++ c :: b).idxOf? c = some a.length := by
  rw [List.idxOf?, List.findIdx?_append, List.findIdx?_cons]
  have hnone : a.findIdx? (fun x => x == c) = none := by
    rw [List.findIdx?_eq_none_iff]
    intro x hx
    exact beq_eq_false_iff_ne.mpr fun e => h (e ▸ hx)
  rw [hnone, beq_self_eq_true]
  exact congrArg some (Nat.zero_add a.length)

/-- A text splits at its first `c` in one way. -/
theorem split_unique {a a' b b' : Bytes} {c : UInt8} (h : a ++ c :: b = a' ++ c :: b')
    (ha : c ∉ a) (ha' : c ∉ a') : a = a' ∧ b = b' := by
  have hlen : a.length = a'.length := by
    have hfirst := idxOf?_append_cons ha b
    rw [h, idxOf?_append_cons ha' b'] at hfirst
    exact (Option.some.inj hfirst).symm
  obtain ⟨hfront, hback⟩ := List.append_inj h hlen
  exact ⟨hfront, (List.cons.inj hback).2⟩

/-! ## Searching a terminated text -/

section Terminated

variable {s front text : Bytes} (hzero : (0 : UInt8) ∉ s) (rest : Bytes)
include hzero

theorem cString_drop (hs : s = front ++ text) :
    cString ((s ++ 0 :: rest).drop front.length) = text := by
  rw [hs] at hzero ⊢
  have htext : (0 : UInt8) ∉ text := fun h => hzero (List.mem_append_right front h)
  rw [List.append_assoc, List.drop_left, cString_append_zero htext]

theorem strchr_none {c : UInt8} (hs : s = front ++ text) (h : c ∉ text) :
    strchr (s ++ 0 :: rest) front.length c = none := by
  rw [strchr, cString_drop hzero rest hs, List.idxOf?_eq_none_iff.mpr h]
  rfl

/-- The search from the end of `front` stops at the first `c` of what follows. -/
theorem strchr_some {a b : Bytes} {c : UInt8} (hs : s = front ++ (a ++ c :: b)) (h : c ∉ a) :
    strchr (s ++ 0 :: rest) front.length c = some (front.length + a.length) := by
  rw [strchr, cString_drop hzero rest hs, idxOf?_append_cons h]
  rfl

/-- A copy from the end of `front` that ends before the NUL takes the bytes as they
are. -/
theorem strncpyBytes_drop {more : Bytes} (hs : s = front ++ (text ++ more)) :
    strncpyBytes ((s ++ 0 :: rest).drop front.length) text.length = text := by
  rw [strncpyBytes, cString_drop hzero rest hs, List.take_left, List.length_append,
    Nat.sub_eq_zero_of_le (Nat.le_add_right _ _), List.replicate_zero, List.append_nil]

end Terminated

end Text
end OpcuaGateway
