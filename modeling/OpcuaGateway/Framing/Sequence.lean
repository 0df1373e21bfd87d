/-
Sequence numbers that are counted up and may begin again before they are used up.

The receiver takes the next number, or, when that one is late, any early number.  So it
can be led back, but not faster than the numbers between early and late last: among
`span` numbers in a row none comes twice (`nodup_of_accepts`).
-/
import Mathlib.Data.List.Nodup

namespace OpcuaGateway
namespace Framing

/-- After a number past `late` has come up, the numbers below `early` may follow. -/
structure Rollover where
  modulus : Nat
  late : Nat
  early : Nat
  early_pos : 0 < early
  ordered : early ≤ late
  late_lt : late + 1 < modulus

namespace Rollover

variable (R : Rollover)

def Accepts (last n : Nat) : Prop :=
  n = (last + 1) % R.modulus ∨ (R.late < (last + 1) % R.modulus ∧ n < R.early)

/-- The numbers are accepted one after the other. -/
def AcceptsAll : Nat → List Nat → Prop
  | _, [] => True
  | last, n :: ns => R.Accepts last n ∧ AcceptsAll n ns

/-- How many numbers there are from the last early one to the first that is late. -/
def span : Nat := R.late + 2 - R.early

variable {R}

/-- `k` numbers after `start`, the counter is `k` further on, or at least a span behind. -/
theorem ahead_step {start k last n : Nat} (hlast : last < R.modulus)
    (h : last = start + k ∨ last + R.span ≤ start + k) (hn : R.Accepts last n) :
    n = start + (k + 1) ∨ n + R.span ≤ start + (k + 1) := by
  have hpos := R.early_pos
  have hordered := R.ordered
  have hlate := R.late_lt
  have hspan : R.span = R.late + 2 - R.early := rfl
  by_cases hwrap : last + 1 = R.modulus
  · rw [Accepts, hwrap, Nat.mod_self] at hn
    rcases hn with hn | ⟨hn, -⟩
    · right
      omega
    · exact absurd hn (Nat.not_lt_zero _)
  · rw [Accepts, Nat.mod_eq_of_lt (by omega)] at hn
    rcases hn with hn | ⟨hlast, hn⟩
    · omega
    · right
      omega

theorem ahead_of_mem {start last : Nat} {ns : List Nat} {k : Nat} (hlast : last < R.modulus)
    (hns : ∀ n ∈ ns, n < R.modulus) (h : last = start + k ∨ last + R.span ≤ start + k)
    (haccepts : R.AcceptsAll last ns) {n : Nat} (hn : n ∈ ns) :
    ∃ j, k < j ∧ j ≤ k + ns.length ∧ (n = start + j ∨ n + R.span ≤ start + j) := by
  induction ns generalizing last k with
  | nil => cases hn
  | cons m ns ih =>
    obtain ⟨hm, hrest⟩ := haccepts
    have hstep := ahead_step hlast h hm
    rw [List.length_cons]
    rcases List.mem_cons.mp hn with rfl | hn
    · exact ⟨k + 1, Nat.lt_succ_self k, by omega, hstep⟩
    · obtain ⟨j, hkj, hjle, hj⟩ := ih (hns m List.mem_cons_self)
        (fun n hn => hns n (List.mem_cons_of_mem m hn)) hstep hrest hn
      exact ⟨j, by omega, by omega, hj⟩

theorem not_mem_of_accepts {last : Nat} {ns : List Nat} (hlast : last < R.modulus)
    (hns : ∀ n ∈ ns, n < R.modulus) (haccepts : R.AcceptsAll last ns)
    (hlength : ns.length < R.span) : last ∉ ns := by
  intro hmem
  obtain ⟨j, hpos, hle, hj⟩ :=
    ahead_of_mem hlast hns (Or.inl (Nat.add_zero last).symm) haccepts hmem
  omega

/-- No number comes twice among as many as a span. -/
theorem nodup_of_accepts {last : Nat} {ns : List Nat} (hns : ∀ n ∈ ns, n < R.modulus)
    (haccepts : R.AcceptsAll last ns) (hlength : ns.length ≤ R.span) : ns.Nodup := by
  induction ns generalizing last with
  | nil => exact List.nodup_nil
  | cons n ns ih =>
    have hn := hns n List.mem_cons_self
    have hrest : ∀ m ∈ ns, m < R.modulus := fun m hm => hns m (List.mem_cons_of_mem n hm)
    rw [List.length_cons] at hlength
    exact List.nodup_cons.mpr ⟨not_mem_of_accepts hn hrest haccepts.2 (by omega),
      ih hrest haccepts.2 (by omega)⟩

end Rollover
end Framing
end OpcuaGateway
