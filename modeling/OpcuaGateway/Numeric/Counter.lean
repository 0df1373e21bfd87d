/-
A signed 32-bit counter that grants a step while it is below a limit.

It counts every step, granted or not, and wraps.  `granted` is how many of `n` steps it
grants from a given count on; after the wrap it grants again until it has come back to
the limit.
-/
import Mathlib.Data.Nat.Count

namespace OpcuaGateway
namespace Numeric

/-- A counter that has been counted up `count` times from zero is below the limit. -/
def Below (limit count : Nat) : Prop := count % 2 ^ 32 < limit ∨ 2 ^ 31 ≤ count % 2 ^ 32

instance (limit count : Nat) : Decidable (Below limit count) :=
  inferInstanceAs (Decidable (_ ∨ _))

theorem ofNat_lt_iff {limit : Nat} (h : limit < 2 ^ 31) (count : Nat) :
    Int32.ofNat count < Int32.ofNat limit ↔ Below limit count := by
  have hsize : Int32.size = 4294967296 := rfl
  rw [Int32.lt_iff_toInt_lt, Int32.toInt_ofNat', Int32.toInt_ofNat', hsize, Below]
  simp only [Int.bmod_def]
  omega

def granted (limit count n : Nat) : Nat := Nat.count (fun k => Below limit (count + k)) n

variable {limit : Nat}

theorem granted_zero (count : Nat) : granted limit count 0 = 0 := Nat.count_zero _

/-- The first step, and then the others with the counter one up. -/
theorem granted_succ (count n : Nat) :
    granted limit count (n + 1) =
      (if Below limit count then 1 else 0) + granted limit (count + 1) n := by
  have hshift : (fun k => Below limit (count + (k + 1))) =
      fun k => Below limit (count + 1 + k) := by
    funext k
    rw [Nat.add_assoc, Nat.add_comm 1 k]
  unfold granted
  simp only [Nat.count_succ', Nat.add_zero, hshift]
  exact Nat.add_comm _ _

theorem granted_mod (count n : Nat) : granted limit (count % 2 ^ 32) n = granted limit count n := by
  have hsame : (fun k => Below limit (count % 2 ^ 32 + k)) = fun k => Below limit (count + k) := by
    funext k
    rw [Below, Below, Nat.mod_add_mod]
  unfold granted
  simp only [hsame]

theorem granted_mono (count : Nat) {m n : Nat} (h : m ≤ n) :
    granted limit count m ≤ granted limit count n := Nat.count_monotone _ h

/-! ## The grants of one round -/

/-- The grants of the first `n` steps from zero, up to the limit after the wrap. -/
def grantedTo (limit n : Nat) : Nat := min n limit + (n - 2 ^ 31)

theorem granted_add (hlimit : limit < 2 ^ 31) (count n : Nat)
    (h : count + n ≤ 2 ^ 32 + limit) :
    granted limit count n + grantedTo limit count = grantedTo limit (count + n) := by
  induction n with
  | zero => rw [granted_zero, Nat.zero_add, Nat.add_zero]
  | succ n ih =>
    have hbefore := ih (by omega)
    have hlast : granted limit count (n + 1) =
        granted limit count n + if Below limit (count + n) then 1 else 0 := Nat.count_succ _ n
    have hround : ∀ m, grantedTo limit m = min m limit + (m - 2 ^ 31) := fun _ => rfl
    rw [hround, hround] at hbefore ⊢
    by_cases hbelow : Below limit (count + n)
    · rw [if_pos hbelow] at hlast
      unfold Below at hbelow
      omega
    · rw [if_neg hbelow] at hlast
      unfold Below at hbelow
      omega

/-- From the count `count` on, `n` steps get as many grants as one budget has. -/
def OneBudget (limit count n : Nat) : Prop :=
  (count % 2 ^ 32 = 0 ∧ n ≤ 2 ^ 31) ∨
    (0 < count % 2 ^ 32 ∧ count % 2 ^ 32 < limit ∧ (n ≤ limit - count % 2 ^ 32 ∨ n = 2 ^ 31)) ∨
    (limit ≤ count % 2 ^ 32 ∧ count % 2 ^ 32 < 2 ^ 31 ∧ n = 2 ^ 31 + limit - count % 2 ^ 32) ∨
    (2 ^ 31 ≤ count % 2 ^ 32 ∧ n ≤ limit)

theorem granted_eq_min_iff (hpos : 0 < limit) (hlimit : limit < 2 ^ 31) (count : Nat) {n : Nat}
    (hn : 0 < n) : granted limit count n = min n limit ↔ OneBudget limit count n := by
  have hr : count % 2 ^ 32 < 2 ^ 32 := Nat.mod_lt count (by omega)
  rw [← granted_mod]
  unfold OneBudget
  generalize count % 2 ^ 32 = r at hr ⊢
  have hcount : granted limit r n + grantedTo limit r = grantedTo limit (r + n) ∨
      2 ^ 32 + limit < r + n ∧ limit < granted limit r n := by
    by_cases hround : r + n ≤ 2 ^ 32 + limit
    · exact Or.inl (granted_add hlimit r n hround)
    · -- by the end of the round there were more grants than one budget has
      have hall := granted_add hlimit r (2 ^ 32 + limit - r) (by omega)
      have hmore : granted limit r (2 ^ 32 + limit - r) ≤ granted limit r n :=
        granted_mono r (by omega)
      unfold grantedTo at hall
      omega
  unfold grantedTo at hcount
  have hcases : r = 0 ∨ 0 < r ∧ r < limit ∨ limit ≤ r ∧ r < 2 ^ 31 ∨ 2 ^ 31 ≤ r := by omega
  rcases hcases with rfl | hlow | hspent | hnegative
  · omega
  · omega
  · omega
  · omega

end Numeric
end OpcuaGateway
