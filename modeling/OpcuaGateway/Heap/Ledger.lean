/-
A ledger of heap objects.

Each acquisition opens a holding of some number of heap blocks under an identity
that was never issued before, and a release closes a holding.  Releasing an
identity that holds nothing, in particular one released before, has no result.
-/
import Mathlib.Algebra.BigOperators.Group.List.Basic
import Mathlib.Algebra.GroupWithZero.Nat

namespace OpcuaGateway
namespace Heap

/-- The blocks owned under one identity. -/
structure Holding where
  id : Nat
  blocks : Nat
deriving DecidableEq, Repr

/-- The open holdings, and the next identity to issue. -/
structure Ledger where
  next : Nat
  held : List Holding
  issued : ∀ x ∈ held, x.id < next

namespace Ledger

def empty : Ledger := { next := 0, held := [], issued := fun _ hx => absurd hx List.not_mem_nil }

def total (l : Ledger) : Nat := (l.held.map Holding.blocks).sum

def holds (l : Ledger) (id : Nat) : Prop := ∃ x ∈ l.held, x.id = id

instance (l : Ledger) (id : Nat) : Decidable (l.holds id) :=
  inferInstanceAs (Decidable (∃ x ∈ l.held, x.id = id))

def share (l : Ledger) (id : Nat) : Nat :=
  ((l.held.filter fun x => x.id = id).map Holding.blocks).sum

def acquire (l : Ledger) (k : Nat) : Nat × Ledger :=
  (l.next,
    { next := l.next + 1
      held := l.held ++ [{ id := l.next, blocks := k }]
      issued := by
        intro x hx
        rcases List.mem_append.mp hx with h | h
        · exact Nat.lt_succ_of_lt (l.issued x h)
        · rw [List.mem_singleton.mp h]
          exact Nat.lt_succ_self l.next })

def drop (l : Ledger) (id : Nat) : Ledger where
  next := l.next
  held := l.held.filter fun x => x.id ≠ id
  issued x hx := l.issued x (List.mem_of_mem_filter hx)

/-- Close the holding of `id`, if there is one. -/
def release (l : Ledger) (id : Nat) : Option Ledger :=
  if l.holds id then some (l.drop id) else none

theorem release_of_holds {l : Ledger} {id : Nat} (h : l.holds id) :
    l.release id = some (l.drop id) := if_pos h

/-! ## What is held -/

theorem lt_next_of_holds {l : Ledger} {id : Nat} (h : l.holds id) : id < l.next := by
  obtain ⟨x, hx, rfl⟩ := h
  exact l.issued x hx

theorem not_holds_next (l : Ledger) : ¬ l.holds l.next :=
  fun h => Nat.lt_irrefl _ (lt_next_of_holds h)

theorem holds_acquire {l : Ledger} {k id : Nat} :
    (l.acquire k).2.holds id ↔ l.holds id ∨ id = l.next := by
  constructor
  · rintro ⟨x, hx, rfl⟩
    rcases List.mem_append.mp hx with h | h
    · exact Or.inl ⟨x, h, rfl⟩
    · rw [List.mem_singleton.mp h]
      exact Or.inr rfl
  · rintro (⟨x, hx, rfl⟩ | rfl)
    · exact ⟨x, List.mem_append_left _ hx, rfl⟩
    · exact ⟨_, List.mem_append_right _ (List.mem_singleton.mpr rfl), rfl⟩

theorem holds_drop {l : Ledger} {id id' : Nat} :
    (l.drop id).holds id' ↔ l.holds id' ∧ id' ≠ id := by
  constructor
  · rintro ⟨x, hx, rfl⟩
    obtain ⟨hmem, hne⟩ := List.mem_filter.mp hx
    exact ⟨⟨x, hmem, rfl⟩, of_decide_eq_true hne⟩
  · rintro ⟨⟨x, hx, rfl⟩, hne⟩
    exact ⟨x, List.mem_filter.mpr ⟨hx, decide_eq_true hne⟩, rfl⟩

/-! ## Counting -/

@[simp] theorem total_acquire (l : Ledger) (k : Nat) : (l.acquire k).2.total = l.total + k := by
  simp [total, acquire]

theorem share_eq_zero {l : Ledger} {id : Nat} (h : ¬ l.holds id) : l.share id = 0 := by
  have hnone : (l.held.filter fun x => x.id = id) = [] := by
    rw [List.filter_eq_nil_iff]
    intro x hx hid
    exact h ⟨x, hx, of_decide_eq_true hid⟩
  rw [share, hnone]
  rfl

/-- A fresh holding holds what was put there. -/
theorem share_acquire_self (l : Ledger) (k : Nat) : (l.acquire k).2.share l.next = k := by
  have hold : l.share l.next = 0 := share_eq_zero (not_holds_next l)
  unfold share at hold ⊢
  simp only [acquire, List.filter_append, List.map_append, List.sum_append, hold]
  simp

theorem share_acquire_of_ne {l : Ledger} {k id : Nat} (h : id ≠ l.next) :
    (l.acquire k).2.share id = l.share id := by
  unfold share
  simp only [acquire, List.filter_append, List.map_append, List.sum_append]
  simp [Ne.symm h]

theorem share_drop_of_ne {l : Ledger} {id id' : Nat} (h : id' ≠ id) :
    (l.drop id).share id' = l.share id' := by
  unfold share
  simp only [drop, List.filter_filter]
  congr 2
  apply List.filter_congr
  intro x _
  by_cases hx : x.id = id' <;> simp [hx, h]

theorem sum_filter_ne_add_sum_filter (xs : List Holding) (id : Nat) :
    ((xs.filter fun x => x.id ≠ id).map Holding.blocks).sum +
        ((xs.filter fun x => x.id = id).map Holding.blocks).sum =
      (xs.map Holding.blocks).sum := by
  induction xs with
  | nil => rfl
  | cons x rest ih =>
    by_cases hx : x.id = id
    · rw [List.filter_cons_of_neg (by simpa using hx), List.filter_cons_of_pos (by simpa using hx),
        List.map_cons, List.map_cons, List.sum_cons, List.sum_cons]
      omega
    · rw [List.filter_cons_of_pos (by simpa using hx), List.filter_cons_of_neg (by simpa using hx),
        List.map_cons, List.map_cons, List.sum_cons, List.sum_cons]
      omega

/-- Closing a holding takes exactly its blocks off the total. -/
theorem total_drop (l : Ledger) (id : Nat) : (l.drop id).total + l.share id = l.total :=
  sum_filter_ne_add_sum_filter l.held id

end Ledger
end Heap
end OpcuaGateway
