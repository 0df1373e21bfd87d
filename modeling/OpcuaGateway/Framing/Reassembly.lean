/-
Messages that arrive in pieces, the pieces of several messages between each other.

What has arrived of a message is a function of its identifier.  A message comes to the
same whatever pieces of others lie between its own (`messagesFrom_filter`), and an
unbroken row of its pieces comes to the bodies one behind the other
(`messagesFrom_piecesOf`).
-/
import Mathlib.Data.List.Basic
import Mathlib.Logic.Function.Basic

namespace OpcuaGateway
namespace Framing

inductive PieceKind where
  | intermediate
  | final
  | abort
deriving DecidableEq, Repr

structure Piece (κ α : Type) where
  kind : PieceKind
  id : κ
  body : List α

variable {κ α : Type}

namespace Piece

/-- The message a piece completes, with what was pending of it. -/
def completes (p : Piece κ α) (pending : List α) : Option (κ × List α) :=
  match p.kind with
  | .final => some (p.id, pending ++ p.body)
  | .intermediate | .abort => none

/-- What is pending of its message after a piece. -/
def leaves (p : Piece κ α) (pending : List α) : List α :=
  match p.kind with
  | .intermediate => pending ++ p.body
  | .final | .abort => []

theorem completes_id {p : Piece κ α} {pending : List α} {m : κ × List α}
    (h : m ∈ (p.completes pending).toList) : m.1 = p.id := by
  unfold completes at h
  split at h
  · rw [List.mem_singleton.mp h]
  · cases h
  · cases h

end Piece

variable [DecidableEq κ]

def Piece.next (pending : κ → List α) (p : Piece κ α) : κ → List α :=
  Function.update pending p.id (p.leaves (pending p.id))

def pendingAfter (pending : κ → List α) (pieces : List (Piece κ α)) : κ → List α :=
  pieces.foldl Piece.next pending

/-- The messages some pieces complete, in the order they do. -/
def messagesFrom (pending : κ → List α) : List (Piece κ α) → List (κ × List α)
  | [] => []
  | p :: pieces => (p.completes (pending p.id)).toList ++ messagesFrom (p.next pending) pieces

@[simp] theorem messagesFrom_nil (pending : κ → List α) : messagesFrom pending [] = [] := rfl

theorem messagesFrom_cons (pending : κ → List α) (p : Piece κ α) (pieces : List (Piece κ α)) :
    messagesFrom pending (p :: pieces) =
      (p.completes (pending p.id)).toList ++ messagesFrom (p.next pending) pieces := rfl

@[simp] theorem pendingAfter_cons (pending : κ → List α) (p : Piece κ α)
    (pieces : List (Piece κ α)) :
    pendingAfter pending (p :: pieces) = pendingAfter (p.next pending) pieces := rfl

/-! ## One message among others -/

theorem Piece.next_self (pending : κ → List α) (p : Piece κ α) :
    p.next pending p.id = p.leaves (pending p.id) := Function.update_self _ _ _

theorem Piece.next_of_ne {pending : κ → List α} {p : Piece κ α} {id : κ} (h : p.id ≠ id) :
    p.next pending id = pending id := Function.update_of_ne (Ne.symm h) _ _

/-- Pieces of one message look only at what is pending of it. -/
theorem messagesFrom_congr {pending pending' : κ → List α} {id : κ} {pieces : List (Piece κ α)}
    (hpieces : ∀ p ∈ pieces, p.id = id) (h : pending id = pending' id) :
    messagesFrom pending pieces = messagesFrom pending' pieces := by
  induction pieces generalizing pending pending' with
  | nil => rfl
  | cons p pieces ih =>
    have hid : p.id = id := hpieces p List.mem_cons_self
    subst hid
    have hnext : p.next pending p.id = p.next pending' p.id := by
      rw [Piece.next_self, Piece.next_self, h]
    rw [messagesFrom_cons, messagesFrom_cons, h,
      ih (fun q hq => hpieces q (List.mem_cons_of_mem p hq)) hnext]

/-- The messages with an identifier are those that its own pieces complete. -/
theorem messagesFrom_filter (pending : κ → List α) (id : κ) (pieces : List (Piece κ α)) :
    (messagesFrom pending pieces).filter (fun m => m.1 = id) =
      messagesFrom pending (pieces.filter fun p => p.id = id) := by
  induction pieces generalizing pending with
  | nil => rfl
  | cons p pieces ih =>
    rw [messagesFrom_cons, List.filter_append, ih]
    by_cases hid : p.id = id
    · have hkept : (p.completes (pending p.id)).toList.filter (fun m => m.1 = id) =
          (p.completes (pending p.id)).toList :=
        List.filter_eq_self.mpr fun m hm => decide_eq_true ((Piece.completes_id hm).trans hid)
      have hfilter : (p :: pieces).filter (fun p => p.id = id) =
          p :: pieces.filter fun p => p.id = id := List.filter_cons_of_pos (decide_eq_true hid)
      rw [hkept, hfilter, messagesFrom_cons]
    · have hgone : (p.completes (pending p.id)).toList.filter (fun m => m.1 = id) = [] :=
        List.filter_eq_nil_iff.mpr fun m hm hm' =>
          hid ((Piece.completes_id hm).symm.trans (of_decide_eq_true hm'))
      have hfilter : (p :: pieces).filter (fun p => p.id = id) =
          pieces.filter fun p => p.id = id := List.filter_cons_of_neg (by simpa using hid)
      rw [hgone, List.nil_append, hfilter]
      refine messagesFrom_congr (fun q hq => ?_) (Piece.next_of_ne hid)
      exact of_decide_eq_true (List.mem_filter.mp hq).2

/-- What is pending of a message depends on its own pieces. -/
theorem pendingAfter_filter {pending pending' : κ → List α} {id : κ}
    (h : pending id = pending' id) (pieces : List (Piece κ α)) :
    pendingAfter pending pieces id =
      pendingAfter pending' (pieces.filter fun p => p.id = id) id := by
  induction pieces generalizing pending pending' with
  | nil => exact h
  | cons p pieces ih =>
    rw [pendingAfter_cons]
    by_cases hid : p.id = id
    · have hfilter : (p :: pieces).filter (fun p => p.id = id) =
          p :: pieces.filter fun p => p.id = id := List.filter_cons_of_pos (decide_eq_true hid)
      rw [hfilter, pendingAfter_cons]
      subst hid
      refine ih ?_
      rw [Piece.next_self, Piece.next_self, h]
    · have hfilter : (p :: pieces).filter (fun p => p.id = id) =
          pieces.filter fun p => p.id = id := List.filter_cons_of_neg (by simpa using hid)
      rw [hfilter]
      exact ih ((Piece.next_of_ne hid).trans h)

/-- The pieces of a message in their order, the last of them the final one. -/
def piecesOf (id : κ) : List (List α) → List (Piece κ α)
  | [] => []
  | [body] => [{ kind := .final, id := id, body := body }]
  | body :: bodies => { kind := .intermediate, id := id, body := body } :: piecesOf id bodies

theorem messagesFrom_piecesOf (pending : κ → List α) (id : κ) {bodies : List (List α)}
    (h : bodies ≠ []) (rest : List (Piece κ α)) :
    messagesFrom pending (piecesOf id bodies ++ rest) =
      (id, pending id ++ bodies.flatten) ::
        messagesFrom (Function.update pending id []) rest := by
  induction bodies generalizing pending with
  | nil => exact absurd rfl h
  | cons body bodies ih =>
    cases bodies with
    | nil =>
      rw [List.flatten_cons, List.flatten_nil, List.append_nil]
      rfl
    | cons body' bodies =>
      have hupdate : Function.update (Function.update pending id (pending id ++ body)) id [] =
          Function.update pending id [] := Function.update_idem _ _ _
      show messagesFrom (Function.update pending id (pending id ++ body))
        (piecesOf id (body' :: bodies) ++ rest) = _
      rw [ih _ (List.cons_ne_nil _ _), Function.update_self, hupdate, List.append_assoc]
      rfl

theorem pendingAfter_piecesOf (pending : κ → List α) (id : κ) {bodies : List (List α)}
    (h : bodies ≠ []) :
    pendingAfter pending (piecesOf id bodies) = Function.update pending id [] := by
  induction bodies generalizing pending with
  | nil => exact absurd rfl h
  | cons body bodies ih =>
    cases bodies with
    | nil => rfl
    | cons body' bodies =>
      show pendingAfter (Function.update pending id (pending id ++ body))
        (piecesOf id (body' :: bodies)) = _
      rw [ih _ (List.cons_ne_nil _ _), Function.update_idem]

end Framing
end OpcuaGateway
