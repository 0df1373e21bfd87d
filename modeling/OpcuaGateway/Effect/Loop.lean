import OpcuaGateway.Effect.Action

namespace OpcuaGateway
namespace Effect
namespace Action

variable {σ ω ε α : Type}

/-- `for (i = 0; i < n; i++) body(i)`. -/
def forRange (body : Nat → Action σ ω ε Unit) : Nat → Action σ ω ε Unit
  | 0 => pure ()
  | n + 1 => forRange body n >>= fun _ => body n

theorem forRange_succ (body : Nat → Action σ ω ε Unit) (n : Nat) (s : σ) :
    (forRange body (n + 1)).run s = (forRange body n >>= fun _ => body n).run s := rfl

/-- The loop rule.  `I` relates the log so far to the state after `i` iterations;
an iteration that stops must leave a log that `E` allows. -/
theorem forRange_meets {body : Nat → Action σ ω ε Unit} {s : σ} {n : Nat}
    {I : Nat → List ω → σ → Prop} {E : List ω → ε → Prop} (hstart : I 0 [] s)
    (hstep : ∀ i l t, i < n → I i l t →
      Meets (body i) t (fun l' _ u => I (i + 1) (l ++ l') u) (fun l' e => E (l ++ l') e)) :
    Meets (forRange body n) s (fun l _ t => I n l t) E := by
  induction n with
  | zero => exact hstart
  | succ n ih =>
    have hinitial : Meets (forRange body n) s (fun l _ t => I n l t) E :=
      ih fun i l t hi hI => hstep i l t (Nat.lt_succ_of_lt hi) hI
    have hrest : Meets (forRange body n) s
        (fun l _ t => Meets (body n) t (fun l' _ u => I (n + 1) (l ++ l') u)
          (fun l' e => E (l ++ l') e)) E :=
      hinitial.mono (fun l _ t hI => hstep n l t (Nat.lt_succ_self n) hI) (fun _ _ hE => hE)
    exact Meets.bind hrest

/-- When every iteration returns, the loop runs through the states `state 0`,
`state 1`, and so on, and its log is theirs in order. -/
theorem forRange_of_ok {body : Nat → Action σ ω ε Unit} {n : Nat} (state : Nat → σ)
    {log : Nat → List ω}
    (hstep : ∀ i, i < n →
      (body i).run (state i) = { log := log i, exit := .ok ((), state (i + 1)) }) :
    (forRange body n).run (state 0) =
      { log := (List.range n).flatMap log, exit := .ok ((), state n) } := by
  induction n with
  | zero => rfl
  | succ n ih =>
    rw [forRange_succ, bind_of_ok (ih fun i hi => hstep i (Nat.lt_succ_of_lt hi)),
      hstep n (Nat.lt_succ_self n), Run.after_mk, List.range_succ, List.flatMap_append,
      List.flatMap_singleton]

/-! ### Loops that may stop on the way -/

section Stopping

variable {body : Nat → Action σ ω ε Unit} (state : Nat → σ) {log : Nat → List ω}
  (goes : Nat → Prop) [DecidablePred goes] {n : Nat}

/-- The loop comes to its end when every iteration goes on to the next state. -/
theorem forRange_final?_of_goes
    (hfinal : ∀ i, i < n →
      ((body i).run (state i)).final? = if goes i then some ((), state (i + 1)) else none) :
    ((forRange body n).run (state 0)).final? =
      if ∀ i, i < n → goes i then some ((), state n) else none := by
  induction n with
  | zero => rfl
  | succ n ih =>
    rw [forRange_succ, bind_final?, ih fun i hi => hfinal i (Nat.lt_succ_of_lt hi)]
    by_cases hbefore : ∀ i, i < n → goes i
    · rw [if_pos hbefore, Option.bind_some, hfinal n (Nat.lt_succ_self n)]
      by_cases hlast : goes n
      · have hall : ∀ i, i < n + 1 → goes i := by
          intro i hi
          rcases Nat.lt_succ_iff_lt_or_eq.mp hi with hlt | rfl
          · exact hbefore i hlt
          · exact hlast
        rw [if_pos hlast, if_pos hall]
      · have hnot : ¬ ∀ i, i < n + 1 → goes i := fun h => hlast (h n (Nat.lt_succ_self n))
        rw [if_neg hlast, if_neg hnot]
    · have hnot : ¬ ∀ i, i < n + 1 → goes i :=
        fun h => hbefore fun i hi => h i (Nat.lt_succ_of_lt hi)
      rw [if_neg hbefore, if_neg hnot]
      rfl

/-- Each iteration adds its log if none before it stopped. -/
theorem forRange_log_of_goes (hlog : ∀ i, i < n → ((body i).run (state i)).log = log i)
    (hfinal : ∀ i, i < n →
      ((body i).run (state i)).final? = if goes i then some ((), state (i + 1)) else none) :
    ((forRange body n).run (state 0)).log =
      (List.range n).flatMap fun i => if ∀ j, j < i → goes j then log i else [] := by
  induction n with
  | zero => rfl
  | succ n ih =>
    have hbefore := fun i hi => hfinal i (Nat.lt_succ_of_lt hi)
    rw [forRange_succ, bind_log, ih (fun i hi => hlog i (Nat.lt_succ_of_lt hi)) hbefore,
      forRange_final?_of_goes state goes hbefore, List.range_succ, List.flatMap_append,
      List.flatMap_singleton]
    by_cases hgoes : ∀ j, j < n → goes j
    · rw [if_pos hgoes, if_pos hgoes, Option.elim_some, hlog n (Nat.lt_succ_self n)]
    · rw [if_neg hgoes, if_neg hgoes, Option.elim_none]

end Stopping

/-- What every iteration that returns vouches for, a loop that returns vouches for. -/
theorem forRange_meets_forall {body : Nat → Action σ ω ε Unit} {s : σ} {n : Nat} {P : Nat → Prop}
    (h : ∀ i t, i < n → Meets (body i) t (fun _ _ _ => P i) (fun _ _ => True)) :
    Meets (forRange body n) s (fun _ _ _ => ∀ i, i < n → P i) (fun _ _ => True) := by
  refine forRange_meets (I := fun n _ _ => ∀ i, i < n → P i)
    (fun i hi => absurd hi (Nat.not_lt_zero i)) ?_
  intro i l t hi hbefore
  refine (h i t hi).mono ?_ (fun _ _ _ => trivial)
  intro l' _ u hlast j hj
  rcases Nat.lt_succ_iff_lt_or_eq.mp hj with hlt | rfl
  · exact hbefore j hlt
  · exact hlast

/-- The body for each entry of a list in turn. -/
def forEach (body : α → Action σ ω ε Unit) : List α → Action σ ω ε Unit
  | [] => pure ()
  | a :: rest => body a >>= fun _ => forEach body rest

theorem forEach_cons (body : α → Action σ ω ε Unit) (a : α) (rest : List α) (s : σ) :
    (forEach body (a :: rest)).run s = (body a >>= fun _ => forEach body rest).run s := rfl

theorem forEach_singleton (body : α → Action σ ω ε Unit) (a : α) (s : σ) :
    (forEach body [a]).run s = (body a).run s := bind_pure_run (body a) s

theorem forEach_append (body : α → Action σ ω ε Unit) (xs ys : List α) (s : σ) :
    (forEach body (xs ++ ys)).run s = (forEach body xs >>= fun _ => forEach body ys).run s := by
  induction xs generalizing s with
  | nil => rfl
  | cons a xs ih =>
    show (body a >>= fun _ => forEach body (xs ++ ys)).run s =
      ((body a >>= fun _ => forEach body xs) >>= fun _ => forEach body ys).run s
    rw [bind_assoc_run]
    exact bind_congr_run (fun _ t => ih t) s

end Action
end Effect
end OpcuaGateway
