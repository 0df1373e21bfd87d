/-
The heap over the polling loop.

Every iteration that reaches its end keeps at least the item of its first request:
`leaked` is the exact number of blocks, `visitState_live` the theorem.  So the heap
grows with every pass, and stays bounded only over runs that stop polling.
-/
import OpcuaGateway.Poller.Safety

namespace OpcuaGateway
namespace Poller

open Effect Effect.Action Heap Opcua Rtc Text Numeric Idf

namespace TaskState

/-- The number of live heap objects of the task. -/
def live (s : TaskState) : Nat := s.heap.total

theorem live_acquire (s : TaskState) (blocks : Nat) :
    (s.acquire blocks).live = s.live + blocks := Ledger.total_acquire s.heap blocks

theorem live_served (s : TaskState) (outcome : ServiceOutcome) :
    (s.served outcome).live = s.live + outcome.response.memberBlocks :=
  Ledger.total_acquire s.heap outcome.response.memberBlocks

theorem live_drop (s : TaskState) (id : Nat) : (s.drop id).live + s.heap.share id = s.live :=
  Ledger.total_drop s.heap id

theorem live_withTime (s : TaskState) (t : Tm) : (s.withTime t).live = s.live := rfl

end TaskState

/-! ## The balance of an iteration -/

theorem nameServed_live (env : PassEnv) (i : Nat) (s : TaskState) :
    (nameServed env i s).live = s.live + 1 + (env.name i).response.memberBlocks := by
  rw [nameServed, TaskState.live_served, TaskState.live_acquire]

theorem nameServed_share (env : PassEnv) (i : Nat) (s : TaskState) :
    (nameServed env i s).heap.share (s.heap.next + 1) = (env.name i).response.memberBlocks :=
  Ledger.share_acquire_self (s.acquire 1).heap _

theorem valueServed_live (env : PassEnv) (i : Nat) (s : TaskState) :
    (valueServed env i s).live =
      s.live + 3 + (env.name i).response.memberBlocks + (env.value i).response.memberBlocks := by
  rw [valueServed, TaskState.live_served, TaskState.live_acquire, TaskState.live_acquire,
    nameServed_live]
  omega

theorem valueServed_share_name (env : PassEnv) (i : Nat) (s : TaskState) :
    (valueServed env i s).heap.share (s.heap.next + 1) = (env.name i).response.memberBlocks := by
  rw [← nameServed_share env i s]
  have hcopy : s.heap.next + 1 ≠ (nameServed env i s).heap.next := by
    show s.heap.next + 1 ≠ s.heap.next + 1 + 1
    omega
  have hitem : s.heap.next + 1 ≠ ((nameServed env i s).acquire 1).heap.next := by
    show s.heap.next + 1 ≠ s.heap.next + 1 + 1 + 1
    omega
  have hresponse : s.heap.next + 1 ≠ (((nameServed env i s).acquire 1).acquire 1).heap.next := by
    show s.heap.next + 1 ≠ s.heap.next + 1 + 1 + 1 + 1
    omega
  calc (valueServed env i s).heap.share (s.heap.next + 1)
      = (((nameServed env i s).acquire 1).acquire 1).heap.share (s.heap.next + 1) :=
        Ledger.share_acquire_of_ne hresponse
    _ = ((nameServed env i s).acquire 1).heap.share (s.heap.next + 1) :=
        Ledger.share_acquire_of_ne hitem
    _ = (nameServed env i s).heap.share (s.heap.next + 1) := Ledger.share_acquire_of_ne hcopy

theorem valueServed_share_value (env : PassEnv) (i : Nat) (s : TaskState) :
    (valueServed env i s).heap.share (s.heap.next + 4) = (env.value i).response.memberBlocks :=
  Ledger.share_acquire_self (((nameServed env i s).acquire 1).acquire 1).heap _

theorem settled_live (env : PassEnv) (i : Nat) (s : TaskState) :
    (settled env i s).live = s.live + 3 := by
  have htotal := valueServed_live env i s
  have hvalue := TaskState.live_drop (valueServed env i s) (s.heap.next + 4)
  have hname := TaskState.live_drop ((valueServed env i s).drop (s.heap.next + 4)) (s.heap.next + 1)
  have hother : ((valueServed env i s).drop (s.heap.next + 4)).heap.share (s.heap.next + 1) =
      (valueServed env i s).heap.share (s.heap.next + 1) :=
    Ledger.share_drop_of_ne (by omega)
  rw [valueServed_share_value] at hvalue
  rw [hother, valueServed_share_name] at hname
  show (((valueServed env i s).drop (s.heap.next + 4)).drop (s.heap.next + 1)).live = _
  omega

/-- The blocks an iteration allocates and never frees. -/
def leaked (env : PassEnv) (i : Nat) : NodeVisit → Nat
  | .faulted _ _ => 0
  | .nameBad => 1 + (env.name i).response.memberBlocks
  | .nameMistyped => 1
  | .valueBad => 3 + (env.value i).response.memberBlocks
  | .valueMistyped => 3
  | .sampled _ _ => 3

theorem visitState_live (env : PassEnv) (i : Nat) (s : TaskState) (v : NodeVisit) :
    (visitState env i s v).live = s.live + leaked env i v := by
  cases v with
  | faulted fault reads => rfl
  | nameBad => rw [visitState, nameServed_live, leaked, Nat.add_assoc]
  | nameMistyped =>
    have htotal := nameServed_live env i s
    have hname := TaskState.live_drop (nameServed env i s) (s.heap.next + 1)
    rw [nameServed_share] at hname
    rw [visitState, leaked]
    omega
  | valueBad =>
    have htotal := valueServed_live env i s
    have hname := TaskState.live_drop (valueServed env i s) (s.heap.next + 1)
    rw [valueServed_share_name] at hname
    rw [visitState, leaked]
    omega
  | valueMistyped => exact settled_live env i s
  | sampled name sample =>
    rw [visitState, TaskState.live_withTime]
    exact settled_live env i s

theorem leaked_pos (env : PassEnv) (i : Nat) {v : NodeVisit} (h : v.fault? = none) :
    0 < leaked env i v := by
  cases v with
  | faulted fault reads => cases h
  | nameBad => exact Nat.lt_of_lt_of_le Nat.one_pos (Nat.le_add_right 1 _)
  | nameMistyped => exact Nat.one_pos
  | valueBad => exact Nat.lt_of_lt_of_le (by decide) (Nat.le_add_right 3 _)
  | valueMistyped => exact Nat.succ_pos 2
  | sampled name sample => exact Nat.succ_pos 2

/-- The ledger law of one iteration. -/
def Balanced (env : PassEnv) (i : Nat) (s : TaskState) : Prop :=
  Meets (nodeBody env i) s (fun _ _ t => t.live = s.live) (fun _ fault => fault ≠ .doubleFree)

theorem balanced_iff (env : PassEnv) {i : Nat} (hi : i < 10) (s : TaskState) :
    Balanced env i s ↔ ¬ Sound env i := by
  rw [← visit_fault?_eq_none]
  constructor
  · intro hbalanced hfault
    have hrun := (nodeBody_run env hi s).trans (visitRun_of_not_faulted hfault s)
    rw [Balanced, meets_of_ok hrun, visitState_live] at hbalanced
    have hpos := leaked_pos env i hfault
    omega
  · intro hfault
    refine nodeBody_meets hi (fun hnone => absurd hnone hfault) ?_
    intro fault _ hstopped
    rcases visit_fault_ofBody hstopped with rfl | rfl <;> exact Fault.noConfusion

/-! ## The balance of the loop -/

theorem pollNodes_meets_live (env : PassEnv) (s : TaskState) :
    Meets (pollNodes env) s (fun _ _ t => s.live + 10 ≤ t.live) (fun _ _ => True) := by
  refine forRange_meets (I := fun i _ (t : TaskState) => s.live + i ≤ t.live) (Nat.le_refl _) ?_
  intro i l t hi hlive
  refine nodeBody_meets hi ?_ (fun _ _ _ => trivial)
  intro hfault
  have hpos := leaked_pos env i hfault
  rw [visitState_live]
  omega

/-- The number of passes among the first `n` evaluations of the guard. -/
def passes (env : TaskEnv) : Nat → Nat
  | 0 => 0
  | n + 1 => passes env n + if env.ethernetConnected n = 1 then 1 else 0

theorem passes_le_passes (env : TaskEnv) {n m : Nat} (h : n ≤ m) : passes env n ≤ passes env m := by
  induction h with
  | refl => exact Nat.le_refl _
  | step _ ih => exact Nat.le_trans ih (Nat.le_add_right _ _)

theorem passes_unbounded {env : TaskEnv} (h : ∀ k, ∃ m ≥ k, env.ethernetConnected m = 1)
    (bound : Nat) : ∃ n, bound ≤ passes env n := by
  induction bound with
  | zero => exact ⟨0, Nat.zero_le _⟩
  | succ bound ih =>
    obtain ⟨n, hn⟩ := ih
    obtain ⟨m, hm, hguard⟩ := h n
    refine ⟨m + 1, ?_⟩
    have hle := passes_le_passes env hm
    rw [passes, if_pos hguard]
    omega

theorem cycle_meets_live (env : TaskEnv) (k : Nat) (s : TaskState) :
    Meets (cycle env k) s
      (fun _ _ t => s.live + 10 * (if env.ethernetConnected k = 1 then 1 else 0) ≤ t.live)
      (fun _ _ => True) := by
  refine cycle_meets (Q := fun _ (t : TaskState) =>
    s.live + 10 * (if env.ethernetConnected k = 1 then 1 else 0) ≤ t.live)
    (fun h => ?_) (fun h => ?_)
  · rw [if_neg h]
    exact Nat.le_refl _
  · rw [if_pos h]
    exact pollNodes_meets_live (env.pass k) s

theorem loop_meets_live (env : TaskEnv) (n : Nat) (s : TaskState) :
    Meets (forRange (cycle env) n) s (fun _ _ t => s.live + 10 * passes env n ≤ t.live)
      (fun _ _ => True) := by
  refine forRange_meets (I := fun k _ (t : TaskState) => s.live + 10 * passes env k ≤ t.live)
    (Nat.le_refl _) ?_
  intro k l t _ hlive
  refine (cycle_meets_live env k t).mono ?_ (fun _ _ _ => trivial)
  intro l' _ u hgrown
  rw [passes]
  omega

/-! ## Growth -/

/-- The live objects after `n` evaluations of the guard, as long as the loop runs. -/
def liveAfter (env : TaskEnv) (s : TaskState) (n : Nat) : Option Nat :=
  match ((forRange (cycle env) n).run s).exit with
  | .ok (_, t) => some t.live
  | .error _ => none

/-- A constant bounds the number of live objects over the whole loop. -/
def Bounded (env : TaskEnv) (s : TaskState) : Prop :=
  ∃ bound, ∀ n, ∀ live ∈ liveAfter env s n, live ≤ bound

/-- What settles after `last` evaluations is bounded. -/
theorem bounded_of_settled {env : TaskEnv} {s : TaskState} (last : Nat)
    (h : ∀ n, last ≤ n → liveAfter env s n = liveAfter env s last ∨ liveAfter env s n = none) :
    Bounded env s := by
  have hinitial : ∀ m, ∃ bound, ∀ n, n < m → ∀ live ∈ liveAfter env s n, live ≤ bound := by
    intro m
    induction m with
    | zero => exact ⟨0, fun n hn => absurd hn (Nat.not_lt_zero n)⟩
    | succ m ih =>
      obtain ⟨bound, hbound⟩ := ih
      refine ⟨bound + (liveAfter env s m).getD 0, ?_⟩
      intro n hn live hlive
      rcases Nat.lt_succ_iff_lt_or_eq.mp hn with hlt | rfl
      · exact Nat.le_add_right_of_le (hbound n hlt live hlive)
      · rw [Option.mem_def.mp hlive]
        exact Nat.le_add_left live bound
  obtain ⟨bound, hbound⟩ := hinitial (last + 1)
  refine ⟨bound, ?_⟩
  intro n live hlive
  rcases Nat.lt_or_ge n (last + 1) with hlt | hge
  · exact hbound n hlt live hlive
  · rcases h n (Nat.le_of_succ_le hge) with hsame | hstopped
    · rw [hsame] at hlive
      exact hbound last (Nat.lt_succ_self last) live hlive
    · rw [hstopped] at hlive
      cases hlive

theorem liveAfter_idle {env : TaskEnv} {s : TaskState} {last : Nat}
    (h : ∀ k ≥ last, env.ethernetConnected k ≠ 1) {n : Nat} (hn : last ≤ n) :
    liveAfter env s n = liveAfter env s last := by
  induction n, hn using Nat.le_induction with
  | base => rfl
  | succ n hn ih =>
    rw [← ih]
    unfold liveAfter
    rw [forRange_succ, bind_run]
    rcases ((forRange (cycle env) n).run s).exit with fault | ⟨_, t⟩
    · rfl
    · simp only [cycle_run_idle (h n hn) t, Run.after_exit]

theorem liveAfter_stopped {env : TaskEnv} {s : TaskState} {k n : Nat} (h : ¬ Completes env k)
    (hn : k < n) : liveAfter env s n = none := by
  have hmeets := loop_meets_completes env n s
  unfold liveAfter
  rcases hexit : ((forRange (cycle env) n).run s).exit with fault | ⟨_, t⟩
  · rfl
  · simp only [Meets, hexit] at hmeets
    exact absurd (hmeets k hn) h

theorem bounded_iff (env : TaskEnv) (s : TaskState) :
    Bounded env s ↔
      (∃ k, ∀ m ≥ k, env.ethernetConnected m ≠ 1) ∨ ∃ k, ¬ Completes env k := by
  constructor
  · intro hbounded
    by_contra hnot
    rw [not_or, not_exists, not_exists] at hnot
    obtain ⟨hpolls, hcompletes⟩ := hnot
    obtain ⟨bound, hbound⟩ := hbounded
    have hagain : ∀ k, ∃ m ≥ k, env.ethernetConnected m = 1 := by
      intro k
      by_contra hnone
      exact hpolls k fun m hm hguard => hnone ⟨m, hm, hguard⟩
    obtain ⟨n, hn⟩ := passes_unbounded hagain (bound + 1)
    obtain ⟨l, t, hrun⟩ := loop_returns (fun k _ => not_not.mp (hcompletes k)) s
    have hgrown := loop_meets_live env n s
    rw [meets_of_ok hrun] at hgrown
    have hlive : t.live ∈ liveAfter env s n := by
      rw [liveAfter, hrun]
      rfl
    have hle := hbound n t.live hlive
    omega
  · intro h
    rcases h with ⟨k, hidle⟩ | ⟨k, hstops⟩
    · exact bounded_of_settled k fun n hn => Or.inl (liveAfter_idle hidle hn)
    · exact bounded_of_settled (k + 1) fun n hn => Or.inr (liveAfter_stopped hstops hn)

/-- An iteration gives back what it took only by never reaching its end, and the live
objects stay bounded only when the polling ends. -/
theorem polling_leaks (pass : PassEnv) (i : Fin 10) (env : TaskEnv) (s : TaskState) :
    (Balanced pass i s ↔ ¬ Sound pass i) ∧
      (Bounded env s ↔
        (∃ k, ∀ m ≥ k, env.ethernetConnected m ≠ 1) ∨
          ∃ k, env.ethernetConnected k = 1 ∧ ∃ i : Fin 10, ¬ Sound (env.pass k) i) := by
  constructor
  · exact balanced_iff pass i.isLt s
  · rw [bounded_iff]
    refine or_congr Iff.rfl (exists_congr fun k => ?_)
    rw [Completes, Classical.not_imp, not_forall]

theorem polling_picky_unbalanced :
    ¬ ((∀ (env : PassEnv) (i : Fin 10) (s : TaskState), Balanced env i s) ∧
      ∀ (env : TaskEnv) (s : TaskState), Bounded env s) := by
  intro h
  have hsound : (visit pickyEnv 0).fault? = none := by decide
  have hbalanced := h.1 pickyEnv 0 TaskState.start
  exact (balanced_iff pickyEnv (by decide) TaskState.start).mp hbalanced
    (visit_fault?_eq_none.mp hsound)

end Poller
end OpcuaGateway
