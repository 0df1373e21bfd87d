import OpcuaGateway.Poller.Pass

namespace OpcuaGateway
namespace Poller

open Effect Effect.Action Heap Opcua Rtc Text Numeric Idf

/-! ## When an iteration reaches its end -/

/-- What the value half needs once the name was accepted. -/
def ValueSound (env : PassEnv) (i : Nat) : Prop :=
  env.nodeName i = true ∧ env.valueItem i = true ∧ Carrying (env.value i).response

/-- The allocations on the way succeed, and no GOOD response on the way is empty. -/
def Sound (env : PassEnv) (i : Nat) : Prop :=
  env.nameItem i = true ∧ Carrying (env.name i).response ∧
    (OffersName env i → ValueSound env i)

theorem valueVisit_fault?_eq_none {env : PassEnv} {i : Nat} {name : UaString} :
    (valueVisit env i name).fault? = none ↔
      env.valueItem i = true ∧ Carrying (env.value i).response := by
  unfold valueVisit Carrying
  split_ifs with hitem hgood hempty
  · simp [NodeVisit.fault?, hgood, hempty]
  · cases scalarSample (env.value i).response <;> simp [NodeVisit.fault?, hitem, hempty]
  · simp [NodeVisit.fault?, hitem, hgood]
  · simp [NodeVisit.fault?, hitem]

theorem visit_fault?_eq_none {env : PassEnv} {i : Nat} :
    (visit env i).fault? = none ↔ Sound env i := by
  unfold Sound OffersName ValueSound
  rw [← scalarText_isSome]
  unfold visit
  by_cases hitem : env.nameItem i = true
  · rw [if_pos hitem]
    by_cases hgood : (env.name i).response.serviceResult = uaStatuscodeGood
    · rw [if_pos hgood]
      by_cases hempty : (env.name i).response.results = []
      · simp [hempty, NodeVisit.fault?, Carrying, hgood]
      · rw [if_neg hempty]
        cases scalarText (env.name i).response with
        | none => simp [NodeVisit.fault?, hitem, Carrying, hempty]
        | some name =>
          by_cases hgrant : env.nodeName i = true
          · simp only [if_pos hgrant, valueVisit_fault?_eq_none]
            simp [hitem, hgrant, Carrying, hempty]
          · simp [NodeVisit.fault?, hgrant]
    · simp [NodeVisit.fault?, hitem, hgood, Carrying, scalarText_of_bad hgood]
  · simp [NodeVisit.fault?, hitem]

/-- The two ways the body can go wrong. -/
def Fault.OfBody (fault : Fault) : Prop := fault = .nullDereference ∨ fault = .resultsOutOfRange

theorem valueVisit_fault_ofBody {env : PassEnv} {i : Nat} {name : UaString} {fault : Fault}
    (h : (valueVisit env i name).fault? = some fault) : fault.OfBody := by
  unfold valueVisit at h
  split_ifs at h
  · exact Or.inr (Option.some.inj h).symm
  · cases hsample : scalarSample (env.value i).response <;> rw [hsample] at h <;> cases h
  · cases h
  · exact Or.inl (Option.some.inj h).symm

theorem visit_fault_ofBody {env : PassEnv} {i : Nat} {fault : Fault}
    (h : (visit env i).fault? = some fault) : fault.OfBody := by
  unfold visit at h
  by_cases hitem : env.nameItem i = true
  · rw [if_pos hitem] at h
    by_cases hgood : (env.name i).response.serviceResult = uaStatuscodeGood
    · rw [if_pos hgood] at h
      by_cases hempty : (env.name i).response.results = []
      · rw [if_pos hempty] at h
        exact Or.inr (Option.some.inj h).symm
      · rw [if_neg hempty] at h
        cases htext : scalarText (env.name i).response with
        | none => rw [htext] at h; cases h
        | some name =>
          rw [htext] at h
          by_cases hgrant : env.nodeName i = true
          · simp only [hgrant] at h
            exact valueVisit_fault_ofBody h
          · simp only [hgrant] at h
            exact Or.inl (Option.some.inj h).symm
    · rw [if_neg hgood] at h
      cases h
  · rw [if_neg hitem] at h
    exact Or.inl (Option.some.inj h).symm

/-! ## When a cycle returns -/

/-- A cycle returns, unless one of its iterations stops. -/
def Completes (env : TaskEnv) (k : Nat) : Prop :=
  env.ethernetConnected k = 1 → ∀ i : Fin 10, Sound (env.pass k) i

theorem cycle_returns {env : TaskEnv} {k : Nat} (h : Completes env k) (s : TaskState) :
    ∃ l t, (cycle env k).run s = { log := l, exit := .ok ((), t) } := by
  by_cases hguard : env.ethernetConnected k = 1
  · have hsound : ∀ i, i < 10 → (visit (env.pass k) i).fault? = none :=
      fun i hi => visit_fault?_eq_none.mpr (h hguard ⟨i, hi⟩)
    rw [cycle_run_polling hguard, bind_of_ok (pollNodes_run hsound s)]
    exact ⟨_, _, rfl⟩
  · exact ⟨_, _, cycle_run_idle hguard s⟩

theorem loop_returns {env : TaskEnv} {n : Nat} (h : ∀ k, k < n → Completes env k)
    (s : TaskState) :
    ∃ l t, (forRange (cycle env) n).run s = { log := l, exit := .ok ((), t) } := by
  induction n with
  | zero => exact ⟨[], s, rfl⟩
  | succ n ih =>
    obtain ⟨l, t, hrun⟩ := ih fun k hk => h k (Nat.lt_succ_of_lt hk)
    obtain ⟨l', u, hcycle⟩ := cycle_returns (h n (Nat.lt_succ_self n)) t
    refine ⟨l ++ l', u, ?_⟩
    rw [forRange_succ, bind_of_ok hrun, hcycle]
    rfl

theorem pollNodes_meets_sound (env : PassEnv) (s : TaskState) :
    Meets (pollNodes env) s (fun _ _ _ => ∀ i, i < 10 → Sound env i) (fun _ _ => True) := by
  apply forRange_meets_forall
  intro i t hi
  exact nodeBody_meets hi (fun hfault => visit_fault?_eq_none.mp hfault) (fun _ _ _ => trivial)

theorem cycle_meets_completes (env : TaskEnv) (k : Nat) (s : TaskState) :
    Meets (cycle env k) s (fun _ _ _ => Completes env k) (fun _ _ => True) := by
  refine cycle_meets (Q := fun _ _ => Completes env k) (fun h hguard => absurd hguard h)
    (fun _ => ?_)
  refine (pollNodes_meets_sound (env.pass k) s).mono ?_ (fun _ _ _ => trivial)
  exact fun _ _ _ hsound _ i => hsound i i.isLt

theorem loop_meets_completes (env : TaskEnv) (n : Nat) (s : TaskState) :
    Meets (forRange (cycle env) n) s (fun _ _ _ => ∀ k, k < n → Completes env k)
      (fun _ _ => True) := by
  apply forRange_meets_forall
  intro k t _
  exact cycle_meets_completes env k t

/-! ## Server-response safety -/

/-- The iteration makes no access it has no right to make. -/
def Safe (env : PassEnv) (i : Nat) (s : TaskState) : Prop :=
  ∀ fault, ((nodeBody env i).run s).exit ≠ .error fault

theorem safe_iff_fault? {env : PassEnv} {i : Nat} (hi : i < 10) {s : TaskState} :
    Safe env i s ↔ (visit env i).fault? = none := by
  unfold Safe
  simp only [nodeBody_run env hi, ne_eq, visitRun_exit_error]
  exact Option.eq_none_iff_forall_ne_some.symm

/-- The iteration is safe exactly when the allocations on its way succeed and no GOOD
response on its way is empty.  A text of any length is copied within its allocation. -/
theorem nodeBody_safe_iff (env : PassEnv) (i : Fin 10) (s : TaskState) :
    (Safe env i s ↔ Sound env i) ∧
      ∀ fault, ((nodeBody env i).run s).exit = .error fault →
        fault = .nullDereference ∨ fault = .resultsOutOfRange := by
  constructor
  · rw [safe_iff_fault? i.isLt, visit_fault?_eq_none]
  · intro fault hfault
    rw [nodeBody_run env i.isLt, visitRun_exit_error] at hfault
    exact visit_fault_ofBody hfault

/-- The server answers GOOD without results. -/
def hollowEnv : PassEnv :=
  PassEnv.serving (fun _ => UaReadResponse.init) (fun _ => UaReadResponse.init)
    (fun _ => steadyClock (Vector.replicate 7 0))

theorem nodeBody_hollow_unsafe :
    ¬ ∀ (env : PassEnv) (i : Fin 10) (s : TaskState), Safe env i s := by
  intro h
  have hfault : (visit hollowEnv 0).fault? = some .resultsOutOfRange := by decide
  have hnone := (safe_iff_fault? (by decide)).mp (h hollowEnv 0 TaskState.start)
  rw [show ((0 : Fin 10) : Nat) = 0 from rfl, hfault] at hnone
  cases hnone

end Poller
end OpcuaGateway
