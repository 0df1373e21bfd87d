/-
Computations that log what they do and may stop with a fault.

An `Action` takes a state to a `Run`: the events it logged, and either a value
with the state it leaves or the fault that stopped it.  The log survives a
fault, so a property of everything a computation did before it stopped can be
stated on the log alone.
-/
import Mathlib.Data.List.Basic

namespace OpcuaGateway
namespace Effect

/-- What a computation did: the events it logged and how it ended. -/
structure Run (σ ω ε α : Type) where
  log : List ω
  exit : Except ε (α × σ)

/-- A computation over a state `σ` that logs events `ω`, and returns an `α` or
stops with an `ε`. -/
structure Action (σ ω ε α : Type) where
  run : σ → Run σ ω ε α

variable {σ ω ε α β γ : Type}

namespace Run

def after (l : List ω) (r : Run σ ω ε α) : Run σ ω ε α :=
  { log := l ++ r.log, exit := r.exit }

@[simp] theorem after_log (l : List ω) (r : Run σ ω ε α) : (after l r).log = l ++ r.log := rfl

@[simp] theorem after_exit (l : List ω) (r : Run σ ω ε α) : (after l r).exit = r.exit := rfl

@[simp] theorem after_nil (r : Run σ ω ε α) : after [] r = r := rfl

theorem after_after (l m : List ω) (r : Run σ ω ε α) :
    after l (after m r) = after (l ++ m) r := by
  simp only [after, List.append_assoc]

@[simp] theorem after_mk (l m : List ω) (x : Except ε (α × σ)) :
    after l ⟨m, x⟩ = ⟨l ++ m, x⟩ := rfl

/-- What a run that was not stopped returned, and the state it left. -/
def final? (r : Run σ ω ε α) : Option (α × σ) := r.exit.toOption

theorem final?_after (l : List ω) (r : Run σ ω ε α) : (after l r).final? = r.final? := rfl

theorem final?_eq_none {r : Run σ ω ε α} (h : ∀ a t, r.final? ≠ some (a, t)) :
    r.final? = none := by
  apply Option.eq_none_iff_forall_ne_some.mpr
  intro x hx
  exact h x.1 x.2 hx

end Run

namespace Action

def ret (a : α) : Action σ ω ε α where
  run s := { log := [], exit := .ok (a, s) }

def andThen (m : Action σ ω ε α) (f : α → Action σ ω ε β) : Action σ ω ε β where
  run s :=
    match (m.run s).exit with
    | .ok (a, t) => Run.after (m.run s).log ((f a).run t)
    | .error e => { log := (m.run s).log, exit := .error e }

instance : Monad (Action σ ω ε) where
  pure := ret
  bind := andThen

def emit (e : ω) : Action σ ω ε Unit where
  run s := { log := [e], exit := .ok ((), s) }

def fail (e : ε) : Action σ ω ε α where
  run _ := { log := [], exit := .error e }

/-- Replace the state by its image under `f` and return what `f` gives with it. -/
def update (f : σ → α × σ) : Action σ ω ε α where
  run s := { log := [], exit := .ok (f s) }

def current : Action σ ω ε σ where
  run s := { log := [], exit := .ok (s, s) }

/-! ## Evaluation -/

@[simp] theorem pure_run (a : α) (s : σ) :
    (pure a : Action σ ω ε α).run s = { log := [], exit := .ok (a, s) } := rfl

@[simp] theorem emit_run (e : ω) (s : σ) :
    (emit e : Action σ ω ε Unit).run s = { log := [e], exit := .ok ((), s) } := rfl

@[simp] theorem update_run (f : σ → α × σ) (s : σ) :
    (update f : Action σ ω ε α).run s = { log := [], exit := .ok (f s) } := rfl

@[simp] theorem current_run (s : σ) :
    (current : Action σ ω ε σ).run s = { log := [], exit := .ok (s, s) } := rfl

theorem bind_run (m : Action σ ω ε α) (f : α → Action σ ω ε β) (s : σ) :
    (m >>= f).run s = match (m.run s).exit with
      | .ok (a, t) => Run.after (m.run s).log ((f a).run t)
      | .error e => { log := (m.run s).log, exit := .error e } := rfl

/-- Once the first part has returned, the rest runs on what it left. -/
theorem bind_of_ok {m : Action σ ω ε α} {s t : σ} {l : List ω} {a : α}
    (h : m.run s = { log := l, exit := .ok (a, t) }) (f : α → Action σ ω ε β) :
    (m >>= f).run s = Run.after l ((f a).run t) := by
  rw [bind_run, h]

/-- Once the first part has stopped, so has the whole. -/
theorem bind_of_error {m : Action σ ω ε α} {s : σ} {l : List ω} {e : ε}
    (h : m.run s = { log := l, exit := .error e }) (f : α → Action σ ω ε β) :
    (m >>= f).run s = { log := l, exit := .error e } := by
  rw [bind_run, h]

theorem bind_final? (m : Action σ ω ε α) (f : α → Action σ ω ε β) (s : σ) :
    ((m >>= f).run s).final? = (m.run s).final?.bind fun x => ((f x.1).run x.2).final? := by
  rcases hm : m.run s with ⟨l, e | ⟨a, t⟩⟩
  · rw [bind_of_error hm]
    rfl
  · rw [bind_of_ok hm]
    rfl

theorem bind_log (m : Action σ ω ε α) (f : α → Action σ ω ε β) (s : σ) :
    ((m >>= f).run s).log =
      (m.run s).log ++ (m.run s).final?.elim [] fun x => ((f x.1).run x.2).log := by
  rcases hm : m.run s with ⟨l, e | ⟨a, t⟩⟩
  · rw [bind_of_error hm]
    exact (List.append_nil l).symm
  · rw [bind_of_ok hm]
    rfl

theorem bind_returns {m : Action σ ω ε α} {f : α → Action σ ω ε β} {s u : σ} {b : β} :
    ((m >>= f).run s).final? = some (b, u) ↔
      ∃ a t, (m.run s).final? = some (a, t) ∧ ((f a).run t).final? = some (b, u) := by
  rw [bind_final?, Option.bind_eq_some_iff, Prod.exists]

/-- Nothing is left to do after the last part. -/
theorem bind_pure_run (m : Action σ ω ε Unit) (s : σ) :
    (m >>= fun _ => pure ()).run s = m.run s := by
  rw [bind_run]
  rcases hm : m.run s with ⟨l, e | ⟨⟨⟩, t⟩⟩
  · rfl
  · show Run.mk (l ++ []) (Except.ok ((), t)) = _
    rw [List.append_nil]

theorem bind_assoc_run (m : Action σ ω ε α) (f : α → Action σ ω ε β) (g : β → Action σ ω ε γ)
    (s : σ) : ((m >>= f) >>= g).run s = (m >>= fun a => f a >>= g).run s := by
  rcases hm : m.run s with ⟨l, e | ⟨a, t⟩⟩
  · rw [bind_of_error hm, bind_of_error (bind_of_error hm f)]
  · rcases hf : (f a).run t with ⟨l', e | ⟨b, u⟩⟩
    · have hfirst : (m >>= f).run s = { log := l ++ l', exit := .error e } := by
        rw [bind_of_ok hm, hf]
        rfl
      rw [bind_of_error hfirst, bind_of_ok hm, bind_of_error hf]
      rfl
    · have hfirst : (m >>= f).run s = { log := l ++ l', exit := .ok (b, u) } := by
        rw [bind_of_ok hm, hf]
        rfl
      rw [bind_of_ok hfirst, bind_of_ok hm, bind_of_ok hf, Run.after_after]

theorem bind_congr_run {m : Action σ ω ε α} {f g : α → Action σ ω ε β}
    (h : ∀ a t, (f a).run t = (g a).run t) (s : σ) : (m >>= f).run s = (m >>= g).run s := by
  rcases hm : m.run s with ⟨l, e | ⟨a, t⟩⟩
  · rw [bind_of_error hm, bind_of_error hm]
  · rw [bind_of_ok hm, bind_of_ok hm, h]

/-! ## What a run meets

`Meets` is the partial-correctness statement of an action from one state, with a
clause for each of the two ways it can end.  Both clauses see the log. -/

/-- Started in `s`, `m` returns only as `Q` allows and stops only as `E` allows. -/
def Meets (m : Action σ ω ε α) (s : σ) (Q : List ω → α → σ → Prop)
    (E : List ω → ε → Prop) : Prop :=
  match (m.run s).exit with
  | .ok (a, t) => Q (m.run s).log a t
  | .error e => E (m.run s).log e

theorem meets_of_ok {m : Action σ ω ε α} {s t : σ} {l : List ω} {a : α}
    {Q : List ω → α → σ → Prop} {E : List ω → ε → Prop}
    (h : m.run s = { log := l, exit := .ok (a, t) }) : Meets m s Q E ↔ Q l a t := by
  rw [Meets, h]

theorem meets_of_error {m : Action σ ω ε α} {s : σ} {e : ε}
    {Q : List ω → α → σ → Prop} {E : List ω → ε → Prop} (h : (m.run s).exit = .error e) :
    Meets m s Q E ↔ E (m.run s).log e := by
  rw [Meets, h]

/-- A run that goes on as another one meets what that one meets, its log coming
after. -/
theorem meets_of_after {m : Action σ ω ε α} {m' : Action σ ω ε α} {s s' : σ} {l : List ω}
    {Q : List ω → α → σ → Prop} {E : List ω → ε → Prop} (h : m.run s = Run.after l (m'.run s')) :
    Meets m s Q E ↔ Meets m' s' (fun l' a t => Q (l ++ l') a t) (fun l' e => E (l ++ l') e) := by
  unfold Meets
  rw [h]
  rfl

theorem Meets.mono {m : Action σ ω ε α} {s : σ} {Q Q' : List ω → α → σ → Prop}
    {E E' : List ω → ε → Prop} (h : Meets m s Q E)
    (hQ : ∀ l a t, Q l a t → Q' l a t) (hE : ∀ l e, E l e → E' l e) : Meets m s Q' E' := by
  rcases hx : (m.run s).exit with e | ⟨a, t⟩
  · simp only [Meets, hx] at h ⊢
    exact hE _ _ h
  · simp only [Meets, hx] at h ⊢
    exact hQ _ _ _ h

theorem Meets.and {m : Action σ ω ε α} {s : σ} {Q Q' : List ω → α → σ → Prop}
    {E E' : List ω → ε → Prop} (h : Meets m s Q E) (h' : Meets m s Q' E') :
    Meets m s (fun l a t => Q l a t ∧ Q' l a t) (fun l e => E l e ∧ E' l e) := by
  rcases hx : (m.run s).exit with e | ⟨a, t⟩
  · simp only [Meets, hx] at h h' ⊢
    exact ⟨h, h'⟩
  · simp only [Meets, hx] at h h' ⊢
    exact ⟨h, h'⟩

/-- A statement about the log alone does not ask how the run ends. -/
theorem meets_log_iff {m : Action σ ω ε α} {s : σ} {P : List ω → Prop} :
    Meets m s (fun l _ _ => P l) (fun l _ => P l) ↔ P (m.run s).log := by
  rcases hx : (m.run s).exit with e | ⟨a, t⟩
  · simp only [Meets, hx]
  · simp only [Meets, hx]

/-- The rule of sequencing: the second part is met from wherever the first ends,
and its log is read after the first one's. -/
theorem Meets.bind {m : Action σ ω ε α} {f : α → Action σ ω ε β} {s : σ}
    {Q : List ω → β → σ → Prop} {E : List ω → ε → Prop}
    (h : Meets m s
      (fun l a t => Meets (f a) t (fun l' b u => Q (l ++ l') b u) (fun l' e => E (l ++ l') e)) E) :
    Meets (m >>= f) s Q E := by
  rcases hx : (m.run s).exit with e | ⟨a, t⟩
  · simp only [Meets, hx] at h
    simp only [Meets, bind_run, hx]
    exact h
  · simp only [Meets, hx] at h
    rcases hy : ((f a).run t).exit with e | ⟨b, u⟩
    · simp only [hy] at h
      simp only [Meets, bind_run, hx, Run.after_exit, Run.after_log, hy]
      exact h
    · simp only [hy] at h
      simp only [Meets, bind_run, hx, Run.after_exit, Run.after_log, hy]
      exact h

end Action
end Effect
end OpcuaGateway
