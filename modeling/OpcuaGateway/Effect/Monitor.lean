/-
Safety monitors over logs.

A monitor reads a log from the front, keeps what it has to remember in a `τ`, and
rules on each event before it takes it in.
-/
import OpcuaGateway.Effect.Loop

namespace OpcuaGateway
namespace Effect

structure Monitor (ω τ : Type) where
  next : τ → ω → τ
  allows : τ → ω → Prop

namespace Monitor

variable {ω τ : Type} (m : Monitor ω τ)

def after (t : τ) (l : List ω) : τ := l.foldl m.next t

/-- Every event of the log is allowed where it stands. -/
def Accepts : τ → List ω → Prop
  | _, [] => True
  | t, e :: l => m.allows t e ∧ Accepts (m.next t e) l

@[simp] theorem after_nil (t : τ) : m.after t [] = t := rfl

@[simp] theorem after_cons (t : τ) (e : ω) (l : List ω) :
    m.after t (e :: l) = m.after (m.next t e) l := rfl

theorem after_append (t : τ) (l l' : List ω) :
    m.after t (l ++ l') = m.after (m.after t l) l' := List.foldl_append

@[simp] theorem accepts_nil (t : τ) : m.Accepts t [] := trivial

@[simp] theorem accepts_cons (t : τ) (e : ω) (l : List ω) :
    m.Accepts t (e :: l) ↔ m.allows t e ∧ m.Accepts (m.next t e) l := Iff.rfl

theorem accepts_append (t : τ) (l l' : List ω) :
    m.Accepts t (l ++ l') ↔ m.Accepts t l ∧ m.Accepts (m.after t l) l' := by
  induction l generalizing t with
  | nil => simp
  | cons e l ih => rw [List.cons_append, accepts_cons, accepts_cons, ih, after_cons, and_assoc]

theorem after_invariant {P : τ → Prop} (hnext : ∀ t e, P t → P (m.next t e)) {t : τ} (h : P t)
    (l : List ω) : P (m.after t l) := by
  induction l generalizing t with
  | nil => exact h
  | cons e l ih => exact ih (hnext t e h)

/-! ### Stretches that are ruled on by themselves -/

/-- Whatever the monitor remembers, it accepts the stretch exactly when `P`. -/
def Rules (P : Prop) (l : List ω) : Prop := ∀ t, m.Accepts t l ↔ P

variable {m} {P Q : Prop} {l l' : List ω}

theorem rules_nil : m.Rules True [] := fun _ => Iff.rfl

theorem Rules.append (hl : m.Rules P l) (hl' : m.Rules Q l') : m.Rules (P ∧ Q) (l ++ l') := by
  intro t
  rw [accepts_append, hl t, hl' (m.after t l)]

theorem Rules.congr (hl : m.Rules P l) (h : P ↔ Q) : m.Rules Q l := fun t => (hl t).trans h

/-- A stretch that is there only under a condition. -/
theorem Rules.of_ite {c : Prop} [Decidable c] (hl : m.Rules P l) :
    m.Rules (c → P) (if c then l else []) := by
  by_cases hc : c
  · rw [if_pos hc]
    exact hl.congr ⟨fun h _ => h, fun h => h hc⟩
  · rw [if_neg hc]
    exact rules_nil.congr ⟨fun _ h => absurd h hc, fun _ => trivial⟩

theorem rules_flatMap {α : Type} {l : List α} {f : α → List ω} {R : α → Prop}
    (h : ∀ a ∈ l, m.Rules (R a) (f a)) : m.Rules (∀ a ∈ l, R a) (l.flatMap f) := by
  induction l with
  | nil => exact rules_nil.congr ⟨fun _ => nofun, fun _ => trivial⟩
  | cons a l ih =>
    have hrest := ih fun b hb => h b (List.mem_cons_of_mem a hb)
    rw [List.flatMap_cons]
    exact ((h a List.mem_cons_self).append hrest).congr List.forall_mem_cons.symm

/-! ### Watching one party of a system -/

variable {ω' : Type}

variable (m)

/-- The monitor of a log in which only the events that `f` picks out concern `m`. -/
def lift (f : ω' → Option ω) : Monitor ω' τ where
  next t e :=
    match f e with
    | some a => m.next t a
    | none => t
  allows t e := ∀ a ∈ f e, m.allows t a

theorem lift_accepts (f : ω' → Option ω) (t : τ) (l : List ω') :
    (m.lift f).Accepts t l ↔ m.Accepts t (l.filterMap f) := by
  induction l generalizing t with
  | nil => exact Iff.rfl
  | cons e l ih =>
    rw [accepts_cons, ih]
    cases he : f e with
    | none => simp [lift, he]
    | some a => simp [lift, he]

end Monitor

/-! ## Properties of whole logs -/

/-- A property of logs that holds of the empty log and of a log made of two parts
that have it. -/
structure LogProperty (ω : Type) where
  holds : List ω → Prop
  nil : holds []
  append : ∀ {l l' : List ω}, holds l → holds l' → holds (l ++ l')

/-- Every event of the log has `P`. -/
def LogProperty.every {ω : Type} (P : ω → Prop) : LogProperty ω where
  holds l := ∀ e ∈ l, P e
  nil _ hmem := absurd hmem List.not_mem_nil
  append hl hr := List.forall_mem_append.mpr ⟨hl, hr⟩

namespace Action

variable {σ ω ε α β : Type}

/-- Whatever state it starts in and however it ends, `m` leaves a log that has `p`. -/
def Logs (m : Action σ ω ε α) (p : LogProperty ω) : Prop := ∀ s, p.holds (m.run s).log

theorem logs_pure (p : LogProperty ω) (a : α) : Logs (pure a : Action σ ω ε α) p :=
  fun _ => p.nil

theorem logs_update (p : LogProperty ω) (f : σ → α × σ) : Logs (update f : Action σ ω ε α) p :=
  fun _ => p.nil

theorem logs_emit {p : LogProperty ω} {e : ω} (h : p.holds [e]) :
    Logs (emit e : Action σ ω ε Unit) p := fun _ => h

theorem Logs.bind {p : LogProperty ω} {m : Action σ ω ε α} {f : α → Action σ ω ε β}
    (hm : Logs m p) (hf : ∀ a, Logs (f a) p) : Logs (m >>= f) p := by
  intro s
  have hfirst := hm s
  rw [bind_run]
  rcases (m.run s).exit with e | ⟨a, t⟩
  · exact hfirst
  · exact p.append hfirst (hf a t)

/-- What comes after `m` adds nothing to its log but a stretch that has `p`. -/
theorem Logs.bind_log {p : LogProperty ω} {f : α → Action σ ω ε β} (hf : ∀ a, Logs (f a) p)
    (m : Action σ ω ε α) (s : σ) :
    ∃ l, ((m >>= f).run s).log = (m.run s).log ++ l ∧ p.holds l := by
  rw [bind_run]
  rcases (m.run s).exit with e | ⟨a, t⟩
  · exact ⟨[], (List.append_nil _).symm, p.nil⟩
  · exact ⟨((f a).run t).log, rfl, hf a t⟩

theorem Logs.forRange {p : LogProperty ω} {body : Nat → Action σ ω ε Unit} {n : Nat}
    (h : ∀ i, i < n → Logs (body i) p) : Logs (forRange body n) p := by
  induction n with
  | zero => exact logs_pure p ()
  | succ n ih =>
    have hinitial := ih fun i hi => h i (Nat.lt_succ_of_lt hi)
    exact hinitial.bind fun _ => h n (Nat.lt_succ_self n)

end Action
end Effect
end OpcuaGateway
