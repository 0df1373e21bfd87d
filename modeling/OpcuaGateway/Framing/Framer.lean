/-
Cutting a stream into frames as it arrives.

A framer looks at what has arrived and not been used yet, and waits, rejects, or takes a
frame off the front.  It is asked that what it has decided does not depend on what comes
behind the frame.  It then comes to the same in however many pieces the stream arrives
(`drain_append`), although the state that decides changes with each frame, the frames are
the stream (`drain_cuts`, `drain_of_cuts`), and a part of it stops within them
(`drain_of_cutsUntil`).
-/
import Mathlib.Data.List.Basic

namespace OpcuaGateway
namespace Framing

inductive Cut (ε : Type) where
  | wait
  | reject (error : ε)
  | frame (length : Nat)
deriving DecidableEq

/-- `handle` is given each frame.  An error it returns stops the stream. -/
structure Framer (σ α ε : Type) where
  cut : σ → List α → Cut ε
  handle : σ → List α → Option ε × σ
  frame_pos : ∀ {s b n}, cut s b = .frame n → 0 < n
  frame_le : ∀ {s b n}, cut s b = .frame n → n ≤ b.length
  frame_append : ∀ {s b n} (c), cut s b = .frame n → cut s (b ++ c) = .frame n
  frame_take : ∀ {s b n}, cut s b = .frame n → cut s (b.take n) = .frame n
  reject_append : ∀ {s b e} (c), cut s b = .reject e → cut s (b ++ c) = .reject e

/-- Where a stream got to: the error that stopped it, or what is left to wait with. -/
structure Outcome (σ α ε : Type) where
  error : Option ε
  state : σ
  rest : List α

variable {σ α ε : Type}

namespace Framer

variable (F : Framer σ α ε)

/-- Take off frames until the framer waits, rejects or is stopped. -/
def drain (s : σ) (b : List α) : Outcome σ α ε :=
  match _hcut : F.cut s b with
  | .wait => { error := none, state := s, rest := b }
  | .reject e => { error := some e, state := s, rest := [] }
  | .frame n =>
    match F.handle s (b.take n) with
    | (none, t) => drain t (b.drop n)
    | (some e, t) => { error := some e, state := t, rest := [] }
termination_by b.length
decreasing_by
  have hpos := F.frame_pos _hcut
  have hle := F.frame_le _hcut
  rw [List.length_drop]
  omega

theorem drain_of_wait {s : σ} {b : List α} (h : F.cut s b = .wait) :
    F.drain s b = { error := none, state := s, rest := b } := by
  rw [drain]
  split
  · rfl
  · rename_i e he; rw [h] at he; cases he
  · rename_i n hn; rw [h] at hn; cases hn

theorem drain_of_reject {s : σ} {b : List α} {e : ε} (h : F.cut s b = .reject e) :
    F.drain s b = { error := some e, state := s, rest := [] } := by
  rw [drain]
  split
  · rename_i hw; rw [h] at hw; cases hw
  · rename_i e' he; rw [h] at he; cases he; rfl
  · rename_i n hn; rw [h] at hn; cases hn

theorem drain_of_handled {s t : σ} {b : List α} {n : Nat} (h : F.cut s b = .frame n)
    (ht : F.handle s (b.take n) = (none, t)) : F.drain s b = F.drain t (b.drop n) := by
  rw [drain]
  split
  · rename_i hw; rw [h] at hw; cases hw
  · rename_i e he; rw [h] at he; cases he
  · rename_i m hm
    rw [h] at hm
    cases hm
    rw [ht]

theorem drain_of_stopped {s t : σ} {b : List α} {n : Nat} {e : ε} (h : F.cut s b = .frame n)
    (ht : F.handle s (b.take n) = (some e, t)) :
    F.drain s b = { error := some e, state := t, rest := [] } := by
  rw [drain]
  split
  · rename_i hw; rw [h] at hw; cases hw
  · rename_i e' he; rw [h] at he; cases he
  · rename_i m hm
    rw [h] at hm
    cases hm
    rw [ht]

/-- The induction a stream is reasoned about with: one case for each way it can go on. -/
theorem drain_induction {P : σ → List α → Prop}
    (wait : ∀ s b, F.cut s b = .wait → P s b)
    (reject : ∀ s b e, F.cut s b = .reject e → P s b)
    (stopped : ∀ s b n t e, F.cut s b = .frame n → F.handle s (b.take n) = (some e, t) → P s b)
    (handled : ∀ s b n t, F.cut s b = .frame n → F.handle s (b.take n) = (none, t) →
      P t (b.drop n) → P s b) (s : σ) (b : List α) : P s b := by
  induction hn : b.length using Nat.strongRecOn generalizing s b with
  | ind k ih =>
    rcases hcut : F.cut s b with _ | e | n
    · exact wait s b hcut
    · exact reject s b e hcut
    · have hpos := F.frame_pos hcut
      have hle := F.frame_le hcut
      rcases hhandle : F.handle s (b.take n) with ⟨_ | e, t⟩
      · refine handled s b n t hcut hhandle (ih _ ?_ t (b.drop n) rfl)
        rw [List.length_drop]
        omega
      · exact stopped s b n t e hcut hhandle

/-- What arrives later is used with what was left. -/
theorem drain_append {s : σ} {b : List α} (c : List α) (h : (F.drain s b).error = none) :
    F.drain s (b ++ c) = F.drain (F.drain s b).state ((F.drain s b).rest ++ c) := by
  induction s, b using F.drain_induction with
  | wait s b hcut => rw [drain_of_wait F hcut]
  | reject s b e hcut => rw [drain_of_reject F hcut] at h; cases h
  | stopped s b n t e hcut ht => rw [drain_of_stopped F hcut ht] at h; cases h
  | handled s b n t hcut ht ih =>
    have htake : (b ++ c).take n = b.take n := List.take_append_of_le_length (F.frame_le hcut)
    have hdrop : (b ++ c).drop n = b.drop n ++ c :=
      List.drop_append_of_le_length (F.frame_le hcut)
    rw [drain_of_handled F hcut ht] at h ⊢
    rw [drain_of_handled F (F.frame_append c hcut) (htake ▸ ht), hdrop, ih h]

/-- What arrives after the stream was stopped is not looked at. -/
theorem drain_append_of_error {s : σ} {b : List α} {e : ε} (c : List α)
    (h : (F.drain s b).error = some e) : F.drain s (b ++ c) = F.drain s b := by
  induction s, b using F.drain_induction with
  | wait s b hcut => rw [drain_of_wait F hcut] at h; cases h
  | reject s b e' hcut => rw [drain_of_reject F hcut, drain_of_reject F (F.reject_append c hcut)]
  | stopped s b n t e' hcut ht =>
    have htake : (b ++ c).take n = b.take n := List.take_append_of_le_length (F.frame_le hcut)
    rw [drain_of_stopped F hcut ht, drain_of_stopped F (F.frame_append c hcut) (htake ▸ ht)]
  | handled s b n t hcut ht ih =>
    have htake : (b ++ c).take n = b.take n := List.take_append_of_le_length (F.frame_le hcut)
    have hdrop : (b ++ c).drop n = b.drop n ++ c :=
      List.drop_append_of_le_length (F.frame_le hcut)
    rw [drain_of_handled F hcut ht] at h ⊢
    rw [drain_of_handled F (F.frame_append c hcut) (htake ▸ ht), hdrop, ih h]

/-- Whatever is left waits. -/
theorem drain_rest_waits (s : σ) (b : List α) (h : (F.drain s b).error = none) :
    F.cut (F.drain s b).state (F.drain s b).rest = .wait := by
  induction s, b using F.drain_induction with
  | wait s b hcut => rw [drain_of_wait F hcut]; exact hcut
  | reject s b e hcut => rw [drain_of_reject F hcut] at h; cases h
  | stopped s b n t e hcut ht => rw [drain_of_stopped F hcut ht] at h; cases h
  | handled s b n t hcut ht ih =>
    rw [drain_of_handled F hcut ht] at h ⊢
    exact ih h

/-- What every handled frame preserves, a stream preserves. -/
theorem drain_invariant {I : σ → Prop}
    (hstep : ∀ s b n, F.cut s b = .frame n → I s → I (F.handle s (b.take n)).2) (s : σ)
    (b : List α) (h : I s) : I (F.drain s b).state := by
  induction s, b using F.drain_induction with
  | wait s b hcut => rw [drain_of_wait F hcut]; exact h
  | reject s b e hcut => rw [drain_of_reject F hcut]; exact h
  | stopped s b n t e hcut ht =>
    have hI := hstep s b n hcut h
    rw [ht] at hI
    rw [drain_of_stopped F hcut ht]
    exact hI
  | handled s b n t hcut ht ih =>
    have hI := hstep s b n hcut h
    rw [ht] at hI
    rw [drain_of_handled F hcut ht]
    exact ih hI

/-! ## The frames of a stream -/

/-- Frames that are cut and handled one after the other without an error. -/
inductive Cuts : σ → List (List α) → σ → Prop
  | nil (s : σ) : Cuts s [] s
  | cons {s t u : σ} {frame : List α} {frames : List (List α)}
      (cut : F.cut s frame = .frame frame.length) (handled : F.handle s frame = (none, t))
      (rest : Cuts t frames u) : Cuts s (frame :: frames) u

variable {F}

/-- Nothing of a stream that was not stopped is lost, used twice or moved: the frames and
what is left are the stream. -/
theorem drain_cuts {s : σ} {b : List α} (h : (F.drain s b).error = none) :
    ∃ frames, F.Cuts s frames (F.drain s b).state ∧ frames.flatten ++ (F.drain s b).rest = b := by
  induction s, b using F.drain_induction with
  | wait s b hcut =>
    rw [drain_of_wait F hcut]
    exact ⟨[], Cuts.nil s, rfl⟩
  | reject s b e hcut => rw [drain_of_reject F hcut] at h; cases h
  | stopped s b n t e hcut ht => rw [drain_of_stopped F hcut ht] at h; cases h
  | handled s b n t hcut ht ih =>
    rw [drain_of_handled F hcut ht] at h ⊢
    obtain ⟨frames, hcuts, hflatten⟩ := ih h
    have hlength : (b.take n).length = n := by
      rw [List.length_take, Nat.min_eq_left (F.frame_le hcut)]
    refine ⟨b.take n :: frames, Cuts.cons ?_ ht hcuts, ?_⟩
    · rw [F.frame_take hcut, hlength]
    · rw [List.flatten_cons, List.append_assoc, hflatten, List.take_append_drop]

theorem drain_of_frame {s t : σ} {frame : List α} (hcut : F.cut s frame = .frame frame.length)
    (hhandled : F.handle s frame = (none, t)) (c : List α) :
    F.drain s (frame ++ c) = F.drain t c := by
  have htake : (frame ++ c).take frame.length = frame := List.take_left
  have hdrop : (frame ++ c).drop frame.length = c := List.drop_left
  rw [drain_of_handled F (F.frame_append c hcut) (htake.symm ▸ hhandled), hdrop]

/-- A stream that begins with frames goes on behind them. -/
theorem drain_of_cuts {s t : σ} {frames : List (List α)} (h : F.Cuts s frames t) (c : List α) :
    F.drain s (frames.flatten ++ c) = F.drain t c := by
  induction h with
  | nil s => rfl
  | cons hcut hhandled _ ih =>
    rw [List.flatten_cons, List.append_assoc, drain_of_frame hcut hhandled, ih]

/-! ## A part of some frames -/

theorem cut_of_append {s : σ} {b c : List α} (h : F.cut s (b ++ c) = .frame (b ++ c).length)
    (hc : c ≠ []) : F.cut s b = .wait := by
  have hlength : 0 < c.length := List.length_pos_iff.mpr hc
  rcases hcut : F.cut s b with _ | e | n
  · rfl
  · rw [F.reject_append c hcut] at h
    cases h
  · have hframe := F.frame_append c hcut
    have hle := F.frame_le hcut
    rw [h] at hframe
    injection hframe with hn
    rw [List.length_append] at hn
    omega

/-- Frames of which the last is the first that leaves the state somebody waits for. -/
inductive CutsUntil (F : Framer σ α ε) (done : σ → Prop) : σ → List (List α) → σ → Prop
  | last {s t : σ} {frame : List α} (cut : F.cut s frame = .frame frame.length)
      (handled : F.handle s frame = (none, t)) (reached : done t) : CutsUntil F done s [frame] t
  | more {s t u : σ} {frame : List α} {frames : List (List α)}
      (cut : F.cut s frame = .frame frame.length) (handled : F.handle s frame = (none, t))
      (before : ¬done t) (rest : CutsUntil F done t frames u) : CutsUntil F done s (frame :: frames) u

theorem CutsUntil.flatten_ne_nil {done : σ → Prop} {s u : σ} {frames : List (List α)}
    (h : F.CutsUntil done s frames u) : frames.flatten ≠ [] := by
  have hframe : ∀ {s : σ} {frame : List α}, F.cut s frame = .frame frame.length → frame ≠ [] :=
    fun hcut => List.length_pos_iff.mp (F.frame_pos hcut)
  intro hnil
  cases h with
  | last hcut _ _ =>
    rw [List.flatten_cons] at hnil
    exact hframe hcut (List.append_eq_nil_iff.mp hnil).1
  | more hcut _ _ _ =>
    rw [List.flatten_cons] at hnil
    exact hframe hcut (List.append_eq_nil_iff.mp hnil).1

/-- A part of a stream of such frames is handled up to a frame that is not the last one, or
it is all of them. -/
theorem drain_of_cutsUntil {done : σ → Prop} {s u : σ} {frames : List (List α)}
    (h : F.CutsUntil done s frames u) (hwait : F.cut u [] = .wait) {b c : List α}
    (hstream : b ++ c = frames.flatten) :
    (c = [] ∧ F.drain s b = { error := none, state := u, rest := [] }) ∨
      ∃ t frames' r, c ≠ [] ∧ F.drain s b = { error := none, state := t, rest := r } ∧
        F.CutsUntil done t frames' u ∧ r ++ c = frames'.flatten ∧ (t = s ∨ ¬done t) := by
  induction h generalizing b with
  | @last s t frame hcut hhandled hreached =>
    have hframe : b ++ c = frame := by
      rw [hstream, List.flatten_cons, List.flatten_nil, List.append_nil]
    by_cases hc : c = []
    · refine Or.inl ⟨hc, ?_⟩
      have hb : b = frame ++ [] := by rw [← hframe, hc, List.append_nil, List.append_nil]
      rw [hb, drain_of_frame hcut hhandled, drain_of_wait F hwait]
    · rw [← hframe] at hcut hhandled hstream
      exact Or.inr ⟨s, [b ++ c], b, hc, drain_of_wait F (cut_of_append hcut hc),
        .last hcut hhandled hreached, hstream, Or.inl rfl⟩
  | @more s t u frame frames hcut hhandled hbefore hrest ih =>
    rw [List.flatten_cons] at hstream
    by_cases hlength : frame.length ≤ b.length
    · obtain ⟨b', rfl⟩ : frame <+: b :=
        List.prefix_of_prefix_length_le (hstream ▸ List.prefix_append _ _)
          (List.prefix_append b c) hlength
      rw [List.append_assoc] at hstream
      rw [drain_of_frame hcut hhandled]
      refine (ih hwait (List.append_cancel_left hstream)).imp id ?_
      rintro ⟨t', frames', r, hc, hdrain, huntil, hflatten, hnot⟩
      refine ⟨t', frames', r, hc, hdrain, huntil, hflatten, Or.inr ?_⟩
      exact hnot.elim (fun heq => heq ▸ hbefore) id
    · obtain ⟨c', rfl⟩ : b <+: frame :=
        List.prefix_of_prefix_length_le (List.prefix_append b c)
          (hstream ▸ List.prefix_append _ _) (Nat.le_of_not_le hlength)
      have hc' : c' ≠ [] := by
        rintro rfl
        rw [List.append_nil] at hlength
        exact hlength (Nat.le_refl _)
      rw [List.append_assoc] at hstream
      have hc : c = c' ++ frames.flatten := List.append_cancel_left hstream
      refine Or.inr ⟨s, (b ++ c') :: frames, b, ?_, drain_of_wait F (cut_of_append hcut hc'),
        .more hcut hhandled hbefore hrest, ?_, Or.inl rfl⟩
      · rw [hc]
        exact fun hnil => hc' (List.append_eq_nil_iff.mp hnil).1
      · rw [List.flatten_cons, List.append_assoc, hc]

end Framer
end Framing
end OpcuaGateway
