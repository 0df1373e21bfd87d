import Mathlib.Data.List.Induction
import OpcuaGateway.Network.StartUp

namespace OpcuaGateway
namespace Network

open Effect Effect.Action Idf Text

/-! ## Starting again -/

/-- With a default netif there already, `esp_netif_new` returns `NULL` and the start
does not get past the default handlers. -/
theorem startNetif_again {platform : Platform} {o : Outcomes} {s : FwState}
    (h : s.held.netifs ≠ 0) : ((startNetif platform o).run s).final? = none := by
  apply Run.final?_eq_none
  intro n t hreturns
  have hnull : ((espNetifNew o).run { s with defaultLoop := true }).final? =
      some (none, { s with defaultLoop := true }) := by
    rw [espNetifNew, bind_final?, call_final?, if_pos h]
    rfl
  simp only [startNetif, bind_returns, checkedPlain_returns, checkedLoop_returns,
    checkedHandlers_returns] at hreturns
  obtain ⟨_, _, ⟨_, rfl⟩, _, _, ⟨_, rfl⟩, n', _, hnew, _, _, ⟨hne, _⟩, _⟩ := hreturns
  rw [hnull] at hnew
  cases hnew
  exact hne rfl

theorem startConnectEthernet_again {platform : Platform} {o : Outcomes} {s : FwState}
    (h : s.held.netifs ≠ 0) : ((startConnectEthernet platform o).run s).final? = none := by
  rw [startConnectEthernet, bind_final?, startNetif_again h]
  rfl

/-! ## Link events after the first start -/

/-- A first start in which every checked call succeeded. -/
structure FirstStart where
  outcomes : Outcomes
  before : FwState
  after : FwState
  nothingHeld : before.held = Held.none
  returned : ((startConnectEthernet idempotentLoop outcomes).run before).final? = some ((), after)

theorem FirstStart.held_after (first : FirstStart) : first.after.held = Held.one := by
  obtain ⟨_, _, hafter⟩ := (startConnectEthernet_returns first.nothingHeld).mp first.returned
  rw [hafter]
  rfl

/-- Link events, each with what the calls made in handling it come to. -/
def handleLinks : List (LinkEvent × Outcomes) → FwM Unit :=
  forEach fun e => ethEventHandler idempotentLoop e.2 e.1.id

/-- After every event no checked call has failed, and there is one of each resource. -/
def Recovers (first : FirstStart) (events : List (LinkEvent × Outcomes)) : Prop :=
  ∀ handled, handled <+: events →
    ∃ t, ((handleLinks handled).run first.after).final? = some ((), t) ∧ t.held = Held.one

theorem handleLinks_up {events : List (LinkEvent × Outcomes)} {s : FwState}
    (h : ∀ e ∈ events, e.1 = LinkEvent.up) :
    ∃ t, ((handleLinks events).run s).final? = some ((), t) ∧ t.held = s.held := by
  induction events generalizing s with
  | nil => exact ⟨s, rfl, rfl⟩
  | cons e events ih =>
    obtain ⟨t, hrun, hheld⟩ := ih (s := { s with ethernetConnected := LinkEvent.up.flag })
      fun e' he' => h e' (List.mem_cons_of_mem e he')
    refine ⟨t, ?_, hheld⟩
    rw [handleLinks, forEach_cons, h e List.mem_cons_self,
      bind_of_ok (ethEventHandler_up idempotentLoop e.2 s), Run.final?_after]
    exact hrun

theorem up_of_recovers {first : FirstStart} {events : List (LinkEvent × Outcomes)}
    (h : Recovers first events) (handled : List (LinkEvent × Outcomes))
    (hinitial : handled <+: events) : ∀ e ∈ handled, e.1 = LinkEvent.up := by
  induction handled using List.reverseRecOn with
  | nil => exact fun _ hmem => absurd hmem List.not_mem_nil
  | append_singleton handled e ih =>
    have hup := ih ((List.prefix_append handled [e]).trans hinitial)
    intro e' he'
    rcases List.mem_append.mp he' with hold | hnew
    · exact hup e' hold
    · rw [List.mem_singleton.mp hnew]
      obtain ⟨t, hreturns, _⟩ := h (handled ++ [e]) hinitial
      obtain ⟨u, hrun, hheld⟩ := handleLinks_up (s := first.after) hup
      have hnetifs : u.held.netifs ≠ 0 := by
        rw [hheld, first.held_after]
        exact Nat.one_ne_zero
      cases hlink : e.1 with
      | up => rfl
      | down =>
        rw [handleLinks] at hrun
        rw [handleLinks, forEach_append, bind_final?, hrun, Option.bind_some, forEach_singleton,
          hlink, ethEventHandler_down, Run.final?_after,
          startConnectEthernet_again (by exact hnetifs)] at hreturns
        cases hreturns

/-- The stack survives exactly the sequences in which the link never goes down. -/
theorem recovers_iff (first : FirstStart) (events : List (LinkEvent × Outcomes)) :
    Recovers first events ↔ ∀ e ∈ events, e.1 = LinkEvent.up := by
  constructor
  · exact fun h => up_of_recovers h events (List.prefix_refl _)
  · intro h handled hinitial
    obtain ⟨t, hrun, hheld⟩ :=
      handleLinks_up (s := first.after) fun e he => h e (hinitial.subset he)
    exact ⟨t, hrun, hheld.trans first.held_after⟩

/-- Everything succeeds at power-on. -/
def smoothStart : FirstStart where
  outcomes _ := espOk
  before := FwState.boot
  after := started FwState.boot
  nothingHeld := rfl
  returned := by
    rw [startConnectEthernet_returns rfl]
    exact ⟨⟨fun _ => rfl, fun _ => rfl⟩, fun _ _ => rfl, rfl⟩

theorem unplugged_not_recovers :
    ¬ ∀ (first : FirstStart) (events : List (LinkEvent × Outcomes)), Recovers first events := by
  intro h
  have hup := up_of_recovers (h smoothStart [(.down, fun _ => espOk)]) _ (List.prefix_refl _)
    (.down, fun _ => espOk) List.mem_cons_self
  cases hup

end Network
end OpcuaGateway
