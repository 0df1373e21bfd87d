/-
Which service calls come back.

The clock of the client has sixteen bits of the tick count, so it starts again at zero every
65536 ticks, while the deadline of a call is a sum that does not.  A call with its deadline
before the restart comes back, whatever the socket and the heap do; with a server that says
nothing, no call comes back but by a reading of the clock behind the deadline
(`serviceCall_returns`).
-/
import OpcuaGateway.Opcua.Service

namespace OpcuaGateway
namespace Opcua

/-! ## The clock -/

/-- `UA_DateTime_nowMonotonic` at a tick.  It takes the sixteen bits for milliseconds. -/
def uaDateTimeNowMonotonic (tick : Nat) : Int := (tick % 2 ^ 16 : Nat) * uaDatetimeMsec

/-- Up to the restart the clock goes with the ticks. -/
theorem nowMonotonic_add {start ticks : Nat} (h : start % 2 ^ 16 + ticks < 2 ^ 16) :
    uaDateTimeNowMonotonic (start + ticks) =
      uaDateTimeNowMonotonic start + ticks * uaDatetimeMsec := by
  have hmod : (start + ticks) % 2 ^ 16 = start % 2 ^ 16 + ticks := by omega
  rw [uaDateTimeNowMonotonic, hmod, uaDateTimeNowMonotonic, Nat.cast_add, Int.add_mul]

/-- A reading of the clock before the restart. -/
theorem reading_eq (start : Nat) {tick : Nat} (hstart : start ≤ tick)
    (hbefore : start % 2 ^ 16 + (tick - start) < 2 ^ 16) :
    uaDateTimeNowMonotonic tick =
      uaDateTimeNowMonotonic start + (tick - start : Nat) * uaDatetimeMsec := by
  rw [← nowMonotonic_add hbefore, Nat.add_sub_cancel' hstart]

theorem deadline_le_iff {start tick : Nat} {timeout : UInt32} :
    uaDateTimeNowMonotonic start + timeout.toNat * uaDatetimeMsec ≤ uaDateTimeNowMonotonic tick ↔
      start % 2 ^ 16 + timeout.toNat ≤ tick % 2 ^ 16 := by
  simp only [uaDateTimeNowMonotonic, uaDatetimeMsec]
  omega

/-- A pass of the receive loops, with the ticks at which they read the clock. -/
structure TickTurn where
  entered : Nat
  begun : Nat
  socket : SocketTurn
  grants : BufferGrants
  now : Nat

def TickTurn.turn (pass : TickTurn) : ReceiveTurn where
  entered := uaDateTimeNowMonotonic pass.entered
  begun := uaDateTimeNowMonotonic pass.begun
  socket := pass.socket
  grants := pass.grants
  now := uaDateTimeNowMonotonic pass.now

/-- The first of the passes. -/
def turnsOf (passes : Nat → TickTurn) (n : Nat) : List ReceiveTurn :=
  (List.range n).map fun k => (passes k).turn

theorem turnsOf_succ (passes : Nat → TickTurn) (n : Nat) :
    turnsOf passes (n + 1) = turnsOf passes n ++ [(passes n).turn] := by
  rw [turnsOf, List.range_succ, List.map_append]
  rfl

theorem mem_turnsOf {passes : Nat → TickTurn} {n : Nat} {turn : ReceiveTurn} :
    turn ∈ turnsOf passes n ↔ ∃ k < n, (passes k).turn = turn := by
  simp only [turnsOf, List.mem_map, List.mem_range]

/-- A call that has sent its request at a tick is over after some of the passes. -/
def ComesBack (env : ServiceEnv) (start : Nat) (timeout : UInt32) (sent : SentRequest)
    (passes : Nat → TickTurn) : Prop :=
  ∃ n, (serviceCall env (uaDateTimeNowMonotonic start) timeout sent
    (turnsOf passes n)).isSome = true

/-! ## Behind the deadline -/

/-- With the clock behind the deadline of every wait, the loop ends at its next round. -/
theorem receiveService_returns {env : ServiceEnv} {state : UaClientState} {maxDate gap : Int}
    {s : ChannelState SyncResponseDescription} {connection : UaConnection}
    {early later : List ReceiveTurn} {first second : ReceiveTurn}
    (hbegun : ∀ turn ∈ early ++ [first], turn.begun ≤ turn.entered + gap)
    (hfirst : maxDate + gap + uaDatetimeMsec ≤ first.now) (hsecond : maxDate ≤ second.entered) :
    (receiveService env state maxDate s connection (early ++ first :: second :: later)).isSome =
      true := by
  induction hn : early.length using Nat.strongRecOn generalizing s connection early with
  | ind k ih =>
    obtain ⟨turn, rest, hturns, hmem⟩ : ∃ turn rest,
        early ++ first :: second :: later = turn :: rest ∧ turn ∈ early ++ [first] := by
      cases early with
      | nil => exact ⟨first, second :: later, rfl, List.mem_singleton.mpr rfl⟩
      | cons turn early => exact ⟨turn, early ++ first :: second :: later, rfl, List.mem_cons_self⟩
    rw [hturns, receiveService]
    split_ifs with hdone
    · rfl
    · have hdeadline : turn.begun +
          (timeoutUntil maxDate turn.entered).toNat * uaDatetimeMsec ≤ first.now := by
        have hround := timeoutUntil_le (Int.le_of_lt (Int.not_le.mp hdone))
        have hturn := hbegun turn hmem
        omega
      obtain ⟨got, hgot, hleft⟩ := receiveChunks_late (serviceCallback env state)
        (timeoutUntil maxDate turn.entered) s connection early (second :: later) hdeadline
      rw [hturns] at hgot
      have hwait : uaConnectionReceiveChunksBlocking (serviceCallback env state) s connection
          (timeoutUntil maxDate turn.entered) (turn :: rest) = some got := hgot
      have hshorter := receiveChunksBlocking_shorter hwait
      split
      · rename_i hnone
        rw [hwait] at hnone
        cases hnone
      · rename_i got' hgot'
        cases hwait.symm.trans hgot'
        dsimp only
        split_ifs
        · rfl
        · rfl
        · rfl
        · rcases hleft with hlater | ⟨left, hsuffix, hleft⟩
          · rw [hlater, receiveService, if_pos hsecond]
            rfl
          · rw [hleft]
            rw [hleft, ← hturns] at hshorter
            simp only [List.length_append, List.length_cons] at hshorter
            refine ih left.length (by omega) (fun turn hturn => hbegun turn ?_) rfl
            rcases List.mem_append.mp hturn with hturn | hturn
            · exact List.mem_append_left _ (hsuffix.subset hturn)
            · exact List.mem_append_right _ hturn

/-- A call is over once the clock is a millisecond behind its deadline, and the time that
passes between two readings of it, whatever the socket and the heap do. -/
theorem serviceCall_isSome_of_late (env : ServiceEnv) {now gap : Int} {timeout : UInt32}
    (sent : SentRequest) {early later : List ReceiveTurn} {first second : ReceiveTurn}
    (hgap : 0 ≤ gap) (hbegun : ∀ turn ∈ early ++ [first], turn.begun ≤ turn.entered + gap)
    (hlate : now + timeout.toNat * uaDatetimeMsec + gap + uaDatetimeMsec ≤ first.now)
    (hclock : first.now ≤ second.entered) :
    (serviceCall env now timeout sent (early ++ first :: second :: later)).isSome = true := by
  by_cases hsend : sent.retval = uaStatuscodeGood
  · have hsecond : now + timeout.toNat * uaDatetimeMsec ≤ second.entered := by
      simp only [uaDatetimeMsec] at hlate ⊢
      omega
    rw [serviceCall, if_neg (not_not.mpr hsend), Option.isSome_map]
    exact receiveService_returns hbegun hlate hsecond
  · rw [serviceCall, if_pos hsend]
    rfl

/-! ## Before the restart -/

/-- Time goes on, and nothing takes more than `gap` ticks but waiting on the socket, which
is over that long after the deadline. -/
structure Timely (start deadline gap : Nat) (passes : Nat → TickTurn) : Prop where
  first : start ≤ (passes 0).entered ∧ (passes 0).entered ≤ start + gap
  begun : ∀ k, (passes k).entered ≤ (passes k).begun ∧ (passes k).begun ≤ (passes k).entered + gap
  now : ∀ k, (passes k).begun ≤ (passes k).now ∧
    (passes k).now ≤ max (passes k).begun (deadline + gap) + gap
  next : ∀ k, (passes k).now ≤ (passes (k + 1)).entered ∧
    (passes (k + 1)).entered ≤ (passes k).now + gap
  goesOn : ∀ tick, ∃ k, tick < (passes k).now

section

variable {start deadline gap : Nat} {passes : Nat → TickTurn}

theorem Timely.start_le (h : Timely start deadline gap passes) (k : Nat) :
    start ≤ (passes k).entered := by
  induction k with
  | zero => exact h.first.1
  | succ k ih =>
    have hbegun := (h.begun k).1
    have hnow := (h.now k).1
    have hnext := (h.next k).1
    omega

/-- A pass that is not entered late. -/
theorem Timely.entered_le (h : Timely start deadline gap passes) (hstart : start ≤ deadline)
    {k : Nat} (hearly : ∀ j < k, (passes j).now ≤ deadline + gap) :
    (passes k).entered ≤ deadline + 2 * gap := by
  cases k with
  | zero =>
    have hfirst := h.first.2
    omega
  | succ k =>
    have hnow := hearly k (Nat.lt_succ_self k)
    have hnext := (h.next k).2
    omega

/-- The first pass that ends behind the deadline does so soon after it. -/
theorem Timely.late (h : Timely start deadline gap passes) (hstart : start ≤ deadline) :
    ∃ late, (∀ k ≤ late, (passes k).begun ≤ deadline + 3 * gap) ∧
      deadline + gap < (passes late).now ∧
      (passes (late + 1)).entered ≤ deadline + 5 * gap := by
  classical
  have hexists := h.goesOn (deadline + gap)
  let late := Nat.find hexists
  have hlate : deadline + gap < (passes late).now := Nat.find_spec hexists
  have hearly : ∀ j < late, (passes j).now ≤ deadline + gap :=
    fun j hj => Nat.not_lt.mp (Nat.find_min hexists hj)
  have hbegun : ∀ k ≤ late, (passes k).begun ≤ deadline + 3 * gap := by
    intro k hk
    have hentered := h.entered_le hstart fun j hj => hearly j (Nat.lt_of_lt_of_le hj hk)
    have hpass := (h.begun k).2
    omega
  have hlast := hbegun late (Nat.le_refl late)
  have hnow := (h.now late).2
  have hnext := (h.next late).2
  exact ⟨late, hbegun, hlate, by omega⟩

theorem comesBack_of_timely (env : ServiceEnv) {timeout : UInt32} (sent : SentRequest)
    (h : Timely start (start + timeout.toNat) gap passes)
    (hrestart : start % 2 ^ 16 + timeout.toNat + 5 * gap < 2 ^ 16) :
    ComesBack env start timeout sent passes := by
  obtain ⟨late, hbegun, hlate, hsecond⟩ := h.late (Nat.le_add_right _ _)
  have hentered := h.start_le
  have horder : ∀ k, (passes k).entered ≤ (passes k).begun ∧ (passes k).begun ≤ (passes k).now :=
    fun k => ⟨(h.begun k).1, (h.now k).1⟩
  have hnext := (h.next late).1
  refine ⟨late + 2, ?_⟩
  rw [turnsOf_succ, turnsOf_succ, List.append_assoc]
  have hlast := hentered late
  have hlastOrder := horder late
  have hnow : start ≤ (passes late).now := by omega
  have hlastReading := reading_eq start hnow (by omega)
  have hsecondReading := reading_eq start (hentered (late + 1)) (by omega)
  have hgap : 0 ≤ (gap : Int) * uaDatetimeMsec := by
    simp only [uaDatetimeMsec]
    omega
  refine serviceCall_isSome_of_late env sent hgap ?_ ?_ ?_
  · intro turn hturn
    obtain ⟨k, hk, rfl⟩ := mem_turnsOf.mp (turnsOf_succ passes late ▸ hturn)
    have hk := Nat.lt_succ_iff.mp hk
    have hk1 := hentered k
    have hk2 := (h.begun k)
    have hk3 := hbegun k hk
    show uaDateTimeNowMonotonic (passes k).begun ≤ uaDateTimeNowMonotonic (passes k).entered + _
    rw [reading_eq start hk1 (by omega), reading_eq start (Nat.le_trans hk1 hk2.1) (by omega)]
    simp only [uaDatetimeMsec]
    omega
  · show _ ≤ uaDateTimeNowMonotonic (passes late).now
    rw [hlastReading]
    simp only [uaDatetimeMsec]
    omega
  · show uaDateTimeNowMonotonic (passes late).now ≤ uaDateTimeNowMonotonic (passes (late + 1)).entered
    rw [hlastReading, hsecondReading]
    simp only [uaDatetimeMsec]
    omega

end

/-! ## A server that says nothing -/

/-- Nothing comes before the timeout of a wait. -/
theorem receiveChunks_silent {σ : Type} (callback : ProcessChunkCallback σ) {maxDate : Int}
    {timeout : UInt32} (application : σ) {connection : UaConnection} {turn : ReceiveTurn}
    (later : List ReceiveTurn) (hsilent : turn.socket.select = .nothing)
    (hopen : connection.state ≠ .closed) (htimeout : 0 < timeout) :
    receiveChunks callback maxDate timeout application connection (turn :: later) =
      some { retval := uaStatuscodeGoodnoncriticaltimeout, application := application,
             connection := connection, turns := later } := by
  have hpacket : connectionRecv turn.socket connection timeout =
      { retval := uaStatuscodeGoodnoncriticaltimeout, bytes := [], connection := connection } := by
    rw [connectionRecv, if_neg hopen, if_pos ⟨htimeout, hsilent⟩]
  rw [receiveChunks, hpacket]
  rfl

theorem timeoutUntil_pos {maxDate now : Int} (hbefore : now < maxDate)
    (hnear : maxDate - now ≤ (2 ^ 32 - 1) * uaDatetimeMsec) : 0 < timeoutUntil maxDate now := by
  have hle := le_timeoutUntil hnear
  rw [UInt32.lt_iff_toNat_lt]
  simp only [uaDatetimeMsec] at hle
  show 0 < (timeoutUntil maxDate now).toNat
  omega

/-- Without an answer, only a reading of the clock ends the loop. -/
theorem receiveService_silent {env : ServiceEnv} {state : UaClientState} {maxDate : Int}
    {s : ChannelState SyncResponseDescription} {connection : UaConnection}
    {turns : List ReceiveTurn} (hopen : connection.state ≠ .closed)
    (hwaiting : s.application.received = false)
    (hsilent : ∀ turn ∈ turns, turn.socket.select = .nothing)
    (hnear : ∀ turn ∈ turns, maxDate - turn.entered ≤ (2 ^ 32 - 1) * uaDatetimeMsec) :
    (receiveService env state maxDate s connection turns).isSome = true ↔
      ∃ turn ∈ turns, maxDate ≤ turn.entered := by
  induction turns with
  | nil =>
    rw [receiveService]
    simp
  | cons turn later ih =>
    have ih := ih (fun t ht => hsilent t (List.mem_cons_of_mem turn ht))
      (fun t ht => hnear t (List.mem_cons_of_mem turn ht))
    rw [receiveService, List.exists_mem_cons_iff]
    split_ifs with hlate
    · exact ⟨fun _ => Or.inl hlate, fun _ => rfl⟩
    · have hpos := timeoutUntil_pos (Int.not_le.mp hlate) (hnear turn List.mem_cons_self)
      have hwait : uaConnectionReceiveChunksBlocking (serviceCallback env state) s connection
          (timeoutUntil maxDate turn.entered) (turn :: later) = some _ :=
        receiveChunks_silent (serviceCallback env state) s later
          (hsilent turn List.mem_cons_self) hopen hpos
      split
      · rename_i hnone
        rw [hwait] at hnone
        cases hnone
      · rename_i got hgot
        cases hwait.symm.trans hgot
        have hgood : ¬(uaStatuscodeGoodnoncriticaltimeout ≠ uaStatuscodeGood ∧
            uaStatuscodeGoodnoncriticaltimeout ≠ uaStatuscodeGoodnoncriticaltimeout) :=
          fun h => h.2 rfl
        dsimp only
        rw [if_neg hgood, if_neg (Bool.eq_false_iff.mp hwaiting), ih]
        exact ⟨Or.inr, fun h => h.resolve_left hlate⟩

theorem comesBack_silent (env : ServiceEnv) {start : Nat} {timeout : UInt32} {sent : SentRequest}
    {passes : Nat → TickTurn} (hsent : sent.retval = uaStatuscodeGood)
    (hopen : sent.client.connection.state ≠ .closed)
    (hsilent : ∀ k, (passes k).socket.select = .nothing)
    (htimeout : timeout.toNat + 2 ^ 16 ≤ 2 ^ 32) :
    ComesBack env start timeout sent passes ↔
      ∃ k, start % 2 ^ 16 + timeout.toNat ≤ (passes k).entered % 2 ^ 16 := by
  have hcall : ∀ n, (serviceCall env (uaDateTimeNowMonotonic start) timeout sent
      (turnsOf passes n)).isSome = true ↔ ∃ turn ∈ turnsOf passes n,
        uaDateTimeNowMonotonic start + timeout.toNat * uaDatetimeMsec ≤ turn.entered := by
    intro n
    rw [serviceCall, if_neg (not_not.mpr hsent), Option.isSome_map]
    refine receiveService_silent hopen rfl ?_ ?_
    · intro turn hturn
      obtain ⟨k, -, rfl⟩ := mem_turnsOf.mp hturn
      exact hsilent k
    · intro turn hturn
      obtain ⟨k, -, rfl⟩ := mem_turnsOf.mp hturn
      have hstart := Nat.mod_lt start (Nat.two_pow_pos 16)
      show _ - uaDateTimeNowMonotonic (passes k).entered ≤ _
      simp only [uaDateTimeNowMonotonic, uaDatetimeMsec]
      omega
  constructor
  · rintro ⟨n, hn⟩
    obtain ⟨turn, hturn, hlate⟩ := (hcall n).mp hn
    obtain ⟨k, -, rfl⟩ := mem_turnsOf.mp hturn
    exact ⟨k, deadline_le_iff.mp hlate⟩
  · rintro ⟨k, hk⟩
    refine ⟨k + 1, (hcall (k + 1)).mpr ⟨(passes k).turn, ?_, deadline_le_iff.mpr hk⟩⟩
    exact mem_turnsOf.mpr ⟨k, Nat.lt_succ_self k, rfl⟩

/-! ## Both sides of the restart -/

/-- A call whose deadline is before the restart, with room for five gaps, comes back.  With
a server that says nothing a call comes back if it is entered behind its deadline as the
clock says it, and so never with its deadline at the restart or later. -/
theorem serviceCall_returns (env : ServiceEnv) (start : Nat) (timeout : UInt32)
    (sent : SentRequest) (passes : Nat → TickTurn) :
    (∀ gap, Timely start (start + timeout.toNat) gap passes →
      start % 2 ^ 16 + timeout.toNat + 5 * gap < 2 ^ 16 →
      ComesBack env start timeout sent passes) ∧
    (sent.retval = uaStatuscodeGood → sent.client.connection.state ≠ .closed →
      (∀ k, (passes k).socket.select = .nothing) → timeout.toNat + 2 ^ 16 ≤ 2 ^ 32 →
      (ComesBack env start timeout sent passes ↔
        ∃ k, start % 2 ^ 16 + timeout.toNat ≤ (passes k).entered % 2 ^ 16)) :=
  ⟨fun _ htimely hrestart => comesBack_of_timely env sent htimely hrestart,
    fun hsent hopen hsilent htimeout => comesBack_silent env hsent hopen hsilent htimeout⟩

/-- Passes in which nothing comes, one a tick. -/
def idlePasses (start k : Nat) : TickTurn where
  entered := start + k
  begun := start + k
  socket := { select := .nothing, buffer := true, recv := .failed .again }
  grants := .all
  now := start + k

theorem idlePasses_timely (start deadline : Nat) : Timely start deadline 1 (idlePasses start) where
  first := by simp [idlePasses]
  begun k := by simp [idlePasses]
  now k := by
    simp only [idlePasses]
    omega
  next k := by
    simp only [idlePasses]
    omega
  goesOn tick := by
    refine ⟨tick + 1, ?_⟩
    simp only [idlePasses]
    omega

/-- The call of tick 0 comes back, and that of tick 65000 does not. -/
theorem serviceCall_returns_idle :
    ComesBack sampleServiceEnv 0 5000 sampleSent (idlePasses 0) ∧
      ¬ComesBack sampleServiceEnv 65000 5000 sampleSent (idlePasses 65000) := by
  constructor
  · exact (serviceCall_returns sampleServiceEnv 0 5000 sampleSent (idlePasses 0)).1 1
      (idlePasses_timely 0 _) (by decide)
  · have hsilent := (serviceCall_returns sampleServiceEnv 65000 5000 sampleSent
      (idlePasses 65000)).2 rfl nofun (fun _ => rfl) (by decide)
    rw [hsilent]
    rintro ⟨k, hk⟩
    have hmod := Nat.mod_lt (idlePasses 65000 k).entered (Nat.two_pow_pos 16)
    have hstart : 65000 % 2 ^ 16 + (5000 : UInt32).toNat = 70000 := by decide
    omega

end Opcua
end OpcuaGateway
