/-
Waiting on the socket for a chunk.

`receiveChunksBlocking` asks the socket for packets until one of them completes a chunk.
What the clock, the socket and the heap answer in one pass of a loop is a `ReceiveTurn`,
so a run is one over a list of turns, and it has no result while the turns do not suffice.
-/
import OpcuaGateway.Opcua.Connection

namespace OpcuaGateway
namespace Opcua

open Text (Bytes)

/-! ## The socket -/

inductive Errno where
  | interrupted
  | again
  | other
deriving DecidableEq, Repr

inductive SelectResult where
  | ready
  | nothing
  | failed (errno : Errno)
deriving DecidableEq, Repr

/-- A peer that has closed the connection sends nothing. -/
inductive RecvResult where
  | received (bytes : Bytes)
  | failed (errno : Errno)
deriving DecidableEq, Repr

/-- What `select`, `malloc` and `recv` answer, as far as each is asked. -/
structure SocketTurn where
  select : SelectResult
  buffer : Bool
  recv : RecvResult
deriving DecidableEq, Repr

/-- `ClientNetworkLayerTCP_close`. -/
def UaConnection.close (connection : UaConnection) : UaConnection :=
  { connection with state := .closed }

structure Packet where
  retval : UaStatusCode
  bytes : Bytes
  connection : UaConnection

/-- `connection_recv`.  A timeout of zero goes to `recv` without `select`. -/
def connectionRecv (turn : SocketTurn) (connection : UaConnection) (timeout : UInt32) : Packet :=
  let closed : Packet :=
    { retval := uaStatuscodeBadconnectionclosed, bytes := [], connection := connection.close }
  let timedOut : Packet :=
    { retval := uaStatuscodeGoodnoncriticaltimeout, bytes := [], connection := connection }
  if connection.state = .closed then
    { retval := uaStatuscodeBadconnectionclosed, bytes := [], connection := connection }
  else if 0 < timeout ∧ turn.select = .nothing then timedOut
  else if 0 < timeout ∧ turn.select = .failed .interrupted then timedOut
  else if 0 < timeout ∧ turn.select ≠ .ready then closed
  else if turn.buffer = false then
    { retval := uaStatuscodeBadoutofmemory, bytes := [], connection := connection }
  else
    match turn.recv with
    | .received bytes =>
      let response := bytes.take connection.localConf.recvBufferSize.toNat
      if response = [] then closed
      else { retval := uaStatuscodeGood, bytes := response, connection := connection }
    | .failed errno =>
      -- `a || b ? false : c`: only a call without a timeout is tried again
      if ¬(errno = .interrupted ∨ 0 < timeout) ∧ errno = .again then
        { retval := uaStatuscodeGood, bytes := [], connection := connection }
      else closed

/-! ## Until a chunk is complete -/

variable {σ : Type}

structure CompleteChunkTrampolineData (σ : Type) where
  called : Bool
  application : σ

def completeChunkTrampoline (callback : ProcessChunkCallback σ) :
    ProcessChunkCallback (CompleteChunkTrampolineData σ) where
  call data connection chunk :=
    let answer := callback.call data.application connection chunk
    (answer.1, { called := true, application := answer.2.1 }, answer.2.2)
  keeps data connection chunk := callback.keeps data.application connection chunk

def uaDatetimeMsec : Int := 10000

/-- The milliseconds up to a date, rounded up. -/
def timeoutUntil (maxDate now : Int) : UInt32 :=
  UInt32.ofNat ((maxDate - now + (uaDatetimeMsec - 1)) / uaDatetimeMsec).toNat

/-- One pass: the clock when `receiveServiceResponse` goes round its loop, and when the
function it calls begins; the socket; the memory for the packet; the clock behind it. -/
structure ReceiveTurn where
  entered : Int
  begun : Int
  socket : SocketTurn
  grants : BufferGrants
  now : Int

structure ChunksReceived (σ : Type) where
  retval : UaStatusCode
  application : σ
  connection : UaConnection
  turns : List ReceiveTurn

/-- The loop of `UA_Connection_receiveChunksBlocking`.  The status of a packet in which no
chunk was complete is not looked at. -/
def receiveChunks (callback : ProcessChunkCallback σ) (maxDate : Int) (timeout : UInt32)
    (application : σ) (connection : UaConnection) : List ReceiveTurn → Option (ChunksReceived σ)
  | [] => none
  | turn :: turns =>
    let packet := connectionRecv turn.socket connection timeout
    if packet.retval ≠ uaStatuscodeGood then
      some { retval := packet.retval, application := application, connection := packet.connection,
             turns := turns }
    else
      let step := uaConnectionProcessChunks (completeChunkTrampoline callback) turn.grants
        { called := false, application := application } packet.connection packet.bytes
      if step.2.1.called then
        some { retval := step.1, application := step.2.1.application, connection := step.2.2,
               turns := turns }
      else if maxDate ≤ turn.now then
        some { retval := uaStatuscodeGoodnoncriticaltimeout, application := step.2.1.application,
               connection := step.2.2, turns := turns }
      else
        receiveChunks callback maxDate (timeoutUntil maxDate turn.now) step.2.1.application step.2.2
          turns

def uaConnectionReceiveChunksBlocking (callback : ProcessChunkCallback σ) (application : σ)
    (connection : UaConnection) (timeout : UInt32) (turns : List ReceiveTurn) :
    Option (ChunksReceived σ) :=
  match turns with
  | [] => none
  | turn :: later =>
    receiveChunks callback (turn.begun + timeout.toNat * uaDatetimeMsec) timeout application
      connection (turn :: later)

theorem receiveChunks_shorter {callback : ProcessChunkCallback σ} {maxDate : Int}
    {timeout : UInt32} {application : σ} {connection : UaConnection} {turns : List ReceiveTurn}
    {received : ChunksReceived σ}
    (h : receiveChunks callback maxDate timeout application connection turns = some received) :
    received.turns.length < turns.length := by
  induction turns generalizing timeout application connection with
  | nil => cases h
  | cons turn turns ih =>
    rw [receiveChunks] at h
    dsimp only at h
    split_ifs at h with hrecv hcalled hlate
    · cases h
      exact Nat.lt_succ_self _
    · cases h
      exact Nat.lt_succ_self _
    · cases h
      exact Nat.lt_succ_self _
    · exact Nat.lt_succ_of_lt (ih h)

theorem receiveChunksBlocking_shorter {callback : ProcessChunkCallback σ} {application : σ}
    {connection : UaConnection} {timeout : UInt32} {turns : List ReceiveTurn}
    {received : ChunksReceived σ}
    (h : uaConnectionReceiveChunksBlocking callback application connection timeout turns =
      some received) : received.turns.length < turns.length := by
  cases turns with
  | nil => cases h
  | cons turn turns => exact receiveChunks_shorter h

/-! ## What waiting does to what the callback keeps -/

/-- Without a complete chunk the callback was not asked. -/
theorem application_of_not_called (callback : ProcessChunkCallback σ) (grants : BufferGrants)
    (application : σ) (connection : UaConnection) (packet : Bytes)
    (h : (uaConnectionProcessChunks (completeChunkTrampoline callback) grants
      { called := false, application := application } connection packet).2.1.called = false) :
    (uaConnectionProcessChunks (completeChunkTrampoline callback) grants
      { called := false, application := application } connection packet).2.1.application =
        application := by
  let data : CompleteChunkTrampolineData σ := { called := false, application := application }
  have hdata : data.called = false → data.application = application := fun _ => rfl
  have hkept := uaConnectionProcessChunks_keeps (completeChunkTrampoline callback)
    (P := fun data => data.called = false → data.application = application)
    (Q := fun data => data.called = false → data.application = application)
    (fun _ _ _ _ _ hcalled => nomatch hcalled) (fun _ _ _ _ hcalled => nomatch hcalled)
    (fun _ hP => hP) grants connection packet hdata
  exact hkept.1 h

theorem receiveChunks_keeps {callback : ProcessChunkCallback σ} {P Q : σ → Prop}
    (hgood : ∀ application connection chunk, P application →
      (callback.call application connection chunk).1 = uaStatuscodeGood →
      P (callback.call application connection chunk).2.1)
    (hend : ∀ application connection chunk, P application →
      Q (callback.call application connection chunk).2.1)
    (hPQ : ∀ application, P application → Q application) {maxDate : Int} {timeout : UInt32}
    {application : σ} {connection : UaConnection} {turns : List ReceiveTurn}
    {got : ChunksReceived σ}
    (h : receiveChunks callback maxDate timeout application connection turns = some got)
    (hP : P application) :
    Q got.application ∧ (got.retval = uaStatuscodeGood → P got.application) := by
  induction turns generalizing timeout application connection with
  | nil => cases h
  | cons turn turns ih =>
    let data : CompleteChunkTrampolineData σ := { called := false, application := application }
    have hP' : P data.application := hP
    have hkept := uaConnectionProcessChunks_keeps (completeChunkTrampoline callback)
      (P := fun data => P data.application) (Q := fun data => Q data.application)
      (fun data => hgood data.application) (fun data => hend data.application)
      (fun data => hPQ data.application) turn.grants
      (connectionRecv turn.socket connection timeout).connection
      (connectionRecv turn.socket connection timeout).bytes hP'
    have hsame := application_of_not_called callback turn.grants application
      (connectionRecv turn.socket connection timeout).connection
      (connectionRecv turn.socket connection timeout).bytes
    rw [receiveChunks] at h
    dsimp only at h
    split_ifs at h with hrecv hcalled hlate
    · cases h
      exact ⟨hPQ _ hP, fun _ => hP⟩
    · cases h
      exact hkept
    · cases h
      show Q _ ∧ (_ → P _)
      rw [hsame (Bool.eq_false_iff.mpr hcalled)]
      exact ⟨hPQ _ hP, fun _ => hP⟩
    · rw [hsame (Bool.eq_false_iff.mpr hcalled)] at h
      exact ih h hP

/-! ## The end of waiting -/

/-- A timeout ends less than a millisecond behind its date. -/
theorem timeoutUntil_le {maxDate now : Int} (h : now ≤ maxDate) :
    (timeoutUntil maxDate now).toNat * uaDatetimeMsec < maxDate - now + uaDatetimeMsec := by
  have hmod : (timeoutUntil maxDate now).toNat ≤
      ((maxDate - now + (uaDatetimeMsec - 1)) / uaDatetimeMsec).toNat := by
    rw [timeoutUntil, UInt32.toNat_ofNat']
    exact Nat.mod_le _ _
  simp only [uaDatetimeMsec] at hmod ⊢
  omega

/-- It does not end before its date, if that is not too far away for the type. -/
theorem le_timeoutUntil {maxDate now : Int} (h : maxDate - now ≤ (2 ^ 32 - 1) * uaDatetimeMsec) :
    maxDate - now ≤ (timeoutUntil maxDate now).toNat * uaDatetimeMsec := by
  have hfits : ((maxDate - now + (uaDatetimeMsec - 1)) / uaDatetimeMsec).toNat < 2 ^ 32 := by
    simp only [uaDatetimeMsec] at h ⊢
    omega
  rw [timeoutUntil, UInt32.toNat_ofNat_of_lt' hfits]
  simp only [uaDatetimeMsec]
  omega

/-- The wait is over with the first packet behind its deadline, if not before. -/
theorem receiveChunks_late (callback : ProcessChunkCallback σ) (timeout : UInt32)
    (application : σ) (connection : UaConnection) (early later : List ReceiveTurn) {maxDate : Int}
    {turn : ReceiveTurn} (hlate : maxDate ≤ turn.now) :
    ∃ got, receiveChunks callback maxDate timeout application connection
        (early ++ turn :: later) = some got ∧
      (got.turns = later ∨ ∃ rest, rest <:+ early ∧ got.turns = rest ++ turn :: later) := by
  induction early generalizing timeout application connection with
  | nil =>
    rw [List.nil_append, receiveChunks]
    dsimp only
    split_ifs
    · exact ⟨_, rfl, Or.inl rfl⟩
    · exact ⟨_, rfl, Or.inl rfl⟩
    · exact ⟨_, rfl, Or.inl rfl⟩
  | cons first early ih =>
    have hsuffix : early <:+ first :: early := List.suffix_cons first early
    rw [List.cons_append, receiveChunks]
    dsimp only
    split_ifs
    · exact ⟨_, rfl, Or.inr ⟨early, hsuffix, rfl⟩⟩
    · exact ⟨_, rfl, Or.inr ⟨early, hsuffix, rfl⟩⟩
    · exact ⟨_, rfl, Or.inr ⟨early, hsuffix, rfl⟩⟩
    · obtain ⟨got, hgot, hturns⟩ := ih _ _ _
      refine ⟨got, hgot, hturns.imp id ?_⟩
      rintro ⟨rest, hrest, heq⟩
      exact ⟨rest, hrest.trans hsuffix, heq⟩

/-! ## A stream of chunks -/

/-- The socket has that packet, and there is memory for it. -/
structure Serves (size : Nat) (turn : ReceiveTurn) (packet : Bytes) : Prop where
  select : turn.socket.select = .ready
  buffer : turn.socket.buffer = true
  recv : turn.socket.recv = .received packet
  grants : turn.grants = .all
  nonempty : packet ≠ []
  fits : packet.length ≤ size

theorem connectionRecv_of_serves {connection : UaConnection} {turn : ReceiveTurn} {packet : Bytes}
    (h : Serves connection.localConf.recvBufferSize.toNat turn packet)
    (hopen : connection.state ≠ .closed) (timeout : UInt32) :
    connectionRecv turn.socket connection timeout =
      { retval := uaStatuscodeGood, bytes := packet, connection := connection } := by
  have htake : packet.take connection.localConf.recvBufferSize.toNat = packet :=
    List.take_of_length_le h.fits
  rw [connectionRecv, if_neg hopen]
  simp [h.select, h.buffer, h.recv, htake, h.nonempty]

/-- A callback that leaves the connection alone. -/
def ProcessChunkCallback.Detached (callback : ProcessChunkCallback σ) : Prop :=
  ∀ application connection chunk, (callback.call application connection chunk).2.2 = connection

/-- Chunks of which the last is the one that is waited for. -/
def ChunksUntil (callback : ProcessChunkCallback σ) (done : σ → Prop) (application : σ)
    (connection : UaConnection) (chunks : List Bytes) (last : σ) : Prop :=
  (chunkFramer callback).CutsUntil (fun s => done s.1) (application, connection) chunks
    (last, connection)

theorem cutsUntil_trampoline {callback : ProcessChunkCallback σ} {done : σ → Prop}
    {s t : σ × UaConnection} {chunks : List Bytes} (called : Bool)
    (h : (chunkFramer callback).CutsUntil (fun s => done s.1) s chunks t) :
    (chunkFramer (completeChunkTrampoline callback)).CutsUntil (fun s => done s.1.application)
      ({ called := called, application := s.1 }, s.2) chunks
      ({ called := true, application := t.1 }, t.2) := by
  have hhandle : ∀ (called : Bool) (s t : σ × UaConnection) chunk,
      (chunkFramer callback).handle s chunk = (none, t) →
      (chunkFramer (completeChunkTrampoline callback)).handle
        ({ called := called, application := s.1 }, s.2) chunk =
          (none, ({ called := true, application := t.1 }, t.2)) := by
    intro called s t chunk hhandled
    simp only [chunkFramer, completeChunkTrampoline, Prod.mk.injEq] at hhandled ⊢
    rw [← hhandled.2]
    exact ⟨hhandled.1, rfl, rfl⟩
  induction h generalizing called with
  | last hcut hhandled hreached => exact .last hcut (hhandle called _ _ _ hhandled) hreached
  | more hcut hhandled hbefore _ ih =>
    exact .more hcut (hhandle called _ _ _ hhandled) hbefore (ih true)

theorem cutsUntil_of_trampoline {callback : ProcessChunkCallback σ} {done : σ → Prop}
    {s t : CompleteChunkTrampolineData σ × UaConnection} {chunks : List Bytes}
    (h : (chunkFramer (completeChunkTrampoline callback)).CutsUntil
      (fun s => done s.1.application) s chunks t) :
    (chunkFramer callback).CutsUntil (fun s => done s.1) (s.1.application, s.2) chunks
      (t.1.application, t.2) := by
  have hhandle : ∀ (s t : CompleteChunkTrampolineData σ × UaConnection) chunk,
      (chunkFramer (completeChunkTrampoline callback)).handle s chunk = (none, t) →
      (chunkFramer callback).handle (s.1.application, s.2) chunk =
        (none, (t.1.application, t.2)) := by
    intro s t chunk hhandled
    simp only [chunkFramer, completeChunkTrampoline, Prod.mk.injEq] at hhandled ⊢
    rw [← hhandled.2]
    exact ⟨hhandled.1, rfl⟩
  induction h with
  | last hcut hhandled hreached => exact .last hcut (hhandle _ _ _ hhandled) hreached
  | more hcut hhandled hbefore _ ih => exact .more hcut (hhandle _ _ _ hhandled) hbefore ih

theorem drain_detached {callback : ProcessChunkCallback σ} (h : callback.Detached)
    (s : σ × UaConnection) (b : Bytes) :
    ((chunkFramer callback).drain s b).state.2 = s.2 :=
  (chunkFramer callback).drain_invariant (I := fun t => t.2 = s.2)
    (fun t _ _ _ ht => (h t.1 t.2 _).trans ht) s b rfl

/-- What a packet of such a stream comes to, when `later` is still to come. -/
theorem packet_of_chunksUntil {callback : ProcessChunkCallback σ} (hdetached : callback.Detached)
    {done : σ → Prop} {application last : σ} {connection : UaConnection} {chunks : List Bytes}
    (huntil : ChunksUntil callback done application connection.cleared chunks last)
    {packet later : Bytes}
    (hstream : connection.incompleteMessage ++ packet ++ later = chunks.flatten) :
    ∃ data rest,
      uaConnectionProcessChunks (completeChunkTrampoline callback) .all
          { called := false, application := application } connection packet =
        (uaStatuscodeGood, data, { connection with incompleteMessage := rest }) ∧
      ((later = [] ∧ data = { called := true, application := last } ∧ rest = []) ∨
        (data.called = true → ¬done data.application) ∧ later ≠ [] ∧
          ∃ chunks', ChunksUntil callback done data.application connection.cleared chunks' last ∧
            rest ++ later = chunks'.flatten) := by
  have htramp := cutsUntil_trampoline false huntil
  have hdetached' : (completeChunkTrampoline callback).Detached := fun data connection chunk =>
    hdetached data.application connection chunk
  have hconnection := drain_detached hdetached'
    ({ called := false, application := application }, connection.cleared)
    (connection.incompleteMessage ++ packet)
  rw [uaConnectionProcessChunks_eq]
  rcases Framing.Framer.drain_of_cutsUntil htramp rfl hstream with
    ⟨hlater, hdrain⟩ | ⟨⟨data, c⟩, chunks', rest, hlater, hdrain, hrest, hflatten, hnot⟩
  · rw [hdrain]
    exact ⟨_, [], rfl, Or.inl ⟨hlater, rfl, rfl⟩⟩
  · rw [hdrain] at hconnection ⊢
    dsimp only at hconnection
    subst hconnection
    refine ⟨data, rest, rfl, Or.inr ⟨fun hcalled => ?_, hlater, chunks',
      cutsUntil_of_trampoline hrest, hflatten⟩⟩
    rcases hnot with heq | hnot
    · cases heq
      cases hcalled
    · exact hnot

/-- What waiting comes to while the stream lasts. -/
structure StillToCome (callback : ProcessChunkCallback σ) (done : σ → Prop)
    (connection : UaConnection) (last : σ) (got : ChunksReceived σ) : Prop where
  before : ¬done got.application
  same : got.connection.cleared = connection.cleared
  stream : ∃ chunks packets,
    ChunksUntil callback done got.application connection.cleared chunks last ∧
    List.Forall₂ (Serves connection.localConf.recvBufferSize.toNat) got.turns packets ∧
    got.turns ≠ [] ∧ got.connection.incompleteMessage ++ packets.flatten = chunks.flatten

/-- In time, waiting ends with the chunk that is waited for, or with one before it. -/
theorem receiveChunks_until {callback : ProcessChunkCallback σ} (hdetached : callback.Detached)
    {done : σ → Prop} {maxDate : Int} (timeout : UInt32) {application last : σ}
    {connection : UaConnection} {chunks packets : List Bytes} {turns : List ReceiveTurn}
    (hopen : connection.state ≠ .closed)
    (hserved : List.Forall₂ (Serves connection.localConf.recvBufferSize.toNat) turns packets)
    (htime : ∀ turn ∈ turns, turn.now < maxDate) (hturns : turns ≠ [])
    (huntil : ChunksUntil callback done application connection.cleared chunks last)
    (hstream : connection.incompleteMessage ++ packets.flatten = chunks.flatten) :
    ∃ got, receiveChunks callback maxDate timeout application connection turns = some got ∧
      got.retval = uaStatuscodeGood ∧ got.turns <:+ turns ∧
      ((got.application = last ∧ got.connection = connection.cleared) ∨
        StillToCome callback done connection last got) := by
  generalize hsize : connection.localConf.recvBufferSize.toNat = size at hserved
  induction hserved generalizing timeout application connection chunks with
  | nil => exact absurd rfl hturns
  | @cons turn packet turns packets hserves hserved ih =>
    subst hsize
    have hsuffix : turns <:+ turn :: turns := List.suffix_cons turn turns
    have hrecv := connectionRecv_of_serves hserves hopen timeout
    rw [List.flatten_cons, ← List.append_assoc] at hstream
    obtain ⟨data, rest, hstep, hcases⟩ := packet_of_chunksUntil hdetached huntil hstream
    have hsame := application_of_not_called callback .all application connection packet
    rw [hstep] at hsame
    have hgood : ¬uaStatuscodeGood ≠ uaStatuscodeGood := not_not.mpr rfl
    rw [receiveChunks]
    simp only [hrecv, if_neg hgood, hserves.grants, hstep]
    rcases hcases with ⟨hlater, rfl, rfl⟩ | ⟨hbefore, hlater, chunks', huntil', hflatten⟩
    · exact ⟨_, rfl, rfl, hsuffix, Or.inl ⟨rfl, rfl⟩⟩
    · have hmore : turns ≠ [] := by
        rintro rfl
        cases hserved
        exact hlater rfl
      by_cases hcalled : data.called = true
      · rw [if_pos hcalled]
        exact ⟨_, rfl, rfl, hsuffix,
          Or.inr ⟨hbefore hcalled, rfl, chunks', packets, huntil', hserved, hmore, hflatten⟩⟩
      · have hnow : ¬maxDate ≤ turn.now := Int.not_le.mpr (htime turn List.mem_cons_self)
        rw [if_neg hcalled, if_neg hnow]
        have hopen' : ({ connection with incompleteMessage := rest } : UaConnection).state ≠
            .closed := hopen
        obtain ⟨got, hgot, hretval, hshorter, hend⟩ :=
          ih _ hopen' (fun turn hturn => htime turn (List.mem_cons_of_mem _ hturn)) hmore huntil'
            hflatten rfl
        exact ⟨got, hgot, hretval, hshorter.trans hsuffix,
          hend.imp id fun still => ⟨still.before, still.same, still.stream⟩⟩

end Opcua
end OpcuaGateway
