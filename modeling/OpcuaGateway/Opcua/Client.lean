import OpcuaGateway.Opcua.Types

namespace OpcuaGateway
namespace Opcua

inductive UaClientState where
  | disconnected
  | connected
  | securechannel
  | session
  | sessionRenewed
deriving DecidableEq, Repr

structure UaClient where
  state : UaClientState
deriving DecidableEq, Repr

def UaClient.new : UaClient := { state := .disconnected }

def UaClient.close (_ : UaClient) : UaClient := { state := .disconnected }

/-- `UA_Client_connect`, `established` being what opening the connection, the
channel and the session came to.  A client that is connected already is left
alone, and one that fails on the way is closed. -/
def UaClient.connect (client : UaClient) (established : UaStatusCode) :
    UaStatusCode × UaClient :=
  if client.state ≠ .disconnected then (uaStatuscodeGood, client)
  else if established = uaStatuscodeGood then (uaStatuscodeGood, { state := .session })
  else (established, client.close)

/-! ## The synchronous service call -/

/-- How waiting for the response ended: the deadline passed, or the receive loop
stopped with a status and with the response as far as it was decoded. -/
inductive ReceiveOutcome where
  | deadline
  | chunks (retval : UaStatusCode) (response : UaReadResponse)
deriving DecidableEq

structure ServiceOutcome where
  send : UaStatusCode
  receive : ReceiveOutcome
deriving DecidableEq

def receiveServiceResponse (client : UaClient) :
    ReceiveOutcome → UaStatusCode × UaClient × UaReadResponse
  | .deadline => (uaStatuscodeGoodnoncriticaltimeout, client, UaReadResponse.init)
  | .chunks retval response =>
    if retval ≠ uaStatuscodeGood ∧ retval ≠ uaStatuscodeGoodnoncriticaltimeout then
      (retval, client.close, response)
    else (retval, client, response)

/-- `__UA_Client_Service`. -/
def uaClientService (client : UaClient) (outcome : ServiceOutcome) :
    UaReadResponse × UaClient :=
  if outcome.send ≠ uaStatuscodeGood then
    let serviceResult :=
      if outcome.send = uaStatuscodeBadencodinglimitsexceeded then uaStatuscodeBadrequesttoolarge
      else outcome.send
    ({ UaReadResponse.init with serviceResult := serviceResult }, client.close)
  else
    let (retval, client, response) := receiveServiceResponse client outcome.receive
    let (retval, client) :=
      -- no reply in time: the connection has to be closed
      if retval = uaStatuscodeGoodnoncriticaltimeout then
        (uaStatuscodeBadconnectionclosed, client.close)
      else (retval, client)
    if retval ≠ uaStatuscodeGood then ({ response with serviceResult := retval }, client)
    else (response, client)

namespace ServiceOutcome

/-- The answer of a server that replied in time. -/
def replied (response : UaReadResponse) : ServiceOutcome :=
  { send := uaStatuscodeGood, receive := .chunks uaStatuscodeGood response }

/-- The outcomes on which the service call closes the client. -/
def closes (outcome : ServiceOutcome) : Bool :=
  outcome.send ≠ uaStatuscodeGood ||
    match outcome.receive with
    | .deadline => true
    | .chunks retval _ => retval ≠ uaStatuscodeGood

/-- The response the caller sees. -/
def response (outcome : ServiceOutcome) : UaReadResponse :=
  (uaClientService UaClient.new outcome).1

end ServiceOutcome

@[simp] theorem uaStatuscodeGood_ne_goodnoncriticaltimeout :
    uaStatuscodeGood ≠ uaStatuscodeGoodnoncriticaltimeout := by decide

@[simp] theorem uaStatuscodeBadconnectionclosed_ne_good :
    uaStatuscodeBadconnectionclosed ≠ uaStatuscodeGood := by decide

@[simp] theorem uaStatuscodeBadrequesttoolarge_ne_good :
    uaStatuscodeBadrequesttoolarge ≠ uaStatuscodeGood := by decide

@[simp] theorem uaStatuscodeBadencodinglimitsexceeded_ne_good :
    uaStatuscodeBadencodinglimitsexceeded ≠ uaStatuscodeGood := by decide

/-- A call that does not close the client returns the reply as it was received. -/
theorem uaClientService_of_not_closes {client : UaClient} {outcome : ServiceOutcome}
    (h : outcome.closes = false) :
    ∃ response, outcome = ServiceOutcome.replied response ∧
      uaClientService client outcome = (response, client) := by
  obtain ⟨send, receive⟩ := outcome
  simp only [ServiceOutcome.closes, Bool.or_eq_false_iff, decide_eq_false_iff_not, not_not] at h
  obtain ⟨hsend, hreceive⟩ := h
  subst hsend
  cases receive with
  | deadline => simp at hreceive
  | chunks retval response =>
    simp only [decide_eq_false_iff_not, not_not] at hreceive
    subst hreceive
    exact ⟨response, rfl, by simp [uaClientService, receiveServiceResponse]⟩

/-- A call that closes the client leaves it disconnected and reports a status
other than GOOD. -/
theorem uaClientService_of_closes {client : UaClient} {outcome : ServiceOutcome}
    (h : outcome.closes = true) :
    (uaClientService client outcome).2 = client.close ∧
      (uaClientService client outcome).1.serviceResult ≠ uaStatuscodeGood := by
  obtain ⟨send, receive⟩ := outcome
  by_cases hsend : send = uaStatuscodeGood
  · subst hsend
    cases receive with
    | deadline => simp [uaClientService, receiveServiceResponse, UaClient.close]
    | chunks retval response =>
      have hretval : retval ≠ uaStatuscodeGood := by
        simpa [ServiceOutcome.closes] using h
      by_cases htimeout : retval = uaStatuscodeGoodnoncriticaltimeout
      · simp [uaClientService, receiveServiceResponse, UaClient.close, htimeout]
      · simp [uaClientService, receiveServiceResponse, hretval, htimeout]
  · by_cases hlimits : send = uaStatuscodeBadencodinglimitsexceeded
    · simp [uaClientService, hlimits]
    · simp [uaClientService, hsend, hlimits]

/-- What the caller sees does not depend on the client. -/
theorem uaClientService_fst (client : UaClient) (outcome : ServiceOutcome) :
    (uaClientService client outcome).1 = outcome.response := by
  obtain ⟨send, receive⟩ := outcome
  by_cases hsend : send = uaStatuscodeGood
  · subst hsend
    cases receive with
    | deadline => simp [ServiceOutcome.response, uaClientService, receiveServiceResponse]
    | chunks retval response =>
      by_cases hgood : retval = uaStatuscodeGood
      · simp [ServiceOutcome.response, uaClientService, receiveServiceResponse, hgood]
      · by_cases htimeout : retval = uaStatuscodeGoodnoncriticaltimeout
        · simp [ServiceOutcome.response, uaClientService, receiveServiceResponse, htimeout]
        · simp [ServiceOutcome.response, uaClientService, receiveServiceResponse, hgood, htimeout]
  · simp [ServiceOutcome.response, uaClientService, hsend]

/-- Every response can be the one the caller sees. -/
@[simp] theorem ServiceOutcome.response_replied (response : UaReadResponse) :
    (ServiceOutcome.replied response).response = response := by
  simp [ServiceOutcome.response, ServiceOutcome.replied, uaClientService, receiveServiceResponse]

end Opcua
end OpcuaGateway
