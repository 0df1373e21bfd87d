/-
`opcua_task`: the loop that polls the machine and publishes its samples.

What the task cannot decide itself is its environment: which allocations
succeed, what the network does to each request, what the bus answers at each
reading of the clock, what the connect comes to and what each evaluation of the
guard sees.  A fault is a memory access the C code has no right to make.
-/
import OpcuaGateway.Effect.Loop
import OpcuaGateway.Heap.Ledger
import OpcuaGateway.Opcua.Client
import OpcuaGateway.Poller.Payload

namespace OpcuaGateway
namespace Poller

open Effect Effect.Action Heap Opcua Rtc Text Numeric Idf

inductive Fault where
  | nullDereference
  | resultsOutOfRange
  | nodeNameOverflow
  | doubleFree
  | badCast
deriving DecidableEq, Repr

structure Message where
  topic : String
  data : Bytes
  len : Int
  qos : Int
  retain : Int
deriving DecidableEq, Repr

inductive Event where
  | connect (endpoint : String) (status : UaStatusCode)
  | guard (ethernetConnected : Int)
  | serviceRead (request : UaReadRequest) (outcome : ServiceOutcome)
  | rtcRead (res : EspErr) (data : Vector UInt8 7)
  | printf (text : Bytes)
  | publish (message : Message)
  | vTaskDelay (ticks : Nat)
deriving DecidableEq

structure TaskState where
  client : UaClient
  localTime : Tm
  heap : Ledger

/-- `local_time` before anything wrote it, and nothing on the heap yet. -/
def TaskState.start : TaskState :=
  { client := UaClient.new, localTime := Tm.zero, heap := Ledger.empty }

abbrev TaskM := Action TaskState Event Fault

/-- What one pass over the nodes meets.  The allocations and the clock are
indexed by the node, the network by the request it is given. -/
structure PassEnv where
  nameItem : Nat → Bool
  nodeName : Nat → Bool
  valueItem : Nat → Bool
  network : UaReadRequest → ServiceOutcome
  rtc : Nat → I2cBus

structure TaskEnv where
  connect : UaStatusCode
  ethernetConnected : Nat → Int
  pass : Nat → PassEnv

/-! ## Allocation, requests and responses -/

/-- An allocation of one block: its holding, or `NULL`. -/
def allocate (granted : Bool) : TaskM (Option Nat) :=
  if granted then
    update fun s => (some (s.heap.acquire 1).1, { s with heap := (s.heap.acquire 1).2 })
  else pure none

def uaReadValueIdNew (granted : Bool) : TaskM (Option Nat) := allocate granted

/-- `request.nodesToRead[0]` filled in through the pointer just obtained. -/
def readRequest (nodesToRead : Option Nat) (nodeId : UaNodeId) (attributeId : UInt32) :
    TaskM UaReadRequest :=
  match nodesToRead with
  | none => fail .nullDereference
  | some _ => pure { nodesToRead := [{ nodeId := nodeId, attributeId := attributeId }] }

structure OwnedResponse where
  response : UaReadResponse
  members : Nat

/-- `UA_Client_Service_read`.  The caller owns the members of the response. -/
def clientServiceRead (network : UaReadRequest → ServiceOutcome) (request : UaReadRequest) :
    TaskM OwnedResponse := do
  emit (.serviceRead request (network request))
  update fun s =>
    let (response, client) := uaClientService s.client (network request)
    let (members, heap) := s.heap.acquire response.memberBlocks
    ({ response := response, members := members }, { s with client := client, heap := heap })

/-- `UA_ReadResponse_deleteMembers`. -/
def deleteMembers (response : OwnedResponse) : TaskM Unit where
  run s :=
    match s.heap.release response.members with
    | some heap => { log := [], exit := .ok ((), { s with heap := heap }) }
    | none => { log := [], exit := .error .doubleFree }

/-- `response.results[index].value`. -/
def resultValue (response : UaReadResponse) (index : Nat) : TaskM UaVariant :=
  match response.results[index]? with
  | some result => pure result.value
  | none => fail .resultsOutOfRange

/-- `*(UA_LocalizedText *)data`. -/
def castLocalizedText : UaPointer → TaskM UaLocalizedText
  | .null => fail .nullDereference
  | .object (.localizedText text) => pure text
  | _ => fail .badCast

/-- `*(float *)data`: the four bytes at the address, lowest first. -/
def castFloat : UaPointer → TaskM UInt32
  | .null => fail .nullDereference
  | .object (.float bits) => pure bits
  | .object (.double bits) => pure bits.toUInt32
  | _ => fail .badCast

/-- `*(u_int16_t *)data`. -/
def castUint16 : UaPointer → TaskM UInt16
  | .null => fail .nullDereference
  | .object (.uint16 value) => pure value
  | _ => fail .badCast

/-- `(int)n` of a 32-bit `size_t`. -/
def castInt (n : Nat) : Int := (BitVec.ofNat 32 n).toInt

/-- The 32-bit `size_t` an `int` converts to. -/
def castSize (z : Int) : Nat := (BitVec.ofInt 32 z).toNat

/-- `nodeName`: the allocation, the `memcpy` of the text and the terminator. -/
def copyText (granted : Bool) (text : UaString) : TaskM Bytes := do
  let length := castInt text.data.length
  let size := castSize (length + 1)
  match ← allocate granted with
  | none => fail .nullDereference
  | some _ =>
    if castSize length ≤ size ∧ 0 ≤ length ∧ length < size then
      pure (text.data.take (castSize length) ++ [0])
    else fail .nodeNameOverflow

/-! ## The body of the node loop -/

/-- The table a pass fills in before its loop. -/
def nodeIds : Nat → UaNodeId
  | 0 => uaNodeidNumeric 4 9
  | 1 => uaNodeidNumeric 4 10
  | 2 => uaNodeidNumeric 4 8
  | 3 => uaNodeidNumeric 4 15
  | 4 => uaNodeidNumeric 4 7
  | 5 => uaNodeidNumeric 4 16
  | 6 => uaNodeidNumeric 4 14
  | 7 => uaNodeidNumeric 4 12
  | 8 => uaNodeidNumeric 4 11
  | _ => uaNodeidNumeric 4 13

/-- The `switch (i)` of the FLOAT branch. -/
def floatTopic : Nat → Option String
  | 0 => some "HAITHIEN/I1/Metric/tmChargeTime"
  | 1 => some "HAITHIEN/I1/Metric/tmClpClsTime"
  | 2 => some "HAITHIEN/I1/Metric/tmClpOpnTime"
  | 3 => some "HAITHIEN/I1/Metric/tmCoolingTime"
  | 4 => some "HAITHIEN/I1/Metric/tmInjTime"
  | 5 => some "HAITHIEN/I1/Metric/InjectionPeakPressure"
  | 6 => some "HAITHIEN/I1/Metric/cycleTime"
  | 7 => some "HAITHIEN/I1/Metric/counterShot"
  | 8 => some "HAITHIEN/I1/Metric/NozzleTemp"
  | 9 => some "HAITHIEN/I1/Metric/SwitchOverPos"
  | _ => none

/-- The `switch (i)` of the DOUBLE branch. -/
def doubleTopic : Nat → Option String
  | 0 => some "HAITHIEN/I1/Metric/tmChargeTime"
  | 1 => some "HAITHIEN/I1/Metric/tmClpClsTime"
  | 2 => some "HAITHIEN/I1/Metric/tmClpOpnTime"
  | 3 => some "HAITHIEN/I1/Metric/tmCoolingTime"
  | 4 => some "HAITHIEN/I1/Metric/tmInjTime"
  | 5 => some "HAITHIEN/I1/Metric/InjectionPeakPressure"
  | 6 => some "HAITHIEN/I1/Metric/cycleTime"
  | 7 => some "HAITHIEN/I1/Metric/counterShot"
  | 8 => some "HAITHIEN/I1/Metric/NozzleTemp"
  | 9 => some "HAITHIEN/I1/Metric/SwitchOverPos"
  | _ => none

/-- The `switch (i)` of the UINT16 branch. -/
def uint16Topic : Nat → Option String
  | 0 => some "HAITHIEN/I1/Metric/tmChargeTime"
  | 1 => some "HAITHIEN/I1/Metric/tmClpClsTime"
  | 2 => some "HAITHIEN/I1/Metric/tmClpOpnTime"
  | 3 => some "HAITHIEN/I1/Metric/tmCoolingTime"
  | 4 => some "HAITHIEN/I1/Metric/tmInjTime"
  | 5 => some "HAITHIEN/I1/Metric/InjectionPeakPressure"
  | 6 => some "HAITHIEN/I1/Metric/cycleTime"
  | 7 => some "HAITHIEN/I1/Metric/counterShot"
  | 8 => some "HAITHIEN/I1/Metric/NozzleTemp"
  | 9 => some "HAITHIEN/I1/Metric/SwitchOverPos"
  | _ => none

/-- `ds3231_get_time(&rtc_i2c, &local_time)`.  The result is not looked at; what
counts afterwards is the content of `local_time`. -/
def readLocalTime (bus : I2cBus) : TaskM Tm := do
  emit (.rtcRead (timeRead bus I2cDev.zero).1 (timeRead bus I2cDev.zero).2)
  update fun s =>
    let localTime := (ds3231GetTime bus (some I2cDev.zero) (some s.localTime)).2.getD s.localTime
    (localTime, { s with localTime := localTime })

/-- What each of the three type branches does with its number. -/
def publishSample (bus : I2cBus) (topic : Option String) (nodeName value : Bytes) :
    TaskM Unit := do
  let localTime ← readLocalTime bus
  emit (.printf (dataReceiverOpcua nodeName value localTime))
  match topic with
  | some topic =>
    emit (.publish
      { topic := topic, data := dataReceiverOpcua nodeName value localTime, len := 0, qos := 0,
        retain := 1 })
  | none => pure ()

def publishValue (env : PassEnv) (i : Nat) (nodeName : Bytes) (value : UaVariant) :
    TaskM Unit :=
  if value.hasScalarType uaTypesFloat then do
    let floatValue ← castFloat value.data
    publishSample (env.rtc i) (floatTopic i) nodeName (formatFixed binary32 floatValue.toNat)
  else if value.hasScalarType uaTypesDouble then do
    let doubleValue ← castFloat value.data
    publishSample (env.rtc i) (doubleTopic i) nodeName (formatFixed binary32 doubleValue.toNat)
  else if value.hasScalarType uaTypesUint16 then do
    let intValue ← castUint16 value.data
    publishSample (env.rtc i) (uint16Topic i) nodeName (formatInt 0 intValue.toNat)
  else
    emit (.printf (ascii "Unsupported data type for Node " ++ formatInt 0 (i + 1) ++ ascii "\n"))

/-- From the second request to the end of the block its response is used in. -/
def readValue (env : PassEnv) (i : Nat) (nodeName : Bytes) : TaskM Unit := do
  let nodesToRead ← uaReadValueIdNew (env.valueItem i)
  let request ← readRequest nodesToRead (nodeIds i) uaAttributeidValue
  let readResponse ← clientServiceRead env.network request
  if readResponse.response.serviceResult = uaStatuscodeGood then do
    let value ← resultValue readResponse.response 0
    publishValue env i nodeName value
    deleteMembers readResponse
  else pure ()

/-- The block that runs when the name is a scalar `UA_LocalizedText`. -/
def readNamed (env : PassEnv) (i : Nat) (browseNameValue : UaVariant) : TaskM Unit :=
  if browseNameValue.hasScalarType uaTypesLocalizedtext then do
    let localizedText ← castLocalizedText browseNameValue.data
    let nodeName ← copyText (env.nodeName i) localizedText.text
    readValue env i nodeName
  else pure ()

def nodeBody (env : PassEnv) (i : Nat) : TaskM Unit := do
  let nodesToRead ← uaReadValueIdNew (env.nameItem i)
  let readNameRequest ← readRequest nodesToRead (nodeIds i) uaAttributeidDisplayname
  let readNameResponse ← clientServiceRead env.network readNameRequest
  if readNameResponse.response.serviceResult = uaStatuscodeGood then do
    let browseNameValue ← resultValue readNameResponse.response 0
    readNamed env i browseNameValue
    deleteMembers readNameResponse
  else pure ()

/-! ## The task -/

/-- `for (int i = 0; i < 10; i++)`. -/
def pollNodes (env : PassEnv) : TaskM Unit := forRange (nodeBody env) 10

/-- The body of `while (1)`, at its `k`-th evaluation of the guard. -/
def cycle (env : TaskEnv) (k : Nat) : TaskM Unit := do
  emit (.guard (env.ethernetConnected k))
  if env.ethernetConnected k = 1 then do
    pollNodes (env.pass k)
    emit (.printf (ascii "\n\n"))
    emit (.vTaskDelay (500 / portTickPeriodMs))
  else pure ()

/-- How the task stands after some number of guard evaluations. -/
inductive TaskEnd where
  | returned
  | looping
deriving DecidableEq, Repr

def uaClientConnect (established : UaStatusCode) (endpoint : String) : TaskM UaStatusCode := do
  emit (.connect endpoint established)
  update fun s =>
    let (status, client) := s.client.connect established
    (status, { s with client := client })

/-- `opcua_task`, its endless loop unrolled `n` times.  Every finite run of the
task is the beginning of one of these. -/
def opcuaTask (env : TaskEnv) (n : Nat) : TaskM TaskEnd := do
  update fun s => ((), { s with client := UaClient.new })
  let status ← uaClientConnect env.connect "opc.tcp://192.168.1.15:4840"
  if status = uaStatuscodeGood then do
    forRange (cycle env) n
    pure .looping
  else pure .returned

end Poller
end OpcuaGateway
