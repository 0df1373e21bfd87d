/-
What `topic_Sub` and `data_Sub` hold of the messages that arrive.

The client delivers a long message as several data events, of which only the first
carries the topic.  Each event overwrites both arrays, whatever it carries.
-/
import Mathlib.Data.List.GetD
import Mathlib.Data.List.TakeWhile
import OpcuaGateway.Network.Handlers

namespace OpcuaGateway
namespace Network

open Effect Effect.Action Idf Text

/-! ## Messages and their events -/

/-- A message: its topic, and its data as they are cut into events. -/
structure MqttMessage where
  topic : Bytes
  first : Bytes
  more : List Bytes

def MqttMessage.events (message : MqttMessage) : List MqttEvent :=
  { topic := message.topic, data := message.first } ::
    message.more.map fun chunk => { topic := [], data := chunk }

structure Delivery where
  message : MqttMessage
  event : MqttEvent

def deliveries (messages : List MqttMessage) : List Delivery :=
  messages.flatMap fun message =>
    message.events.map fun event => { message := message, event := event }

def handleData (o : Outcomes) : List Delivery → FwM Unit :=
  forEach fun delivery => mqttEventHandler o mqttEventData delivery.event

/-- Both arrays hold terminated strings: the topic of the message, and what the event
brought of its data. -/
structure Holds (delivery : Delivery) (s : FwState) : Prop where
  topicEnds : (0 : UInt8) ∈ s.topicSub.toList
  dataEnds : (0 : UInt8) ∈ s.dataSub.toList
  topic : cString s.topicSub.toList = delivery.message.topic ++ [13, 10]
  data : cString s.dataSub.toList = cString delivery.event.data ++ [13, 10]

/-- After each event, nothing but the arrays has been written, and they hold what
belongs together. -/
def Captured (o : Outcomes) (s : FwState) (messages : List MqttMessage) : Prop :=
  ∀ handled last, handled ++ [last] <+: deliveries messages →
    ∃ t, ((handleData o (handled ++ [last])).run s).final? = some ((), t) ∧ Holds last t

/-! ## One line in an array -/

theorem zero_not_mem_cString (s : Bytes) : (0 : UInt8) ∉ cString s := by
  intro hmem
  have hne := List.mem_takeWhile_imp (p := fun b : UInt8 => decide (b ≠ 0)) hmem
  revert hne
  decide

theorem zero_not_mem_lineText (s : Bytes) : (0 : UInt8) ∉ lineText s := by
  intro hmem
  rcases List.mem_append.mp hmem with hmem | hmem
  · exact zero_not_mem_cString s hmem
  · revert hmem
    decide

/-- The array holds the text and its terminator, and behind that what it held before. -/
theorem sprintf12_toList {buffer written : Vector UInt8 12} {text : Bytes}
    (h : sprintf12 buffer text = some written) :
    written.toList = text ++ 0 :: buffer.toList.drop (text.length + 1) := by
  obtain ⟨hlength, hwritten⟩ := Option.ite_none_right_eq_some.mp h
  have hsplit : text ++ 0 :: buffer.toList.drop (text.length + 1) =
      (text ++ [0]) ++ buffer.toList.drop (text ++ [0]).length := by
    rw [List.append_assoc, List.length_append]
    rfl
  rw [hsplit, ← Option.some.inj hwritten, Vector.toList_ofFn]
  apply List.ext_getElem
  · simp
    omega
  · intro k hk hk'
    rw [List.getElem_ofFn]
    by_cases hfirst : k < (text ++ [0]).length
    · rw [List.getElem_append_left hfirst]
      exact List.getD_eq_getElem _ _ hfirst
    · have hrest := Nat.le_of_not_lt hfirst
      have hindex : (text ++ [0]).length + (k - (text ++ [0]).length) = k := by omega
      rw [List.getElem_append_right hrest, List.getElem_drop]
      refine (List.getD_eq_default _ _ hrest).trans ?_
      simp only [hindex]
      exact (Vector.getElem_toList _).symm

/-- What a string function reads of the array afterwards is the line. -/
theorem sprintf12_holds {buffer written : Vector UInt8 12} {text : Bytes}
    (h : sprintf12 buffer (lineText text) = some written) :
    (0 : UInt8) ∈ written.toList ∧ cString written.toList = cString text ++ [13, 10] := by
  rw [sprintf12_toList h]
  refine ⟨List.mem_append_right _ List.mem_cons_self, ?_⟩
  rw [cString_append_zero (zero_not_mem_lineText text), lineText]

/-! ## One event -/

/-- The event fits, and the line for its topic is the topic of its message. -/
def Delivery.Good (delivery : Delivery) : Prop :=
  delivery.event.Fits ∧ cString delivery.event.topic = delivery.message.topic

/-- An event that is handled leaves its own lines in the arrays. -/
theorem mqttHandled_lines {s t : FwState} {event : MqttEvent}
    (h : mqttHandled s mqttEventData event = some t) :
    ((0 : UInt8) ∈ t.topicSub.toList ∧
        cString t.topicSub.toList = cString event.topic ++ [13, 10]) ∧
      ((0 : UInt8) ∈ t.dataSub.toList ∧
        cString t.dataSub.toList = cString event.data ++ [13, 10]) := by
  rw [mqttHandled, if_neg (by decide), if_neg (by decide), if_pos rfl] at h
  cases htopic : sprintf12 s.topicSub (lineText event.topic) with
  | none => rw [htopic] at h; cases h
  | some topicSub =>
    cases hdata : sprintf12 s.dataSub (lineText event.data) with
    | none => rw [htopic, hdata] at h; cases h
    | some dataSub =>
      rw [htopic, hdata] at h
      rw [← Option.some.inj h]
      exact ⟨sprintf12_holds htopic, sprintf12_holds hdata⟩

theorem handleEvent_final? (o : Outcomes) (delivery : Delivery) (s : FwState) :
    ((handleData o [delivery]).run s).final? =
      (mqttHandled s mqttEventData delivery.event).map fun t => ((), t) := by
  rw [handleData, forEach_singleton, mqttEventData_run]
  cases mqttHandled s mqttEventData delivery.event <;> rfl

theorem mqttHandled_of_fits {event : MqttEvent} (h : event.Fits) (s : FwState) :
    ∃ t, mqttHandled s mqttEventData event = some t :=
  Option.isSome_iff_exists.mp ((mqttHandled_isSome s mqttEventData event).mpr fun _ => h)

/-- The arrays hold what belongs together after an event exactly if it is good. -/
theorem handleEvent_holds_iff (o : Outcomes) (delivery : Delivery) (s : FwState) :
    (∃ t, ((handleData o [delivery]).run s).final? = some ((), t) ∧ Holds delivery t) ↔
      delivery.Good := by
  rw [handleEvent_final?]
  constructor
  · rintro ⟨t, hfinal, hholds⟩
    obtain ⟨u, hhandled, hsame⟩ := Option.map_eq_some_iff.mp hfinal
    obtain rfl : u = t := congrArg Prod.snd hsame
    have hfits := (mqttHandled_isSome s mqttEventData delivery.event).mp
      (Option.isSome_iff_exists.mpr ⟨u, hhandled⟩) rfl
    refine ⟨hfits, ?_⟩
    have hline := (mqttHandled_lines hhandled).1.2
    rw [hholds.topic] at hline
    exact (List.append_cancel_right hline).symm
  · rintro ⟨hfits, htopic⟩
    obtain ⟨t, hhandled⟩ := mqttHandled_of_fits hfits s
    obtain ⟨⟨htopicEnds, htopicLine⟩, hdataEnds, hdataLine⟩ := mqttHandled_lines hhandled
    rw [htopic] at htopicLine
    exact ⟨t, by rw [hhandled]; rfl, htopicEnds, hdataEnds, htopicLine, hdataLine⟩

/-! ## Runs of events -/

theorem handleData_of_good {o : Outcomes} {handled : List Delivery} {s : FwState}
    (h : ∀ delivery ∈ handled, delivery.Good) :
    ∃ t, ((handleData o handled).run s).final? = some ((), t) := by
  induction handled generalizing s with
  | nil => exact ⟨s, rfl⟩
  | cons delivery rest ih =>
    obtain ⟨t, hhandled⟩ := mqttHandled_of_fits (h delivery List.mem_cons_self).1 s
    obtain ⟨u, hrest⟩ := ih (s := t) fun x hx => h x (List.mem_cons_of_mem delivery hx)
    refine ⟨u, ?_⟩
    rw [handleData, forEach_cons, bind_final?, mqttEventData_run, hhandled]
    exact hrest

theorem captured_iff_good (o : Outcomes) (s : FwState) (messages : List MqttMessage) :
    Captured o s messages ↔ ∀ delivery ∈ deliveries messages, delivery.Good := by
  have hlast : ∀ handled last, (handleData o (handled ++ [last])).run s =
      (handleData o handled >>= fun _ => handleData o [last]).run s := fun handled last =>
    forEach_append _ handled [last] s
  constructor
  · intro h delivery hdelivery
    obtain ⟨before, after, hsplit⟩ := List.append_of_mem hdelivery
    have hinitial : before ++ [delivery] <+: deliveries messages := by
      refine ⟨after, ?_⟩
      rw [hsplit, List.append_assoc]
      rfl
    obtain ⟨t, hfinal, hholds⟩ := h before delivery hinitial
    rw [hlast] at hfinal
    obtain ⟨_, u, -, hevent⟩ := bind_returns.mp hfinal
    exact (handleEvent_holds_iff o delivery u).mp ⟨t, hevent, hholds⟩
  · intro h handled last hinitial
    have hgood : ∀ x ∈ handled ++ [last], x.Good := fun x hx => h x (hinitial.subset hx)
    obtain ⟨u, hhandled⟩ := handleData_of_good (o := o) (s := s) fun x hx =>
      hgood x (List.mem_append_left [last] hx)
    obtain ⟨t, hevent, hholds⟩ := (handleEvent_holds_iff o last u).mpr
      (hgood last (List.mem_append_right handled List.mem_cons_self))
    refine ⟨t, ?_, hholds⟩
    rw [hlast]
    exact bind_returns.mpr ⟨(), u, hhandled, hevent⟩

/-! ## Which messages come through -/

theorem cString_eq_self_iff (s : Bytes) : cString s = s ↔ (0 : UInt8) ∉ s := by
  constructor
  · intro h
    rw [← h]
    exact zero_not_mem_cString s
  · intro h
    rw [cString, List.takeWhile_eq_self_iff]
    exact fun b hb => decide_eq_true fun e => h (e ▸ hb)

/-- A message comes through: its lines fit, and it has no topic if there is more of it
than one event. -/
structure MqttMessage.Plain (message : MqttMessage) : Prop where
  zeroless : (0 : UInt8) ∉ message.topic
  topicFits : message.topic.length ≤ 9
  chunksFit : ∀ chunk ∈ message.first :: message.more, (cString chunk).length ≤ 9
  whole : message.more = [] ∨ message.topic = []

theorem plain_iff_good (message : MqttMessage) :
    message.Plain ↔ ∀ event ∈ message.events,
      ({ message := message, event := event } : Delivery).Good := by
  have hmore : (∀ event ∈ message.more.map fun chunk =>
        ({ topic := [], data := chunk } : MqttEvent),
      ({ message := message, event := event } : Delivery).Good) ↔
        ∀ chunk ∈ message.more, (cString chunk).length ≤ 9 ∧ message.topic = [] := by
    rw [List.forall_mem_map]
    refine forall₂_congr fun chunk _ => ?_
    constructor
    · rintro ⟨⟨-, hdata⟩, htopic⟩
      exact ⟨hdata, htopic.symm⟩
    · rintro ⟨hdata, htopic⟩
      exact ⟨⟨Nat.zero_le _, hdata⟩, htopic.symm⟩
  rw [MqttMessage.events, List.forall_mem_cons, hmore]
  constructor
  · rintro ⟨hzero, htopic, hchunks, hwhole⟩
    have hsame := (cString_eq_self_iff message.topic).mpr hzero
    obtain ⟨hfirst, hrest⟩ := List.forall_mem_cons.mp hchunks
    refine ⟨⟨⟨?_, hfirst⟩, hsame⟩, fun chunk hchunk => ⟨hrest chunk hchunk, ?_⟩⟩
    · show (cString message.topic).length ≤ 9
      rwa [hsame]
    · rcases hwhole with hnil | hnil
      · rw [hnil] at hchunk
        cases hchunk
      · exact hnil
  · rintro ⟨⟨⟨htopic, hfirst⟩, hsame⟩, hrest⟩
    refine ⟨(cString_eq_self_iff message.topic).mp hsame, ?_, ?_, ?_⟩
    · rw [← hsame]
      exact htopic
    · exact List.forall_mem_cons.mpr ⟨hfirst, fun chunk hchunk => (hrest chunk hchunk).1⟩
    · cases hchunks : message.more with
      | nil => exact Or.inl rfl
      | cons chunk chunks =>
        exact Or.inr (hrest chunk (hchunks ▸ List.mem_cons_self)).2

/-- The arrays hold what belongs together throughout exactly if every message fits and
only messages without a topic come in several events. -/
theorem captured_iff (o : Outcomes) (s : FwState) (messages : List MqttMessage) :
    Captured o s messages ↔ ∀ message ∈ messages, message.Plain := by
  rw [captured_iff_good, deliveries]
  constructor
  · intro h message hmessage
    exact (plain_iff_good message).mpr fun event hevent => h _
      (List.mem_flatMap.mpr ⟨message, hmessage, List.mem_map_of_mem hevent⟩)
  · intro h delivery hdelivery
    obtain ⟨message, hmessage, hmem⟩ := List.mem_flatMap.mp hdelivery
    obtain ⟨event, hevent, rfl⟩ := List.mem_map.mp hmem
    exact (plain_iff_good message).mp (h message hmessage) event hevent

def sensorMessage : MqttMessage := { topic := ascii "sensor/temp", first := ascii "7", more := [] }

def halvedMessage : MqttMessage :=
  { topic := ascii "t", first := ascii "12345", more := [ascii "67890"] }

/-- A topic of eleven letters overruns `topic_Sub`, and the second half of a message has
another topic in the array. -/
theorem sensorMessage_overruns :
    ((handleData (fun _ => espOk) (deliveries [sensorMessage])).run FwState.boot).final? = none ∧
      (((handleData (fun _ => espOk) (deliveries [halvedMessage])).run FwState.boot).final?.map
        fun x => cString x.2.topicSub.toList) = some [13, 10] ∧
      ¬ ∀ (o : Outcomes) (s : FwState) (messages : List MqttMessage), Captured o s messages := by
  refine ⟨by decide, by decide, ?_⟩
  intro h
  have hgood := (captured_iff_good _ _ _).mp (h (fun _ => espOk) FwState.boot [sensorMessage])
    { message := sensorMessage, event := { topic := ascii "sensor/temp", data := ascii "7" } }
    (List.mem_singleton.mpr rfl)
  have hfits := hgood.1.1
  revert hfits
  decide

end Network
end OpcuaGateway
