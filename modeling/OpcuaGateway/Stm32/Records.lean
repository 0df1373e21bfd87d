/-
Several records in one buffer.

The parser searches for its separators over the whole buffer and takes no notice of
where a record ends.  A record that lost its second colon is then completed with
the beginning of a later one.
-/
import OpcuaGateway.Stm32.Frame

namespace OpcuaGateway
namespace Stm32

open Effect Effect.Action Text

/-- What stands before the hash that ends a record. -/
structure Record where
  body : Bytes
  hashless : (35 : UInt8) ∉ body
  zeroless : (0 : UInt8) ∉ body

namespace Record

def text (record : Record) : Bytes := record.body ++ [35]

/-- The body has the form `p:n:v`. -/
def HasFields (record : Record) (n v : Bytes) : Prop :=
  (58 : UInt8) ∉ n ∧ ∃ p : Bytes, (58 : UInt8) ∉ p ∧ record.body = p ++ 58 :: (n ++ 58 :: v)

def WellFormed (record : Record) : Prop := ∃ n v, record.HasFields n v

/-- A body whose first colon is followed by another one is well formed. -/
theorem wellFormed_iff {record : Record} {p after : Bytes} (hp : (58 : UInt8) ∉ p)
    (h : record.body = p ++ 58 :: after) : record.WellFormed ↔ (58 : UInt8) ∈ after := by
  constructor
  · rintro ⟨n, v, -, p', hp', hbody⟩
    obtain ⟨-, hafter⟩ := split_unique (h.symm.trans hbody) hp hp'
    rw [hafter]
    exact List.mem_append_right n List.mem_cons_self
  · intro hmem
    obtain ⟨n, v, hafter, hn⟩ := List.eq_append_cons_of_mem hmem
    exact ⟨n, v, hn, p, hp, by rw [h, hafter]⟩

end Record

def input (records : List Record) : Bytes := records.flatMap Record.text

theorem input_append (front back : List Record) :
    input (front ++ back) = input front ++ input back :=
  List.flatMap_append

theorem input_cons (record : Record) (back : List Record) :
    input (record :: back) = record.body ++ 35 :: input back := by
  show (record.body ++ [35]) ++ input back = _
  rw [List.append_assoc, List.singleton_append]

theorem not_mem_input {c : UInt8} (hc : c ≠ 35) {records : List Record}
    (h : ∀ record ∈ records, c ∉ record.body) : c ∉ input records := by
  intro hmem
  obtain ⟨record, hrecord, hin⟩ := List.mem_flatMap.mp hmem
  rcases List.mem_append.mp hin with hbody | hhash
  · exact h record hrecord hbody
  · exact hc (List.mem_singleton.mp hhash)

theorem input_zeroless (records : List Record) : (0 : UInt8) ∉ input records :=
  not_mem_input (by decide) fun record _ => record.zeroless

theorem exists_first_colon {records : List Record}
    (h : ∃ record ∈ records, (58 : UInt8) ∈ record.body) :
    ∃ front record back, records = front ++ record :: back ∧
      (∀ x ∈ front, (58 : UInt8) ∉ x.body) ∧ (58 : UInt8) ∈ record.body := by
  have hsome : (records.find? fun x => decide ((58 : UInt8) ∈ x.body)).isSome = true := by
    rw [List.find?_isSome]
    simpa using h
  obtain ⟨record, hfound⟩ := Option.isSome_iff_exists.mp hsome
  obtain ⟨hcolon, front, back, heq, hfront⟩ := List.find?_eq_some_iff_append.mp hfound
  exact ⟨front, record, back, heq, by simpa using hfront, of_decide_eq_true hcolon⟩

/-! ## What is written comes from where -/

def bytesOf (out : Output) (l : List Store) : Bytes :=
  (l.filter fun s => s.out = out).map Store.byte

theorem bytesOf_storesFrom (out out' : Output) (offset : Nat) (text : Bytes) :
    bytesOf out (storesFrom out' offset text) = if out' = out then text else [] := by
  induction text generalizing offset with
  | nil => split_ifs <;> rfl
  | cons byte text ih =>
    have hrest := ih (offset + 1)
    by_cases hout : out' = out
    · rw [if_pos hout] at hrest ⊢
      rw [bytesOf, storesFrom, List.filter_cons_of_pos (by simpa using hout), List.map_cons]
      exact congrArg (byte :: ·) hrest
    · rw [if_neg hout] at hrest ⊢
      rw [bytesOf, storesFrom, List.filter_cons_of_neg (by simpa using hout)]
      exact hrest

theorem bytesOf_frameStores (out : Output) (n v : Bytes) :
    bytesOf out (frameStores n v) = bytesOf out (fieldStores .name n) ++
      bytesOf out (fieldStores .value v) := by
  rw [frameStores, bytesOf, List.filter_append, List.map_append]
  rfl

theorem frameStores_inj {n v n' v' : Bytes} (h : frameStores n v = frameStores n' v') :
    n = n' ∧ v = v' := by
  have hname := congrArg (bytesOf .name) h
  have hvalue := congrArg (bytesOf .value) h
  simp only [bytesOf_frameStores, fieldStores, bytesOf_storesFrom, reduceCtorEq, if_true, if_false,
    List.append_nil, List.nil_append] at hname hvalue
  exact ⟨List.append_cancel_right hname, List.append_cancel_right hvalue⟩

/-- What the function yields are the parts of its input. -/
theorem splits_of_yields {s n v : Bytes} (hzero : (0 : UInt8) ∉ s) (beyond : Bytes)
    {b : Buffers} (hroom : b.Roomy s) (h : Yields (s ++ 0 :: beyond) b n v) :
    ∃ p r, Splits s p n v r := by
  by_contra hnone
  by_cases hsplits : ∃ p n' v' r, Splits s p n' v' r
  · obtain ⟨p, n', v', r, hs⟩ := hsplits
    have hsame := h.1.symm.trans (yields_of_splits hzero beyond hs hroom).1
    obtain ⟨rfl, rfl⟩ := frameStores_inj hsame
    exact hnone ⟨p, r, hs⟩
  · have hnot : ∀ p n v r, ¬ Splits s p n v r := fun p n v r hs => hsplits ⟨p, n, v, r, hs⟩
    have hempty := (leavesAlone_of_not_splits hzero beyond hnot b).1
    exact frameStores_ne_nil n v (h.1.symm.trans hempty)

/-! ## Mixed records -/

/-- Whatever name and value the function yields are the fields of one record. -/
def Unmixed (records : List Record) (beyond : Bytes) (b : Buffers) : Prop :=
  ∀ n v, Yields (input records ++ 0 :: beyond) b n v →
    (35 : UInt8) ∉ n ∧ (35 : UInt8) ∉ v ∧ ∃ record ∈ records, record.HasFields n v

/-- The first record with a colon has a second one, or is the only one with a colon. -/
def FirstWhole (records : List Record) : Prop :=
  ∀ front record back, records = front ++ record :: back →
    (∀ x ∈ front, (58 : UInt8) ∉ x.body) → (58 : UInt8) ∈ record.body →
      record.WellFormed ∨ ∀ x ∈ back, (58 : UInt8) ∉ x.body

section FirstColon

variable {front back : List Record} {record : Record} {p after : Bytes}
  (hfront : ∀ x ∈ front, (58 : UInt8) ∉ x.body) (hp : (58 : UInt8) ∉ p)
  (hbody : record.body = p ++ 58 :: after)

include hbody in
theorem input_at_colon :
    input (front ++ record :: back) =
      (input front ++ p) ++ 58 :: (after ++ 35 :: input back) := by
  rw [input_append, input_cons, hbody]
  simp only [List.append_assoc, List.cons_append]

include hfront hp in
theorem colon_not_before : (58 : UInt8) ∉ input front ++ p := by
  intro hmem
  rcases List.mem_append.mp hmem with hmem | hmem
  · exact not_mem_input (by decide) hfront hmem
  · exact hp hmem

include hfront hp hbody in
/-- A frame starts in the first record with a colon. -/
theorem splits_at_first {p' n v r : Bytes}
    (h : Splits (input (front ++ record :: back)) p' n v r) :
    n ++ 58 :: (v ++ 35 :: r) = after ++ 35 :: input back := by
  have heq := h.eq
  rw [input_at_colon hbody] at heq
  exact (split_unique heq (colon_not_before hfront hp) h.lead).2.symm

end FirstColon

/-- The fields of the first record with a colon, if that is well formed. -/
theorem fields_of_wellFormed {front back : List Record} {record : Record}
    (hfront : ∀ x ∈ front, (58 : UInt8) ∉ x.body) (hwhole : record.WellFormed) {p n v r : Bytes}
    (h : Splits (input (front ++ record :: back)) p n v r) : record.HasFields n v := by
  obtain ⟨n', v', hn', p', hp', hbody⟩ := hwhole
  have hafter := splits_at_first hfront hp' hbody h
  rw [List.append_assoc, List.cons_append] at hafter
  obtain ⟨rfl, hrest⟩ := split_unique hafter h.name hn'
  have hv' : (35 : UInt8) ∉ v' := by
    intro hmem
    apply record.hashless
    rw [hbody]
    exact List.mem_append_right _ (List.mem_cons_of_mem _
      (List.mem_append_right _ (List.mem_cons_of_mem _ hmem)))
  obtain ⟨rfl, -⟩ := split_unique hrest h.value hv'
  exact ⟨hn', p', hp', hbody⟩

theorem unmixed_of_firstWhole {records : List Record} (beyond : Bytes) {b : Buffers}
    (hroom : b.Roomy (input records)) (h : FirstWhole records) : Unmixed records beyond b := by
  intro n v hyields
  obtain ⟨p, r, hsplits⟩ := splits_of_yields (input_zeroless records) beyond hroom hyields
  have hcolon : ∃ record ∈ records, (58 : UInt8) ∈ record.body := by
    by_contra hnone
    have habsent : (58 : UInt8) ∉ input records :=
      not_mem_input (by decide) fun record hrecord hmem => hnone ⟨record, hrecord, hmem⟩
    rw [hsplits.eq] at habsent
    exact habsent (List.mem_append_right p List.mem_cons_self)
  obtain ⟨front, record, back, rfl, hfront, hmem⟩ := exists_first_colon hcolon
  have hwhole : record.WellFormed := by
    rcases h front record back rfl hfront hmem with hwhole | hback
    · exact hwhole
    · obtain ⟨p', after, hbody, hp'⟩ := List.eq_append_cons_of_mem hmem
      rw [Record.wellFormed_iff hp' hbody]
      have hafter := splits_at_first hfront hp' hbody hsplits
      have hsecond : (58 : UInt8) ∈ after ++ 35 :: input back := by
        rw [← hafter]
        exact List.mem_append_right n List.mem_cons_self
      rcases List.mem_append.mp hsecond with hin | hin
      · exact hin
      · rcases List.mem_cons.mp hin with heq | hin
        · exact absurd heq (by decide)
        · exact absurd hin (not_mem_input (by decide) hback)
  have hfields := fields_of_wellFormed hfront hwhole hsplits
  refine ⟨?_, hsplits.value, record, List.mem_append_right front List.mem_cons_self, hfields⟩
  obtain ⟨-, p', -, hbody⟩ := hfields
  intro hmem
  apply record.hashless
  rw [hbody]
  exact List.mem_append_right _ (List.mem_cons_of_mem _ (List.mem_append_left _ hmem))

/-- A record with one colon takes its second one from a later record. -/
theorem splits_across {front back : List Record} {record : Record}
    (hfront : ∀ x ∈ front, (58 : UInt8) ∉ x.body) (hcolon : (58 : UInt8) ∈ record.body)
    (hdamaged : ¬ record.WellFormed) (hlater : ∃ x ∈ back, (58 : UInt8) ∈ x.body) :
    ∃ p n v r, Splits (input (front ++ record :: back)) p n v r ∧ (35 : UInt8) ∈ n := by
  obtain ⟨p, after, hbody, hp⟩ := List.eq_append_cons_of_mem hcolon
  rw [Record.wellFormed_iff hp hbody] at hdamaged
  obtain ⟨between, record', back', rfl, hbetween, hcolon'⟩ := exists_first_colon hlater
  obtain ⟨p', after', hbody', hp'⟩ := List.eq_append_cons_of_mem hcolon'
  have hhash : (35 : UInt8) ∈ after' ++ 35 :: input back' :=
    List.mem_append_right after' List.mem_cons_self
  obtain ⟨v, r, hrest, hv⟩ := List.eq_append_cons_of_mem hhash
  refine ⟨input front ++ p, after ++ 35 :: (input between ++ p'), v, r, ⟨?_, ?_, ?_, hv⟩, ?_⟩
  · rw [input_at_colon hbody, input_at_colon hbody', hrest]
    simp only [List.append_assoc, List.cons_append]
  · exact colon_not_before hfront hp
  · intro hmem
    rcases List.mem_append.mp hmem with hmem | hmem
    · exact hdamaged hmem
    · rcases List.mem_cons.mp hmem with heq | hmem
      · exact absurd heq (by decide)
      · exact colon_not_before hbetween hp' hmem
  · exact List.mem_append_right after List.mem_cons_self

theorem firstWhole_of_unmixed {records : List Record} (beyond : Bytes) {b : Buffers}
    (hroom : b.Roomy (input records)) (h : Unmixed records beyond b) : FirstWhole records := by
  rintro front record back rfl hfront hcolon
  by_contra hneither
  rw [not_or] at hneither
  obtain ⟨hdamaged, hlater⟩ := hneither
  have hexists : ∃ x ∈ back, (58 : UInt8) ∈ x.body := by
    by_contra hnone
    exact hlater fun x hx hmem => hnone ⟨x, hx, hmem⟩
  obtain ⟨p, n, v, r, hsplits, hhash⟩ := splits_across hfront hcolon hdamaged hexists
  have hyields := yields_of_splits (input_zeroless _) beyond hsplits hroom
  exact (h n v hyields).1 hhash

/-- Records are kept apart exactly when the first one with a colon is whole or nothing
after it has a colon. -/
theorem unmixed_iff (records : List Record) (beyond : Bytes) {b : Buffers}
    (hroom : b.Roomy (input records)) : Unmixed records beyond b ↔ FirstWhole records :=
  ⟨firstWhole_of_unmixed beyond hroom, unmixed_of_firstWhole beyond hroom⟩

def wholeRecord : Record :=
  { body := ascii "a:b:c", hashless := by decide, zeroless := by decide }

/-- A record that lost its second colon. -/
def damagedRecord : Record :=
  { body := ascii "x:y", hashless := by decide, zeroless := by decide }

theorem unmixed_iff_whole :
    Unmixed [wholeRecord, damagedRecord] [] Buffers.blank ↔
      FirstWhole [wholeRecord, damagedRecord] :=
  unmixed_iff _ [] (Buffers.roomy_of_length (by decide) (by decide))

/-- The name `y#a` belongs to neither record. -/
theorem damaged_first_mixed :
    ¬ ∀ (records : List Record) (beyond : Bytes) (b : Buffers),
      b.Roomy (input records) → Unmixed records beyond b := by
  intro h
  have hroom : Buffers.blank.Roomy (input [damagedRecord, wholeRecord]) :=
    Buffers.roomy_of_length (by decide) (by decide)
  have hsplits : Splits (input [damagedRecord, wholeRecord]) (ascii "x") (ascii "y#a")
      (ascii "b:c") [] := ⟨rfl, by decide, by decide, by decide⟩
  have hyields := yields_of_splits (input_zeroless _) [] hsplits hroom
  exact absurd (h _ [] _ hroom _ _ hyields).1 (by decide)

end Stm32
end OpcuaGateway
