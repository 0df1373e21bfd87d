/-
The echo of a published sample on the console.

The three branches pass the formatted message to `printf` as the format itself, so
what the echo shows depends on what the server called its node.
-/
import OpcuaGateway.Poller.Decoding
import OpcuaGateway.Text.Printf

namespace OpcuaGateway
namespace Poller

open Effect Effect.Action Opcua Rtc Text Numeric Idf Json

def printedFormats (log : List Event) : List Bytes :=
  log.filterMap fun e =>
    match e with
    | .printf text => some text
    | _ => none

/-! ## Where a percent sign can come from -/

theorem figures_percentless {text : Bytes} (h : ∀ b ∈ text, isFigure b = true) :
    (37 : UInt8) ∉ text := fun hmem => absurd (h 37 hmem) (by decide)

theorem formatFixed_percentless (w : Nat) : (37 : UInt8) ∉ formatFixed binary32 w := by
  cases hfinite : binary32.isFinite w with
  | true => exact figures_percentless (numeral_fixed hfinite).1.byte
  | false =>
    rw [formatFixed, hfinite, if_neg Bool.false_ne_true]
    cases binary32.negative w <;> cases binary32.isNan w <;> decide

theorem Sample.valueText_percentless (sample : Sample) : (37 : UInt8) ∉ sample.valueText := by
  cases sample with
  | floatValue bits => exact formatFixed_percentless bits.toNat
  | doubleValue bits => exact formatFixed_percentless bits.toUInt32.toNat
  | intValue value => exact figures_percentless (numeral_decimal value.toNat).byte

theorem payloadTail_percentless {value : Bytes} (hvalue : (37 : UInt8) ∉ value) (t : Tm) :
    (37 : UInt8) ∉ payloadTail value t := by
  have htime := figures_percentless (timestampText_figure t)
  have hliteral : (37 : UInt8) ∉ ascii ",\"value\":" ∧ (37 : UInt8) ∉ ascii ",\"timestamp\":\"" ∧
      (37 : UInt8) ∉ ascii "\"\x7d" := by decide
  simp only [payloadTail, List.mem_append, not_or]
  exact ⟨hliteral.1, hvalue, hliteral.2.1, htime, hliteral.2.2⟩

/-- A percent sign of the message is one of the ninety bytes that the template leaves
for the name. -/
theorem percent_mem_iff {name value : Bytes} (hvalue : (37 : UInt8) ∉ value) (t : Tm) :
    (37 : UInt8) ∈ snprintf 100 (payloadText name value t) ↔ (37 : UInt8) ∈ name.take 90 := by
  have hkey : (37 : UInt8) ∉ ascii "name" := by decide
  have hrest : ∀ n, (37 : UInt8) ∉ (34 :: payloadTail value t).take n := by
    intro n hmem
    rcases List.mem_cons.mp (List.mem_of_mem_take hmem) with heq | htail
    · exact absurd heq (by decide)
    · exact payloadTail_percentless hvalue t htail
  rw [snprintf_payloadText, List.take_append]
  simp only [List.mem_cons, List.mem_append, hkey, hrest, false_or, or_false]
  simp

/-! ## What the echo shows -/

/-- The echo is printed as it stands exactly if no percent sign is among the bytes
that are left of the name. -/
theorem echo_inert_iff (env : PassEnv) {i : Nat} (hi : i < 10) (name : UaString)
    {value : UaVariant} {sample : Sample} (hsample : value.content?.bind sampleOf = some sample)
    (s : TaskState) :
    ∃ text,
      printedFormats ((publishValue env i (name.data ++ [0]) value).run s).log = [text] ∧
      publishedTexts ((publishValue env i (name.data ++ [0]) value).run s).log = [text] ∧
      text = snprintf 100 (payloadText (cString name.data) sample.valueText
        (timeAfter (env.rtc i) s.localTime)) ∧
      (Inert text ↔ (37 : UInt8) ∉ (cString name.data).take 90) := by
  rw [publishValue_sampled env hi (name.data ++ [0]) hsample s]
  refine ⟨_, rfl, rfl, ?_, ?_⟩
  · rw [dataReceiverOpcua, cString_append_nul]
  · rw [inert_iff, dataReceiverOpcua, cString_append_nul,
      percent_mem_iff sample.valueText_percentless]

theorem echo_inert_iff_plain :
    ∃ text,
      printedFormats ((publishValue pickyEnv 0 (plainName.data ++ [0])
        (UaVariant.scalar (.uint16 7))).run TaskState.start).log = [text] ∧
      publishedTexts ((publishValue pickyEnv 0 (plainName.data ++ [0])
        (UaVariant.scalar (.uint16 7))).run TaskState.start).log = [text] ∧
      text = snprintf 100 (payloadText (cString plainName.data) (Sample.intValue 7).valueText
        (timeAfter (pickyEnv.rtc 0) TaskState.start.localTime)) ∧
      (Inert text ↔ (37 : UInt8) ∉ (cString plainName.data).take 90) :=
  echo_inert_iff pickyEnv (by decide) plainName rfl TaskState.start

def directiveName : UaString := { data := ascii "%s", decoded := by decide }

/-- What is published of a node called `%s`. -/
def directiveText : Bytes :=
  ascii "\x7b\"name\":\"%s\",\"value\":7,\"timestamp\":\"202001-00-01 01:01:01\"\x7d"

/-- Its echo reads a pointer that nobody passed. -/
theorem directive_survives :
    printedFormats (sevenLog directiveName.data) = [directiveText] ∧
      publishedTexts (sevenLog directiveName.data) = [directiveText] ∧
      argumentsRead directiveText = 1 ∧ printed? directiveText = none ∧
      ¬ Inert directiveText := by
  have hread : argumentsRead directiveText = 1 := by decide +kernel
  refine ⟨by decide +kernel, by decide +kernel, hread, by decide +kernel, ?_⟩
  intro h
  have hunread := h.unread
  rw [hread] at hunread
  cases hunread

end Poller
end OpcuaGateway
