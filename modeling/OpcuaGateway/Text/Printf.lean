/-
Format strings of the `printf` family, as far as the format alone decides.

A format is cut into pieces: bytes that stand for themselves and conversion
specifications.  Only the former, and `%%`, print something that does not depend on
the arguments.
-/
import OpcuaGateway.Text.Decimal

namespace OpcuaGateway
namespace Text

/-- A conversion specification, the percent sign left out. -/
structure Conversion where
  flags : Bytes
  width : Bytes
  precision : Option Bytes
  length : Bytes
  specifier : UInt8
deriving DecidableEq, Repr

inductive Piece where
  | literal (byte : UInt8)
  | conversion (spec : Conversion)
  /-- The format ends within a specification. -/
  | incomplete
deriving DecidableEq, Repr

/-! ## Cutting a format into pieces -/

/-- One of `-`, `+`, the space, `#` and `0`. -/
def isFlag (b : UInt8) : Bool := b == 45 || b == 43 || b == 32 || b == 35 || b == 48

/-- One of `h`, `l`, `j`, `z`, `t` and `L`. -/
def isLength (b : UInt8) : Bool :=
  b == 104 || b == 108 || b == 106 || b == 122 || b == 116 || b == 76

/-- A field width or a precision, and what comes after it: a star or some digits. -/
def takeCount (text : Bytes) : Bytes × Bytes :=
  match text with
  | 42 :: rest => ([42], rest)
  | _ => (text.takeWhile isDigit, text.dropWhile isDigit)

def takePrecision (text : Bytes) : Option Bytes × Bytes :=
  match text with
  | 46 :: rest => ((takeCount rest).1, (takeCount rest).2)
  | _ => (none, text)

/-- The specification after a percent sign, and what comes after it. -/
def takeConversion (text : Bytes) : Option (Conversion × Bytes) :=
  let flags := text.takeWhile isFlag
  let (width, text) := takeCount (text.dropWhile isFlag)
  let (precision, text) := takePrecision text
  let length := text.takeWhile isLength
  match text.dropWhile isLength with
  | [] => none
  | specifier :: rest =>
    some ({ flags := flags, width := width, precision := precision, length := length
            specifier := specifier }, rest)

def piecesUpTo : Nat → Bytes → List Piece
  | 0, _ => []
  | _ + 1, [] => []
  | fuel + 1, b :: rest =>
    if b = 37 then
      match takeConversion rest with
      | none => [.incomplete]
      | some (spec, rest) => .conversion spec :: piecesUpTo fuel rest
    else .literal b :: piecesUpTo fuel rest

/-- No piece is shorter than a byte. -/
def pieces (format : Bytes) : List Piece := piecesUpTo format.length format

/-! ## What a piece does -/

namespace Piece

def isLiteral : Piece → Bool
  | .literal _ => true
  | _ => false

def arguments : Piece → Nat
  | .literal _ => 0
  | .conversion spec =>
    (if spec.width = [42] then 1 else 0) + (if spec.precision = some [42] then 1 else 0) +
      (if spec.specifier = 37 then 0 else 1)
  | .incomplete => 0

/-- What is printed for a piece, where that does not depend on an argument. -/
def output? : Piece → Option Bytes
  | .literal b => some [b]
  | .conversion spec => if spec.specifier = 37 then some [37] else none
  | .incomplete => none

end Piece

def conversions (format : Bytes) : List Piece := (pieces format).filter fun p => !p.isLiteral

def argumentsRead (format : Bytes) : Nat := ((pieces format).map Piece.arguments).sum

/-- What is printed for a format, where that does not depend on the arguments. -/
def printed? (format : Bytes) : Option Bytes :=
  ((pieces format).mapM Piece.output?).map List.flatten

/-- The format has no conversion specification: it reads no argument and is printed as
it stands. -/
structure Inert (format : Bytes) : Prop where
  plain : conversions format = []
  unread : argumentsRead format = 0
  printed : printed? format = some format

/-! ## Formats without a percent sign -/

theorem pieces_of_not_mem {format : Bytes} (h : (37 : UInt8) ∉ format) :
    pieces format = format.map Piece.literal := by
  unfold pieces
  induction format with
  | nil => rfl
  | cons b rest ih =>
    have hb : b ≠ 37 := fun e => h (e ▸ List.mem_cons_self)
    have hrest := ih fun hmem => h (List.mem_cons_of_mem b hmem)
    rw [List.length_cons, piecesUpTo, if_neg hb, hrest]
    rfl

/-- The first percent sign begins a specification. -/
theorem conversions_of_mem {format : Bytes} (h : (37 : UInt8) ∈ format) :
    conversions format ≠ [] := by
  obtain ⟨before, rest, rfl, hbefore⟩ := List.eq_append_cons_of_mem h
  have hsome : ∀ fuel, before.length < fuel →
      ((piecesUpTo fuel (before ++ 37 :: rest)).filter fun p => !p.isLiteral) ≠ [] := by
    clear h
    induction before with
    | nil =>
      intro fuel hfuel
      obtain ⟨k, rfl⟩ : ∃ k, fuel = k + 1 := ⟨fuel - 1, by omega⟩
      rw [List.nil_append, piecesUpTo, if_pos rfl]
      cases takeConversion rest with
      | none => exact List.cons_ne_nil _ _
      | some x => exact List.cons_ne_nil _ _
    | cons b before ih =>
      intro fuel hfuel
      rw [List.length_cons] at hfuel
      obtain ⟨k, rfl⟩ : ∃ k, fuel = k + 1 := ⟨fuel - 1, by omega⟩
      have hb : b ≠ 37 := fun e => hbefore (e ▸ List.mem_cons_self)
      rw [List.cons_append, piecesUpTo, if_neg hb,
        List.filter_cons_of_neg (by simp [Piece.isLiteral])]
      exact ih (fun hmem => hbefore (List.mem_cons_of_mem b hmem)) k (by omega)
  refine hsome _ ?_
  rw [List.length_append, List.length_cons]
  omega

theorem arguments_literal (text : Bytes) :
    ((text.map Piece.literal).map Piece.arguments).sum = 0 := by
  induction text with
  | nil => rfl
  | cons b rest ih =>
    rw [List.map_cons, List.map_cons, List.sum_cons, ih]
    rfl

theorem mapM_literal (text : Bytes) :
    (text.map Piece.literal).mapM Piece.output? = some (text.map fun b => [b]) := by
  induction text with
  | nil => rfl
  | cons b rest ih =>
    rw [List.map_cons, List.mapM_cons, ih]
    rfl

theorem inert_iff (format : Bytes) : Inert format ↔ (37 : UInt8) ∉ format := by
  constructor
  · exact fun h hmem => conversions_of_mem hmem h.plain
  · intro h
    have hpieces := pieces_of_not_mem h
    refine ⟨?_, ?_, ?_⟩
    · rw [conversions, hpieces, List.filter_eq_nil_iff]
      intro p hp
      obtain ⟨b, -, rfl⟩ := List.mem_map.mp hp
      exact Bool.false_ne_true
    · rw [argumentsRead, hpieces, arguments_literal]
    · rw [printed?, hpieces, mapM_literal, Option.map_some, ← List.flatMap_def,
        List.flatMap_singleton']

end Text
end OpcuaGateway
