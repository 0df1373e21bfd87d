/-
Parsers over bytes that may fail.

A parser that succeeds hands back what it did not use, and what it did not use
is the end of its input.
-/
import OpcuaGateway.Text.Ascii

namespace OpcuaGateway
namespace Json

open Text

abbrev Parser (α : Type) := StateT Bytes Option α

variable {α β : Type}

def fail : Parser α := fun _ => none

def next : Parser UInt8
  | [] => none
  | b :: rest => some (b, rest)

def peek : Parser UInt8
  | [] => none
  | b :: rest => some (b, b :: rest)

def expect (b : UInt8) : Parser Unit := do
  let c ← next
  if c = b then pure () else fail

def isSpace (b : UInt8) : Bool := b == 32 || b == 9 || b == 10 || b == 13

def skipSpace : Parser Unit := fun input => some ((), input.dropWhile isSpace)

/-- A run of bytes of one kind, possibly empty. -/
def takeAll (kind : UInt8 → Bool) : Parser Bytes := fun input =>
  some (input.takeWhile kind, input.dropWhile kind)

/-- A part that is announced by its first byte. -/
def optionally (mark : UInt8 → Bool) (p : Parser α) (absent : α) : Parser α := fun input =>
  match input with
  | [] => some (absent, [])
  | b :: rest => if mark b then p rest else some (absent, b :: rest)

/-- Items between commas, up to the closing byte. -/
def listOf (item : Parser α) (close : UInt8) : Nat → Parser (List α)
  | 0 => fail
  | fuel + 1 => do
    let a ← item
    skipSpace
    let b ← next
    if b = 44 then do
      let more ← listOf item close fuel
      pure (a :: more)
    else if b = close then pure [a]
    else fail

/-- What follows an opening bracket.  There are no more items than bytes. -/
def bracketed (item : Parser α) (close : UInt8) : Parser (List α) := fun input =>
  match input.dropWhile isSpace with
  | [] => none
  | b :: rest =>
    if b = close then some ([], rest) else listOf item close (rest.length + 1) (b :: rest)

/-! ## How a sequence runs -/

theorem bind_of_some {p : Parser α} {f : α → Parser β} {input rest : Bytes} {a : α}
    (h : p input = some (a, rest)) : (p >>= f) input = f a rest := by
  show (p input).bind (fun r => f r.1 r.2) = _
  rw [h]
  rfl

theorem bind_of_none {p : Parser α} {f : α → Parser β} {input : Bytes}
    (h : p input = none) : (p >>= f) input = none := by
  show (p input).bind (fun r => f r.1 r.2) = _
  rw [h]
  rfl

theorem bind_eq_some {p : Parser α} {f : α → Parser β} {input rest : Bytes} {b : β}
    (h : (p >>= f) input = some (b, rest)) :
    ∃ a middle, p input = some (a, middle) ∧ f a middle = some (b, rest) := by
  cases hp : p input with
  | none =>
    rw [bind_of_none hp] at h
    cases h
  | some r =>
    obtain ⟨a, middle⟩ := r
    rw [bind_of_some hp] at h
    exact ⟨a, middle, rfl, h⟩

theorem pure_eq_some {a b : α} {input rest : Bytes}
    (h : (pure a : Parser α) input = some (b, rest)) : a = b ∧ input = rest := by
  have hpair := Option.some.inj (h : some (a, input) = some (b, rest))
  exact ⟨congrArg Prod.fst hpair, congrArg Prod.snd hpair⟩

theorem next_cons (b : UInt8) (rest : Bytes) : next (b :: rest) = some (b, rest) := rfl

theorem peek_cons (b : UInt8) (rest : Bytes) : peek (b :: rest) = some (b, b :: rest) := rfl

theorem expect_cons (b : UInt8) (rest : Bytes) : expect b (b :: rest) = some ((), rest) := by
  rw [expect, bind_of_some (next_cons b rest), if_pos rfl]
  rfl

theorem next_eq_some {input rest : Bytes} {b : UInt8} (h : next input = some (b, rest)) :
    input = b :: rest := by
  cases input with
  | nil => cases h
  | cons c tail =>
    cases h
    rfl

theorem expect_eq_some {b : UInt8} {input rest : Bytes} {u : Unit}
    (h : expect b input = some (u, rest)) : input = b :: rest := by
  obtain ⟨c, middle, hnext, hafter⟩ := bind_eq_some h
  split at hafter
  · next heq =>
    cases hafter
    rw [next_eq_some hnext, heq]
  · cases hafter

theorem skipSpace_cons {b : UInt8} (hb : isSpace b = false) (rest : Bytes) :
    skipSpace (b :: rest) = some ((), b :: rest) := by
  rw [skipSpace, List.dropWhile_cons, hb]
  rfl

/-! ## What is left is the end of the input -/

def Suffixes (p : Parser α) : Prop := ∀ input a rest, p input = some (a, rest) → rest <:+ input

namespace Suffixes

theorem pure (a : α) : Suffixes (pure a : Parser α) := by
  intro input b rest h
  cases h
  exact List.suffix_rfl

theorem fail : Suffixes (fail : Parser α) := by
  intro input a rest h
  cases h

theorem bind {p : Parser α} {f : α → Parser β} (hp : Suffixes p) (hf : ∀ a, Suffixes (f a)) :
    Suffixes (p >>= f) := by
  intro input b rest h
  obtain ⟨a, middle, hfirst, hsecond⟩ := bind_eq_some h
  exact (hf a middle b rest hsecond).trans (hp input a middle hfirst)

theorem ite {c : Prop} [Decidable c] {p q : Parser α} (hp : Suffixes p) (hq : Suffixes q) :
    Suffixes (if c then p else q) := by
  split
  · exact hp
  · exact hq

theorem next : Suffixes next := by
  intro input b rest h
  cases input with
  | nil => cases h
  | cons c tail =>
    cases h
    exact List.suffix_cons b rest

theorem peek : Suffixes peek := by
  intro input b rest h
  cases input with
  | nil => cases h
  | cons c tail =>
    cases h
    exact List.suffix_rfl

theorem expect (b : UInt8) : Suffixes (expect b) :=
  bind next fun _ => ite (pure ()) fail

theorem skipSpace : Suffixes skipSpace := by
  intro input a rest h
  cases h
  exact List.dropWhile_suffix _

theorem takeAll (kind : UInt8 → Bool) : Suffixes (takeAll kind) := by
  intro input a rest h
  cases h
  exact List.dropWhile_suffix _

theorem optionally (mark : UInt8 → Bool) {p : Parser α} (hp : Suffixes p) (absent : α) :
    Suffixes (optionally mark p absent) := by
  intro input a rest h
  cases input with
  | nil =>
    cases h
    exact List.suffix_rfl
  | cons b tail =>
    rw [Json.optionally] at h
    split at h
    · exact (hp tail a rest h).trans (List.suffix_cons b tail)
    · cases h
      exact List.suffix_rfl

theorem listOf {item : Parser α} (hitem : Suffixes item) (close : UInt8) (fuel : Nat) :
    Suffixes (listOf item close fuel) := by
  induction fuel with
  | zero => exact fail
  | succ fuel ih =>
    exact bind hitem fun a => bind skipSpace fun _ => bind next fun _ =>
      ite (bind ih fun more => pure (a :: more)) (ite (pure [a]) fail)

theorem bracketed {item : Parser α} (hitem : Suffixes item) (close : UInt8) :
    Suffixes (bracketed item close) := by
  intro input a rest h
  have hspace : input.dropWhile isSpace <:+ input := List.dropWhile_suffix _
  rw [Json.bracketed] at h
  split at h
  · cases h
  · next b tail heq =>
    rw [heq] at hspace
    refine List.IsSuffix.trans ?_ hspace
    split at h
    · cases h
      exact List.suffix_cons b rest
    · exact listOf hitem close _ _ a rest h

end Suffixes

/-! ## Doing at least as well on short inputs -/

/-- On inputs of at most `n` bytes, `q` finds what `p` finds. -/
def Covers (n : Nat) (p q : Parser α) : Prop :=
  ∀ input a rest, input.length ≤ n → p input = some (a, rest) → q input = some (a, rest)

namespace Covers

theorem refl (n : Nat) (p : Parser α) : Covers n p p := fun _ _ _ _ h => h

theorem bind {n : Nat} {p p' : Parser α} {f f' : α → Parser β} (hp : Suffixes p)
    (hfirst : Covers n p p') (hsecond : ∀ a, Covers n (f a) (f' a)) :
    Covers n (p >>= f) (p' >>= f') := by
  intro input b rest hlen h
  obtain ⟨a, middle, ha, hb⟩ := bind_eq_some h
  have hmiddle : middle.length ≤ n := Nat.le_trans (hp input a middle ha).length_le hlen
  rw [bind_of_some (hfirst input a middle hlen ha)]
  exact hsecond a middle b rest hmiddle hb

theorem ite {n : Nat} {c : Prop} [Decidable c] {p p' q q' : Parser α} (hp : Covers n p p')
    (hq : Covers n q q') : Covers n (if c then p else q) (if c then p' else q') := by
  split
  · exact hp
  · exact hq

/-- Behind a byte that is consumed there is one byte less. -/
theorem expect {n : Nat} {b : UInt8} {p q : Parser α} (h : Covers n p q) :
    Covers (n + 1) (expect b >>= fun _ => p) (expect b >>= fun _ => q) := by
  intro input a rest hlen hrun
  obtain ⟨_, middle, hfirst, hsecond⟩ := bind_eq_some hrun
  have hinput : input = b :: middle := expect_eq_some hfirst
  rw [hinput, List.length_cons] at hlen
  rw [bind_of_some hfirst]
  exact h middle a rest (by omega) hsecond

theorem listOf {n : Nat} {item item' : Parser α} (hitem : Suffixes item)
    (h : Covers n item item') (close : UInt8) (fuel : Nat) :
    Covers n (listOf item close fuel) (listOf item' close fuel) := by
  induction fuel with
  | zero => exact refl n fail
  | succ fuel ih =>
    refine bind hitem h fun a => bind Suffixes.skipSpace (refl n _) fun _ =>
      bind Suffixes.next (refl n _) fun _ => ite ?_ (refl n _)
    exact bind (Suffixes.listOf hitem close fuel) ih fun _ => refl n _

theorem bracketed {n : Nat} {item item' : Parser α} (hitem : Suffixes item)
    (h : Covers n item item') (close : UInt8) :
    Covers n (bracketed item close) (bracketed item' close) := by
  intro input a rest hlen hrun
  have hspace : input.dropWhile isSpace <:+ input := List.dropWhile_suffix _
  unfold Json.bracketed at hrun ⊢
  cases hdrop : input.dropWhile isSpace with
  | nil =>
    rw [hdrop] at hrun
    cases hrun
  | cons b tail =>
    rw [hdrop] at hrun hspace
    by_cases hclose : b = close
    · simp only [if_pos hclose] at hrun ⊢
      exact hrun
    · simp only [if_neg hclose] at hrun ⊢
      exact listOf hitem h close _ _ a rest (Nat.le_trans hspace.length_le hlen) hrun

end Covers

/-! ## A list ends at its closing byte -/

/-- When a list goes through, what its first item leaves holds the closing byte. -/
theorem listOf_eq_some {item : Parser α} (hitem : Suffixes item) {close : UInt8} {fuel : Nat}
    {input rest : Bytes} {items : List α} (h : listOf item close fuel input = some (items, rest)) :
    ∃ a more middle, item input = some (a, middle) ∧ items = a :: more ∧ close ∈ middle := by
  induction fuel generalizing input items rest with
  | zero => cases h
  | succ fuel ih =>
    obtain ⟨a, middle, hfirst, hafter⟩ := bind_eq_some h
    obtain ⟨_, space, hspace, hafter⟩ := bind_eq_some hafter
    obtain ⟨b, tail, hnext, hafter⟩ := bind_eq_some hafter
    have hspaceSuffix : space <:+ middle := Suffixes.skipSpace middle _ space hspace
    have htailSuffix : tail <:+ middle := (Suffixes.next space b tail hnext).trans hspaceSuffix
    split at hafter
    · obtain ⟨more, left, hmore, hlast⟩ := bind_eq_some hafter
      obtain ⟨c, others, inner, hitemTail, -, hmem⟩ := ih hmore
      have hinner : inner <:+ tail := hitem tail c inner hitemTail
      refine ⟨a, more, middle, hfirst, ?_, (hinner.trans htailSuffix).mem hmem⟩
      cases hlast
      rfl
    · split at hafter
      · next hclose =>
        have hspaceCons : space = b :: tail := next_eq_some hnext
        refine ⟨a, [], middle, hfirst, ?_, hspaceSuffix.mem ?_⟩
        · cases hafter
          rfl
        · rw [hspaceCons, hclose]
          exact List.mem_cons_self
      · cases hafter

/-- A list whose first byte is neither a space nor the closing byte. -/
theorem bracketed_cons {item : Parser α} {close b : UInt8} (hspace : isSpace b = false)
    (hne : b ≠ close) (rest : Bytes) :
    bracketed item close (b :: rest) = listOf item close (rest.length + 1) (b :: rest) := by
  rw [bracketed, List.dropWhile_cons, hspace]
  exact if_neg hne

theorem listOf_comma {item : Parser α} {close : UInt8} {fuel : Nat} {input middle : Bytes} {a : α}
    (h : item input = some (a, 44 :: middle)) :
    listOf item close (fuel + 1) input =
      (listOf item close fuel middle).map fun r => (a :: r.1, r.2) := by
  rw [listOf, bind_of_some h, bind_of_some (skipSpace_cons rfl middle),
    bind_of_some (next_cons 44 middle), if_pos rfl]
  cases hmore : listOf item close fuel middle with
  | none => exact bind_of_none hmore
  | some r => exact bind_of_some hmore

theorem listOf_close {item : Parser α} {close : UInt8} {fuel : Nat} {input middle : Bytes} {a : α}
    (h : item input = some (a, close :: middle)) (hspace : isSpace close = false)
    (hcomma : close ≠ 44) :
    listOf item close (fuel + 1) input = some ([a], middle) := by
  rw [listOf, bind_of_some h, bind_of_some (skipSpace_cons hspace middle),
    bind_of_some (next_cons close middle), if_neg hcomma, if_pos rfl]
  rfl

end Json
end OpcuaGateway
