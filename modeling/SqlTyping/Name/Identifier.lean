import SqlTyping.Misuse
import SqlTyping.Source.Span
import SqlTyping.Text.Pieces

/-!
# Identifiers

An **identifier** is a value, the character that opens its quotes if it is
quoted, and where it stands. Four characters quote: the double quote, the
single quote and the backtick, which close themselves and are doubled
inside the value, and the opening bracket, which is closed by `]` and
doubles nothing.

A reader of SQL may hand over any character as the opening one, so
`quote` does not exclude the others; an identifier with one of those
cannot be written, and `text?` says so.

## Equality

`x == y` compares value and quote and looks past the span; `x = y`
compares all three.
-/

namespace SqlTyping

/-- The quotes that close themselves and are doubled inside. -/
def selfClosingQuotes : List Char := ['\x22', '\x27', '\x60']

/-- Whether identifiers can be quoted with a character. -/
def isQuote (q : Char) : Bool := selfClosingQuotes.contains q || q == '['

/-- **An identifier**, taken apart into its value and its quote. -/
structure Identifier where
  /-- What is between the quotes, or the bare word. -/
  value : String
  /-- The opening quote, if there are quotes. -/
  quote : Option Char
  /-- Where the identifier stands. -/
  span : Span
deriving DecidableEq, BEq

namespace Identifier

/-- An identifier without quotes, of unknown origin. -/
def bare (value : String) : Identifier := ⟨value, none, .unknown⟩

/-- An identifier without quotes that stands at `span`. -/
def bareAt (span : Span) (value : String) : Identifier := ⟨value, none, span⟩

/-- **An identifier in given quotes**, of unknown origin; a character that
does not quote is rejected. -/
def quoted? (q : Char) (value : String) : Except Misuse Identifier :=
  if isQuote q then .ok ⟨value, some q, .unknown⟩ else .error .rejectedQuote

/-- **Whether the identifier can be written**: it is bare, or its quote
is one. -/
def isWritable (x : Identifier) : Bool := x.quote.all isQuote

/-- The value with every quote inside it doubled. -/
def doubled (q : Char) (cs : List Char) : List Char :=
  cs.flatMap fun c => if c = q then [q, c] else [c]

/-- **How an identifier is written.** Between self-closing quotes it goes
out a character at a time, and otherwise in one piece. Where the quote is
none, nothing is written. -/
def pieces (x : Identifier) : Pieces :=
  match x.quote with
  | none => [x.value]
  | some q =>
    if selfClosingQuotes.contains q then
      Pieces.ofChars (q :: doubled q x.value.toList ++ [q])
    else if q = '[' then ["[", x.value, "]"]
    else []

/-- **The text of an identifier**, if it can be written. -/
def text? (x : Identifier) : Except Misuse String :=
  if x.isWritable then .ok x.pieces.text else .error .unwritableQuote

/-- Identifiers are `==` exactly when value and quote are the same. -/
theorem beq_iff {x y : Identifier} :
    (x == y) = true ↔ x.value = y.value ∧ x.quote = y.quote := by
  obtain ⟨v, q, s⟩ := x
  obtain ⟨w, r, t⟩ := y
  show instBEqIdentifier.beq _ _ = true ↔ _
  simp [instBEqIdentifier.beq]

/-- A bare identifier can be written. -/
@[simp] theorem isWritable_bare (value : String) :
    (bare value).isWritable = true := rfl

/-- A bare identifier is written as its value. -/
@[simp] theorem pieces_bare (value : String) : (bare value).pieces = [value] := rfl

/-- A quote is accepted exactly when what it opens can be written. -/
theorem quoted?_eq_ok_iff {q : Char} {value : String} {x : Identifier} :
    quoted? q value = .ok x ↔ x.isWritable = true ∧ x = ⟨value, some q, .unknown⟩ := by
  by_cases h : isQuote q = true
  · simp only [quoted?, h, if_true, Except.ok.injEq]
    constructor
    · rintro rfl; simp [isWritable, h]
    · rintro ⟨-, rfl⟩; rfl
  · simp only [quoted?, h, if_false, reduceCtorEq, false_iff, not_and]
    rintro hx rfl
    simp [isWritable, h] at hx

end Identifier

end SqlTyping
