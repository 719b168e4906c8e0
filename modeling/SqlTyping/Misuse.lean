/-!
# Misuse

Some requests have no answer at all: writing an identifier whose quote
character no SQL text can open with, asking a scalar for its element type.
They are mistakes of the caller and not of the SQL, so they are kept apart
from rejections (`Rejection`). An operation that can be misused
returns an `Except Misuse`, and `Misuse.message` holds every wording.
-/

namespace SqlTyping

/-- **A request without an answer**, by its cause. -/
inductive Misuse where
  /-- An identifier with a character for a quote that does not quote. -/
  | unwritableQuote
  /-- A quote character was asked for that does not quote. -/
  | rejectedQuote
  /-- The element of a type that is no collection, with the type's text. -/
  | noElement (text : String)
  /-- A type built from a collection keyword that names no collection. -/
  | unknownCollection (keyword : String)
  /-- A definition by a built-in name that is no scalar type. -/
  | notScalar (name : String)
  /-- The only member of a list that has none or several. -/
  | notSingle
deriving DecidableEq

namespace Misuse

/-- **What is said of a misuse**, if anything is. -/
def message : Misuse → Option String
  | unwritableQuote => some "unexpected quote style"
  | rejectedQuote => none
  | noElement text =>
    some ("component_type_spec called on non-collection type " ++ text)
  | unknownCollection keyword =>
    some ("unexpected value: collection type name " ++ keyword)
  | notScalar name => some (name ++ " is not a scalar type")
  | notSingle => some "only called on collection without exactly one item"

end Misuse

/-- **The single member of a list.** -/
def single {α : Type} : List α → Except Misuse α
  | [a] => .ok a
  | _ => .error .notSingle

/-- A list has a single member exactly when it is that member alone. -/
theorem single_eq_ok_iff {α : Type} {as : List α} {a : α} :
    single as = .ok a ↔ as = [a] := by
  match as with
  | [] => simp [single]
  | [b] => simp [single]
  | b :: c :: rest => simp [single]

end SqlTyping
