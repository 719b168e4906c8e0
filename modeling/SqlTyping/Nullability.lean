/-!
# Nullability

A declared type may say `NULL`, `NOT NULL` or nothing. Nothing is a value
of its own and not a default: what a context supplies is known only when
the type is resolved, as a `CAST` keeps the nullability of its operand.
-/

namespace SqlTyping

/-- **What a declaration says about `NULL`.** -/
inductive Nullability where
  /-- `NULL` is admitted. -/
  | nullable
  /-- `NULL` is excluded. -/
  | notNull
  /-- It is left to the context. -/
  | unspecified
deriving DecidableEq

namespace Nullability

/-- The nullability that admits `NULL` or not. -/
def ofBool : Bool → Nullability
  | true => nullable
  | false => notNull

/-- The nullability that says what is given, if anything. -/
def ofOption : Option Bool → Nullability
  | some b => ofBool b
  | none => unspecified

/-- Whether `NULL` is admitted, if that is said. -/
def toOption : Nullability → Option Bool
  | nullable => some true
  | notNull => some false
  | unspecified => none

/-- **Whether `NULL` is admitted**, with what the context says where the
declaration says nothing. -/
def resolve (n : Nullability) (context : Bool) : Bool := n.toOption.getD context

/-- How a nullability is named. -/
def text : Nullability → String
  | nullable => "NULL"
  | notNull => "NOT NULL"
  | unspecified => "unspecified"

/-- What a nullability says is what it was made to say. -/
@[simp] theorem toOption_ofOption (b : Option Bool) :
    (ofOption b).toOption = b := by
  rcases b with _ | _ | _ <;> rfl

/-- A nullability is made from what it says. -/
@[simp] theorem ofOption_toOption (n : Nullability) :
    ofOption n.toOption = n := by
  cases n <;> rfl

end Nullability

end SqlTyping
