import SqlTyping.Misuse
import SqlTyping.Source.Span

/-!
# Rejections

Looking up a declared type fails for one of two **causes**: a collection
keyword that makes no collection, or a type that nobody knows. A
**rejection** is a cause and the place of the fault. It is kept apart from
`Misuse`, which is no fault of the SQL; a `Failure` is either.
-/

namespace SqlTyping

/-- **Why a declared type is rejected.** -/
inductive Cause where
  /-- A collection keyword that makes no collection. -/
  | unknownDatatype (name : String)
  /-- A type that is neither built in nor known to the scope. -/
  | unknownType (name : String)
deriving DecidableEq

namespace Cause

/-- A stable key for the cause, by which its wording in another language is
found. -/
def key : Cause → String
  | unknownDatatype _ => "unknownDatatypeName"
  | unknownType _ => "unknownType"

/-- The text at fault. -/
def name : Cause → String
  | unknownDatatype s => s
  | unknownType s => s

/-- **The cause in words.** -/
def text : Cause → String
  | unknownDatatype s => "Unknown datatype name '" ++ s ++ "'"
  | unknownType s => "Unknown type '" ++ s ++ "'"

end Cause

/-- **A declared type turned down**, with the place of the fault. -/
structure Rejection where
  /-- Where the fault is. -/
  span : Span
  /-- What the fault is. -/
  cause : Cause
deriving DecidableEq

/-- **What is said of a rejection**: the cause, and where the fault starts
if that is known. -/
def Rejection.message (r : Rejection) : String := r.cause.text ++ r.span.start.suffix

/-- **Why there is no resolved type.** -/
inductive Failure where
  /-- The declared type was turned down. -/
  | rejected (r : Rejection)
  /-- The question should not have been asked. -/
  | misused (m : Misuse)
deriving DecidableEq

end SqlTyping
