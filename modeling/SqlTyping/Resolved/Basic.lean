import SqlTyping.BuiltIn
import SqlTyping.Name.Qualified

/-!
# Resolved types

A **resolved type** is what a declared type stands for once its names have
been looked up: every user-defined name carries its definition, every
facet has its value and every type says whether it admits `NULL`. What it
is apart from that last point is its **shape**.

A resolved type keeps no text of its declaration but for the names of
user-defined types, and `==` looks past where those stand.
-/

namespace SqlTyping

mutual

/-- **A type with everything looked up.** -/
structure ResolvedType where
  /-- What the type is. -/
  shape : Shape
  /-- Whether it admits `NULL`. -/
  nullable : Bool

/-- **What a resolved type is.** -/
inductive Shape where
  /-- A built-in scalar type. -/
  | scalar (name : BuiltIn) (facets : Facets)
  /-- A collection of at most so many elements. -/
  | collection (kind : Collection) (element : ResolvedType) (maxSize : Int64)
  /-- A row of fields. -/
  | row (fields : List ResolvedField)
  /-- A user-defined type: a distinct type over a scalar, or a structured
  type over a row. -/
  | userDefined (name : QualifiedName) (definition : ResolvedType)

/-- **A field of a resolved row.** -/
structure ResolvedField where
  /-- The name of the field. -/
  name : String
  /-- The type of the field. -/
  type : ResolvedType

end

/-- The size that stands for a collection of any size. -/
def unboundedSize : Int64 := -1

namespace ResolvedType

/-- **The type that admits `NULL` or does not**, as given. -/
def withNullable (t : ResolvedType) (nullable : Bool) : ResolvedType :=
  ⟨t.shape, nullable⟩

/-- **A collection** that does not admit `NULL`. -/
def collectionOf (k : Collection) (element : ResolvedType) (maxSize : Int64) :
    ResolvedType :=
  ⟨.collection k element maxSize, false⟩

/-- **A row** that does not admit `NULL`. -/
def rowOf (fields : List ResolvedField) : ResolvedType := ⟨.row fields, false⟩

/-- **A user-defined type** that does not admit `NULL`. -/
def defined (name : QualifiedName) (definition : ResolvedType) : ResolvedType :=
  ⟨.userDefined name definition, false⟩

/-- **The built-in name closest to the type**; a user-defined type has that
of its definition. -/
def builtIn : ResolvedType → BuiltIn
  | ⟨.scalar n _, _⟩ => n
  | ⟨.collection k _ _, _⟩ => k.builtIn
  | ⟨.row _, _⟩ => .row
  | ⟨.userDefined _ definition, _⟩ => definition.builtIn

/-- **The fields of a row**, or of the row a user-defined type is defined
as. -/
def fields : ResolvedType → List ResolvedField
  | ⟨.row fs, _⟩ => fs
  | ⟨.userDefined _ definition, _⟩ => definition.fields
  | _ => []

/-- The element type of a collection. -/
def element? : ResolvedType → Option ResolvedType
  | ⟨.collection _ e _, _⟩ => some e
  | _ => none

/-- How many elements a collection may have. -/
def maxSize? : ResolvedType → Option Int64
  | ⟨.collection _ _ m, _⟩ => some m
  | _ => none

/-- The facets of a built-in scalar type, and none of any other. -/
def facets : ResolvedType → Facets
  | ⟨.scalar _ f, _⟩ => f
  | _ => .none

end ResolvedType

mutual

/-- Equality of resolved types apart from spans. -/
def ResolvedType.same : ResolvedType → ResolvedType → Bool
  | ⟨.scalar n f, b⟩, ⟨.scalar n' f', b'⟩ => n == n' && f == f' && b == b'
  | ⟨.collection k e m, b⟩, ⟨.collection k' e' m', b'⟩ =>
    k == k' && e.same e' && m == m' && b == b'
  | ⟨.row fs, b⟩, ⟨.row fs', b'⟩ => ResolvedField.sameAll fs fs' && b == b'
  | ⟨.userDefined n t, b⟩, ⟨.userDefined n' t', b'⟩ =>
    n == n' && t.same t' && b == b'
  | _, _ => false

/-- Equality of field lists apart from spans. -/
def ResolvedField.sameAll : List ResolvedField → List ResolvedField → Bool
  | [], [] => true
  | ⟨x, t⟩ :: fs, ⟨x', t'⟩ :: fs' =>
    x == x' && t.same t' && ResolvedField.sameAll fs fs'
  | _, _ => false

end

instance : BEq ResolvedType := ⟨ResolvedType.same⟩

namespace ResolvedType

/-- The nullability last given is the one that holds. -/
@[simp] theorem withNullable_withNullable (t : ResolvedType) (b c : Bool) :
    (t.withNullable b).withNullable c = t.withNullable c := rfl

/-- A type made to admit `NULL` does so. -/
@[simp] theorem nullable_withNullable (t : ResolvedType) (b : Bool) :
    (t.withNullable b).nullable = b := rfl

/-- Nullability leaves the shape alone. -/
@[simp] theorem shape_withNullable (t : ResolvedType) (b : Bool) :
    (t.withNullable b).shape = t.shape := rfl

/-- A type is its shape and its nullability. -/
@[simp] theorem withNullable_self (t : ResolvedType) :
    t.withNullable t.nullable = t := by
  obtain ⟨s, b⟩ := t
  rfl

end ResolvedType

end SqlTyping
