import SqlTyping.Catalog
import SqlTyping.Declared.Basic

/-!
# Types made of built-in types

A declared type that names no user-defined type can be resolved from a
catalog alone. The parts are built in the order they are written, a
descriptor before the collection keyword around it, and the first part
that cannot be built decides how the whole falls short.

Every type this makes says `NOT NULL` at first; a declared type then gets
the nullability it declares, or what its context supplies. An element of a
collection has no declaration and stays `NOT NULL`, and the context of a
field supplies `NOT NULL` too.
-/

namespace SqlTyping

/-- **Why a catalog alone does not resolve a type.** -/
inductive Shortfall where
  /-- A name the catalog does not offer, or not with these facets, or the
  name of a user-defined type. -/
  | notOffered
  /-- A collection keyword that makes no collection. -/
  | unknownKeyword (keyword : String)
deriving DecidableEq

/-- **The collection a keyword makes** of a type, of any size; without a
keyword the type itself. -/
def collectBy (keyword : Option Identifier) (t : ResolvedType) :
    Except Shortfall ResolvedType :=
  match keyword with
  | none => .ok t
  | some k =>
    match Collection.ofKeyword? k.value with
    | some kind => .ok (.collectionOf kind t unboundedSize)
    | none => .error (.unknownKeyword k.value)

mutual

/-- **The built-in type a descriptor names.** -/
def Descriptor.inCatalog (c : Catalog) :
    Descriptor → Except Shortfall ResolvedType
  | .builtIn n f _ =>
    match c.scalar? n f with
    | some t => .ok t
    | none => .error .notOffered
  | .collection e k _ => do
    let element ← e.inCatalog c
    return .collectionOf k element unboundedSize
  | .row fs _ => do
    let fields ← DeclaredField.inCatalog c fs
    return .rowOf fields
  | .named _ _ => .error .notOffered

/-- **The built-in type that is declared**, where the context says whether
`NULL` is admitted if the declaration does not. -/
def DeclaredType.inCatalog (c : Catalog) (context : Bool) :
    DeclaredType → Except Shortfall ResolvedType
  | ⟨k, d, _, _, n, _⟩ => do
    let named ← d.inCatalog c
    let collected ← collectBy k named
    return collected.withNullable (n.resolve context)

/-- The fields of a row, all of built-in types. -/
def DeclaredField.inCatalog (c : Catalog) :
    List DeclaredField → Except Shortfall (List ResolvedField)
  | [] => .ok []
  | ⟨x, t⟩ :: fs => do
    let type ← t.inCatalog c false
    let rest ← DeclaredField.inCatalog c fs
    return ⟨x.value, type⟩ :: rest

end

/-- **What a catalog gives**, where a type that is merely not on offer is
`none`. A keyword that makes no collection is not something to ask for. -/
def Shortfall.tolerate (found : Except Shortfall ResolvedType) :
    Except Misuse (Option ResolvedType) :=
  match found with
  | .ok t => .ok (some t)
  | .error notOffered => .ok none
  | .error (unknownKeyword k) => .error (.unknownCollection k)

/-- **The built-in type that is declared**, or `none` when it is not on
offer. -/
def DeclaredType.inCatalog? (c : Catalog) (context : Bool) (t : DeclaredType) :
    Except Misuse (Option ResolvedType) :=
  Shortfall.tolerate (t.inCatalog c context)

/-- **The built-in type a descriptor names**, or `none` when it is not on
offer. -/
def Descriptor.inCatalog? (c : Catalog) (d : Descriptor) :
    Except Misuse (Option ResolvedType) :=
  Shortfall.tolerate (d.inCatalog c)

end SqlTyping
