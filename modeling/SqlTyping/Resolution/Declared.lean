import SqlTyping.Resolution.FromCatalog
import SqlTyping.Resolution.Inquiry

/-!
# Resolving declared types

A declared type is resolved in a scope in three steps.

1. Every collection keyword in it, at whatever depth, has to make a
   collection. The first that does not, outer ones before inner ones and
   left before right, is why the type is turned down.
2. If the catalog alone resolves it, that is the answer, and the scope is
   asked nothing. So no binding of a built-in name counts.
3. Otherwise the descriptor is resolved part by part, asking for each
   user-defined name where it stands, and the keyword's collection is made
   of the outcome.

In the last step the declared nullability goes to a row or a nested
collection, which has just been made. A user-defined type is left as it is
bound, and so is a collection that a keyword makes of one: that one does
not admit `NULL`.
-/

namespace SqlTyping

mutual

/-- The collection keywords within a descriptor, as
`DeclaredType.keywords` lists them. -/
def Descriptor.keywords : Descriptor → List (String × Span)
  | .builtIn _ _ _ => []
  | .collection e _ _ => e.keywords
  | .row fs _ => DeclaredField.keywords fs
  | .named _ _ => []

/-- **The collection keywords of a declared type**, each with the place of
the type it belongs to: its own, then those within its descriptor from
left to right. -/
def DeclaredType.keywords : DeclaredType → List (String × Span)
  | ⟨k, d, _, _, _, s⟩ => (k.map fun k => (k.value, s)).toList ++ d.keywords

/-- The collection keywords of the fields of a row. -/
def DeclaredField.keywords : List DeclaredField → List (String × Span)
  | [] => []
  | ⟨_, t⟩ :: fs => t.keywords ++ DeclaredField.keywords fs

end

/-- **The first keyword that makes no collection**, with the place of the
type it belongs to. -/
def DeclaredType.unknownKeyword? (t : DeclaredType) : Option (String × Span) :=
  t.keywords.find? fun k => (Collection.ofKeyword? k.1).isNone

/-- **What a declared type makes of the type its descriptor names**, once
that had to be asked for. -/
def DeclaredType.around (t : DeclaredType) (named : ResolvedType) : ResolvedType :=
  let collected :=
    match t.collection? with
    | some k => .collectionOf k named unboundedSize
    | none => named
  if t.descriptor.isComposite then
    collected.withNullable (t.nullability.resolve false)
  else collected

/-- The catalog's answer where it has one, and otherwise an inquiry. -/
def Inquiry.orElse (found : Except Shortfall ResolvedType)
    (otherwise : Inquiry ResolvedType) : Inquiry ResolvedType :=
  match found with
  | .ok t => pure t
  | .error .notOffered => otherwise
  | .error (.unknownKeyword k) => .misuse (.unknownCollection k)

mutual

/-- **Resolving a descriptor** that the catalog alone does not resolve. -/
def Descriptor.resolve (s : Scope) : Descriptor → Inquiry ResolvedType
  | .builtIn n f span => .reject span (.unknownType (n.text f))
  | .collection e k _ => do
    let element ← .orElse (e.inCatalog s.catalog) (e.resolve s)
    return .collectionOf k element unboundedSize
  | .row fs _ => do
    let fields ← DeclaredField.resolve s fs
    return .rowOf fields
  | .named n _ => .lookup s n

/-- **Resolving a declared type.** -/
def DeclaredType.resolve (s : Scope) : DeclaredType → Inquiry ResolvedType
  | ⟨k, d, b, z, n, span⟩ =>
    let t : DeclaredType := ⟨k, d, b, z, n, span⟩
    match t.unknownKeyword? with
    | some (keyword, place) => .reject place (.unknownDatatype keyword)
    | none => .orElse (t.inCatalog s.catalog false) do
      let named ← d.resolve s
      return t.around named

/-- Resolving the fields of a row from left to right. A field has the
nullability it declares, and is `NOT NULL` when it declares none. -/
def DeclaredField.resolve (s : Scope) :
    List DeclaredField → Inquiry (List ResolvedField)
  | [] => pure []
  | ⟨x, t⟩ :: fs => do
    let type ← t.resolve s
    let rest ← DeclaredField.resolve s fs
    return ⟨x.value, type.withNullable (t.nullability.resolve false)⟩ :: rest

end

end SqlTyping
