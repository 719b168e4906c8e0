import SqlTyping.BuiltIn
import SqlTyping.Name.Qualified
import SqlTyping.Nullability
import SqlTyping.TimeZone

/-!
# Declared types

A **declared type** is what stands in a column definition, a `CAST` or a
row field: `foo DECIMAL(5, 2) NOT NULL`, `CAST(x AS INTEGER ARRAY)`,
`ROW(i MYUDT NOT NULL)`. It is syntax, read but not yet looked up.

Its core is a **descriptor**, which names a type: a built-in name with its
facets, a collection of what another descriptor names, a row of declared
fields, or the name of a user-defined type. Around it stand a collection
keyword, a time zone and a nullability, none of which has to be there, and
a second descriptor, the base, which is the first one unless something
else is given.

## Two forms of collection

`INTEGER ARRAY` can be a declared type with the keyword `ARRAY` or one
whose descriptor is a collection. The keyword is text as it was read and
may be any word; the kind in a descriptor is `ARRAY` or `MULTISET`.

## Equality

`==` compares all but the spans, wherever they are in the tree. It is
finer than having no `difference?`, which looks past the base and the
outermost nullability too.
-/

namespace SqlTyping

mutual

/-- **What names a type.** -/
inductive Descriptor where
  /-- A built-in name with its facets: `DECIMAL(5, 2)`. -/
  | builtIn (name : BuiltIn) (facets : Facets) (span : Span)
  /-- A collection of what another descriptor names: `INTEGER ARRAY`. -/
  | collection (element : Descriptor) (kind : Collection) (span : Span)
  /-- A row of fields: `ROW(a INTEGER, b DATE NULL)`. -/
  | row (fields : List DeclaredField) (span : Span)
  /-- A user-defined type by its name. -/
  | named (name : QualifiedName) (span : Span)

/-- **A type as it is declared.** -/
structure DeclaredType where
  /-- The collection keyword behind the descriptor, as it was read. -/
  keyword : Option Identifier
  /-- What names the type, or the element type of a collection. -/
  descriptor : Descriptor
  /-- What names the type underneath. -/
  base : Descriptor
  /-- The time zone of a temporal type. -/
  timeZone : Option TimeZone
  /-- What is said about `NULL`. -/
  nullability : Nullability
  /-- Where the declaration stands. -/
  span : Span

/-- **A field of a declared row.** What it says about `NULL` is what its
type says. -/
structure DeclaredField where
  /-- The name of the field. -/
  name : Identifier
  /-- The declared type of the field. -/
  type : DeclaredType

end

namespace Descriptor

/-- A built-in name without facets, of unknown origin. -/
def ofBuiltIn (n : BuiltIn) : Descriptor := .builtIn n .none .unknown

/-- **A user-defined type by its name**, standing where the name does. -/
def ofName (n : QualifiedName) : Descriptor := .named n n.span

/-- Where the descriptor stands. -/
def span : Descriptor → Span
  | builtIn _ _ s => s
  | collection _ _ s => s
  | row _ s => s
  | named _ s => s

/-- **The name of the type**: the one it is spelled by, and for a
collection or row its keyword. -/
def typeName : Descriptor → QualifiedName
  | builtIn n _ s => .ofIdentifier (.bareAt s n.spelling)
  | collection _ k s => .ofIdentifier (.bareAt s k.keyword)
  | row _ s => .ofIdentifier (.bareAt s "ROW")
  | named n _ => n

/-- Whether the descriptor puts other types together: a collection or a
row. -/
def isComposite : Descriptor → Bool
  | builtIn .. => false
  | collection .. => true
  | row .. => true
  | named .. => false

end Descriptor

namespace DeclaredType

/-- **A declared type from all of its parts**, based on its own descriptor
when no base is given. -/
def of (keyword : Option Identifier) (descriptor : Descriptor)
    (base : Option Descriptor) (timeZone : Option TimeZone)
    (nullability : Nullability) (span : Span) : DeclaredType :=
  ⟨keyword, descriptor, base.getD descriptor, timeZone, nullability, span⟩

/-- **A descriptor in a time zone**, or in none, and nothing else. -/
def zoned (d : Descriptor) (z : Option TimeZone) (span : Span) : DeclaredType :=
  of none d none z .unspecified span

/-- A descriptor by itself. -/
def plain (d : Descriptor) (span : Span) : DeclaredType := zoned d none span

/-- **A descriptor under a collection keyword**, and nothing else. -/
def collectionOf (keyword : Identifier) (d : Descriptor) (span : Span) :
    DeclaredType :=
  of (some keyword) d none none .unspecified span

/-- A collection of a kind, of unknown origin. -/
def ofKind (k : Collection) (d : Descriptor) : DeclaredType :=
  collectionOf (.bare k.keyword) d .unknown

/-- A descriptor with a nullability, of unknown origin. -/
def ofNullability (d : Descriptor) (n : Nullability) : DeclaredType :=
  of none d none none n .unknown

/-- **A user-defined type by its name**, standing where the name does. -/
def ofName (n : QualifiedName) : DeclaredType := plain (.ofName n) n.span

/-- Whether there is a collection keyword. -/
def isCollection (t : DeclaredType) : Bool := t.keyword.isSome

/-- The name of the type, or of the element type of a collection. -/
def typeName (t : DeclaredType) : QualifiedName := t.descriptor.typeName

/-- The collection the keyword makes; `none` both without a keyword and
with one that makes none. -/
def collection? (t : DeclaredType) : Option Collection :=
  t.keyword.bind fun k => Collection.ofKeyword? k.value

end DeclaredType

/-- **Where a field stands**: around its name and its type. -/
def DeclaredField.span (f : DeclaredField) : Span := f.name.span.union f.type.span

/-! ## Equality -/

mutual

/-- Equality of descriptors apart from spans. -/
def Descriptor.same : Descriptor → Descriptor → Bool
  | .builtIn n f _, .builtIn n' f' _ => n == n' && f == f'
  | .collection e k _, .collection e' k' _ => e.same e' && k == k'
  | .row fs _, .row fs' _ => DeclaredField.sameAll fs fs'
  | .named n _, .named n' _ => n == n'
  | _, _ => false

/-- Equality of declared types apart from spans. -/
def DeclaredType.same : DeclaredType → DeclaredType → Bool
  | ⟨k, d, b, z, n, _⟩, ⟨k', d', b', z', n', _⟩ =>
    k == k' && d.same d' && b.same b' && z == z' && n == n'

/-- Equality of field lists apart from spans. -/
def DeclaredField.sameAll : List DeclaredField → List DeclaredField → Bool
  | [], [] => true
  | ⟨x, t⟩ :: fs, ⟨x', t'⟩ :: fs' => x == x' && t.same t' && DeclaredField.sameAll fs fs'
  | _, _ => false

end

instance : BEq Descriptor := ⟨Descriptor.same⟩

instance : BEq DeclaredType := ⟨DeclaredType.same⟩

end SqlTyping
