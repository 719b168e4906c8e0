import SqlTyping.Declared.Text

/-!
# The first difference between declared types

Two declared types are **structurally equal** when they declare the same
type: spans, bases and the nullability of the whole do not count, nor do
the quotes of field names; everything else does, at every depth. Where
they are not, the interest is in where they part, so the comparison does
not stop at a yes or no: `difference?` gives the first **difference** in a
fixed order, as the two **findings** that were made at the same place.

The order is time zone, collection keyword, descriptor; within a
descriptor its name before its facets, an element before the kind of
collection, and for a row the number of fields, then field by field the
name, the type and the nullability.

## Reports

A `Mismatch` is a difference in words: what kind of thing differs, and
both findings as text. Text that cannot be written is misuse, so a report
can fail where the comparison itself does not.
-/

namespace SqlTyping

/-- **What was found to differ.** -/
inductive Aspect where
  /-- The time zones. -/
  | timeZone
  /-- The collection keywords, or whether there is one. -/
  | keyword
  /-- The names of built-in or user-defined types, or kinds of
  collection. -/
  | typeName
  /-- The precisions. -/
  | precision
  /-- The scales. -/
  | scale
  /-- How many fields two rows have. -/
  | fieldCount
  /-- The names of two fields. -/
  | fieldName
  /-- What two fields say about `NULL`. -/
  | nullability
  /-- The shapes of two descriptors, as of a row and a built-in name. -/
  | descriptor
deriving DecidableEq

namespace Aspect

/-- How an aspect is called in a report. -/
def text : Aspect → String
  | timeZone => "time zone"
  | keyword => "collection type name"
  | typeName => "type name"
  | precision => "precision"
  | scale => "scale"
  | fieldCount => "field count"
  | fieldName => "field name"
  | nullability => "nullability"
  | descriptor => "type name descriptor"

/-- Whether the aspect is read as one of the descriptor, and not of the
time zone or the keyword around it. -/
def isOfDescriptor : Aspect → Bool
  | timeZone | keyword => false
  | _ => true

end Aspect

/-- **What one look at a declared type finds.** -/
inductive Finding where
  /-- Its time zone. -/
  | timeZone (z : Option TimeZone)
  /-- Its collection keyword. -/
  | keyword (k : Option Identifier)
  /-- A built-in name. -/
  | builtIn (n : BuiltIn)
  /-- A kind of collection. -/
  | kind (k : Collection)
  /-- The name of a user-defined type. -/
  | userDefined (n : QualifiedName)
  /-- A precision. -/
  | precision (p : Option UInt64)
  /-- A scale. -/
  | scale (s : Option UInt64)
  /-- The number of fields of a row. -/
  | fieldCount (n : Nat)
  /-- The name of a field, without its quotes. -/
  | fieldName (name : String)
  /-- What a field says about `NULL`. -/
  | nullability (n : Nullability)
  /-- A descriptor, for its shape. -/
  | descriptor (d : Descriptor)

namespace Finding

/-- What kind of thing was found. -/
def aspect : Finding → Aspect
  | timeZone _ => .timeZone
  | keyword _ => .keyword
  | builtIn _ => .typeName
  | kind _ => .typeName
  | userDefined _ => .typeName
  | precision _ => .precision
  | scale _ => .scale
  | fieldCount _ => .fieldCount
  | fieldName _ => .fieldName
  | nullability _ => .nullability
  | descriptor _ => .descriptor

/-- The text of what may be absent. -/
def optionText {α : Type} (text : α → String) : Option α → String
  | some a => text a
  | none => "<none>"

/-- **The text of a finding**, if it can be written. -/
def text? : Finding → Except Misuse String
  | timeZone z => .ok (optionText TimeZone.id z)
  | keyword (some k) => k.text?
  | keyword none => .ok "<none>"
  | builtIn n => .ok n.spelling
  | kind k => .ok k.keyword
  | userDefined n => n.text?
  | precision p => .ok (optionText (fun p => Nat.repr p.toNat) p)
  | scale s => .ok (optionText (fun s => Nat.repr s.toNat) s)
  | fieldCount n => .ok (Nat.repr n)
  | fieldName name => .ok name
  | nullability n => .ok n.text
  | descriptor d => d.text? .compact

end Finding

/-- **Two findings that differ**, made by the same look at two types. -/
structure Difference where
  /-- What the first type has. -/
  expected : Finding
  /-- What the second type has. -/
  actual : Finding

/-- The difference that one look at two types shows. -/
def differ {α : Type} [BEq α] (look : α → Finding) (a b : α) : Option Difference :=
  if a == b then none else some ⟨look a, look b⟩

mutual

/-- **The first difference between two descriptors.** -/
def Descriptor.difference? : Descriptor → Descriptor → Option Difference
  | .builtIn n f _, .builtIn n' f' _ =>
    (differ .builtIn n n').or
      ((differ .precision f.precision f'.precision).or
        (differ .scale f.scale f'.scale))
  | .collection e k _, .collection e' k' _ =>
    (e.difference? e').or (differ .kind k k')
  | .row fs _, .row fs' _ =>
    (differ .fieldCount fs.length fs'.length).or
      (DeclaredField.difference? fs fs')
  | .named n _, .named n' _ => differ .userDefined n n'
  | d, d' => some ⟨.descriptor d, .descriptor d'⟩

/-- **The first difference between two declared types.** -/
def DeclaredType.difference? : DeclaredType → DeclaredType → Option Difference
  | ⟨k, d, _, z, _, _⟩, ⟨k', d', _, z', _, _⟩ =>
    (differ .timeZone z z').or ((differ .keyword k k').or (d.difference? d'))

/-- The first difference between the fields of two rows, as far as both
have fields. -/
def DeclaredField.difference? :
    List DeclaredField → List DeclaredField → Option Difference
  | ⟨x, t⟩ :: fs, ⟨x', t'⟩ :: fs' =>
    (differ .fieldName x.value x'.value).or
      ((t.difference? t').or
        ((differ .nullability t.nullability t'.nullability).or
          (DeclaredField.difference? fs fs')))
  | _, _ => none

end

/-- **A difference in words.** -/
structure Mismatch where
  /-- What differs. -/
  aspect : Aspect
  /-- How the first type has it. -/
  expected : String
  /-- How the second type has it. -/
  actual : String
deriving DecidableEq

/-- How a mismatch is reported. -/
def Mismatch.message (m : Mismatch) : String :=
  m.aspect.text ++ " mismatch: " ++ m.expected ++ " != " ++ m.actual

/-- **The report of a difference**, if both findings can be written. -/
def Difference.mismatch? (d : Difference) : Except Misuse Mismatch := do
  let expected ← d.expected.text?
  let actual ← d.actual.text?
  return ⟨d.expected.aspect, expected, actual⟩

/-- The report of what may be a difference. -/
def reportOf? : Option Difference → Except Misuse (Option Mismatch)
  | none => .ok none
  | some d => some <$> d.mismatch?

/-- **The report of the first difference between two descriptors**, `none`
when there is none. -/
def Descriptor.mismatch? (d d' : Descriptor) : Except Misuse (Option Mismatch) :=
  reportOf? (d.difference? d')

/-- **The report of the first difference between two declared types**,
`none` when there is none. -/
def DeclaredType.mismatch? (t t' : DeclaredType) :
    Except Misuse (Option Mismatch) :=
  reportOf? (t.difference? t')

/-- A look shows no difference exactly when it finds the same. -/
theorem differ_eq_none_iff {α : Type} [BEq α] {look : α → Finding} {a b : α} :
    differ look a b = none ↔ (a == b) = true := by
  by_cases h : (a == b) = true <;> simp [differ, h]

end SqlTyping
