import SqlTyping.Declared.Change
import SqlTyping.Json.Leaf

/-!
# The JSON of declared types

A descriptor is one of four alternatives, by name, and a declared type is
an object of its six parts. A draft is written as a declared type is, with
`null` for a base that is still open.

`DeclaredType.ofJson?_toJson` and its companions say that what was written
reads back as it was, spans and bases included.
-/

namespace SqlTyping

mutual

/-- **A descriptor as JSON.** -/
def Descriptor.toJson : Descriptor → Json
  | .builtIn n f s => .variant "Basic" (.object
      (("type_name", n.toJson) :: f.jsonMembers ++ [("span", s.toJson)]))
  | .collection e k s => .variant "Collection" (.object
      [("element", e.toJson), ("kind", k.toJson), ("span", s.toJson)])
  | .row fs s => .variant "Row" (.object
      [("fields", .array (DeclaredField.toJsons fs)), ("span", s.toJson)])
  | .named n s => .variant "UserDefined" (.object
      [("name", n.toJson), ("span", s.toJson)])

/-- **A declared type as JSON.** -/
def DeclaredType.toJson : DeclaredType → Json
  | ⟨k, d, b, z, n, s⟩ => .object
      [("collection_type_name", .ofOption Identifier.toJson k),
       ("type_name_spec", d.toJson), ("base_type_name_spec", b.toJson),
       ("time_zone", .ofOption TimeZone.toJson z), ("nullable", n.toJson),
       ("span", s.toJson)]

/-- The fields of a row as JSON. -/
def DeclaredField.toJsons : List DeclaredField → List Json
  | [] => []
  | ⟨x, t⟩ :: fs =>
    .object [("name", x.toJson), ("data_type", t.toJson)]
      :: DeclaredField.toJsons fs

end

mutual

/-- **Reading a descriptor.** -/
def Descriptor.ofJson? : Json → Option Descriptor
  | .object [("Basic", j)] => do
    let name ← j.field? "type_name" BuiltIn.ofJson?
    let facets ← Facets.ofJson? j
    let span ← j.field? "span" Span.ofJson?
    return .builtIn name facets span
  | .object [("Collection", j)] => do
    let element ← j.descend? "element" fun v _ => Descriptor.ofJson? v
    let kind ← j.field? "kind" Collection.ofJson?
    let span ← j.field? "span" Span.ofJson?
    return .collection element kind span
  | .object [("Row", j)] => do
    let fields ← j.descend? "fields" fun v _ => DeclaredField.listOfJson? v
    let span ← j.field? "span" Span.ofJson?
    return .row fields span
  | .object [("UserDefined", j)] => do
    let name ← j.field? "name" QualifiedName.ofJson?
    let span ← j.field? "span" Span.ofJson?
    return .named name span
  | _ => none
termination_by j => sizeOf j
decreasing_by
  all_goals
    simp only [Json.object.sizeOf_spec, List.cons.sizeOf_spec, Prod.mk.sizeOf_spec]
    omega

/-- **Reading a declared type.** -/
def DeclaredType.ofJson? (j : Json) : Option DeclaredType := do
  let keyword ← j.optionalField? "collection_type_name" Identifier.ofJson?
  let descriptor ← j.descend? "type_name_spec" fun v _ => Descriptor.ofJson? v
  let base ← j.descend? "base_type_name_spec" fun v _ => Descriptor.ofJson? v
  let timeZone ← j.optionalField? "time_zone" TimeZone.ofJson?
  let nullability ← j.field? "nullable" Nullability.ofJson?
  let span ← j.field? "span" Span.ofJson?
  return ⟨keyword, descriptor, base, timeZone, nullability, span⟩
termination_by sizeOf j

/-- Reading the fields of a row. -/
def DeclaredField.listOfJson? : Json → Option (List DeclaredField)
  | .array items => DeclaredField.ofJsons? items
  | _ => none
termination_by j => sizeOf j

/-- Reading the fields of a row, one after the other. -/
def DeclaredField.ofJsons? : List Json → Option (List DeclaredField)
  | [] => some []
  | j :: js => do
    let name ← j.field? "name" Identifier.ofJson?
    let type ← j.descend? "data_type" fun v _ => DeclaredType.ofJson? v
    let rest ← DeclaredField.ofJsons? js
    return ⟨name, type⟩ :: rest
termination_by js => sizeOf js
decreasing_by
  · simp only [List.cons.sizeOf_spec]
    omega
  · simp only [List.cons.sizeOf_spec]
    omega

end

/-- A draft as JSON. -/
def Draft.toJson (t : Draft) : Json := .object
  [("collection_type_name", .ofOption Identifier.toJson t.keyword),
   ("type_name_spec", t.descriptor.toJson),
   ("base_type_name_spec", .ofOption Descriptor.toJson t.base),
   ("time_zone", .ofOption TimeZone.toJson t.timeZone),
   ("nullable", t.nullability.toJson), ("span", t.span.toJson)]

/-- Reading a draft. -/
def Draft.ofJson? (j : Json) : Option Draft := do
  let keyword ← j.optionalField? "collection_type_name" Identifier.ofJson?
  let descriptor ← j.field? "type_name_spec" Descriptor.ofJson?
  let base ← j.optionalField? "base_type_name_spec" Descriptor.ofJson?
  let timeZone ← j.optionalField? "time_zone" TimeZone.ofJson?
  let nullability ← j.field? "nullable" Nullability.ofJson?
  let span ← j.field? "span" Span.ofJson?
  return ⟨keyword, descriptor, base, timeZone, nullability, span⟩

/-! ## Reading back -/

/-- A collection keyword, or its absence, reads back. -/
theorem Json.optional?_keyword (k : Option Identifier) :
    optional? Identifier.ofJson? (some (.ofOption Identifier.toJson k)) = some k :=
  optional?_ofOption (by simp) (by simp [Identifier.toJson]) k

/-- A time zone, or its absence, reads back. -/
theorem Json.optional?_timeZone (z : Option TimeZone) :
    optional? TimeZone.ofJson? (some (.ofOption TimeZone.toJson z)) = some z :=
  optional?_ofOption (by simp) (by simp [TimeZone.toJson]) z

mutual

/-- **A descriptor reads back.** -/
theorem Descriptor.ofJson?_toJson :
    ∀ d : Descriptor, Descriptor.ofJson? d.toJson = some d
  | .builtIn n f s => by
    have hf := f.ofJson?_jsonMembers n [("span", s.toJson)]
    rw [Descriptor.toJson, Json.variant, Descriptor.ofJson?, hf]
    simp [Facets.jsonMembers]
  | .collection e k s => by
    have he := e.ofJson?_toJson
    rw [Descriptor.toJson, Json.variant, Descriptor.ofJson?]
    simp [he]
  | .row fs s => by
    have hfs := DeclaredField.ofJsons?_toJsons fs
    rw [Descriptor.toJson, Json.variant, Descriptor.ofJson?]
    simp [DeclaredField.listOfJson?, hfs]
  | .named n s => by
    rw [Descriptor.toJson, Json.variant, Descriptor.ofJson?]
    simp

/-- **A declared type reads back.** -/
theorem DeclaredType.ofJson?_toJson :
    ∀ t : DeclaredType, DeclaredType.ofJson? t.toJson = some t
  | ⟨k, d, b, z, n, s⟩ => by
    have hd := d.ofJson?_toJson
    have hb := b.ofJson?_toJson
    rw [DeclaredType.toJson, DeclaredType.ofJson?]
    simp [hd, hb, Json.optional?_keyword, Json.optional?_timeZone]

/-- The fields of a row read back. -/
theorem DeclaredField.ofJsons?_toJsons : ∀ fs : List DeclaredField,
    DeclaredField.ofJsons? (DeclaredField.toJsons fs) = some fs
  | [] => by rw [DeclaredField.toJsons, DeclaredField.ofJsons?]
  | ⟨x, t⟩ :: fs => by
    have ht := t.ofJson?_toJson
    have hfs := DeclaredField.ofJsons?_toJsons fs
    rw [DeclaredField.toJsons, DeclaredField.ofJsons?]
    simp [ht, hfs]

end

/-- A descriptor is never written as `null`. -/
theorem Descriptor.toJson_ne_null (d : Descriptor) : d.toJson ≠ .null := by
  cases d <;> simp [Descriptor.toJson, Json.variant]

/-- **A draft reads back.** -/
theorem Draft.ofJson?_toJson (t : Draft) : Draft.ofJson? t.toJson = some t := by
  have hb : Json.optional? Descriptor.ofJson?
      (some (.ofOption Descriptor.toJson t.base)) = some t.base :=
    Json.optional?_ofOption Descriptor.ofJson?_toJson Descriptor.toJson_ne_null _
  simp [toJson, ofJson?, Descriptor.ofJson?_toJson, hb, Json.optional?_keyword,
    Json.optional?_timeZone]

end SqlTyping
