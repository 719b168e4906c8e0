import SqlTyping.Json.Leaf
import SqlTyping.Resolved.Basic

/-!
# The JSON of resolved types

A resolved type is an object of its shape and whether it admits `NULL`.
The two kinds of collection are alternatives of their own.
`ResolvedType.ofJson?_toJson` says that what was written reads back.
-/

namespace SqlTyping

mutual

/-- **A resolved type as JSON.** -/
def ResolvedType.toJson : ResolvedType → Json
  | ⟨s, b⟩ => .object [("kind", s.toJson), ("nullable", .bool b)]

/-- A shape as JSON. -/
def Shape.toJson : Shape → Json
  | .scalar n f => .variant "Basic" (.object
      (("type_name", n.toJson) :: f.jsonMembers))
  | .collection k e m => .variant k.jsonName (.object
      [("element", e.toJson), ("max_cardinality", .ofInt64 m)])
  | .row fs => .variant "Struct" (.object
      [("fields", .array (ResolvedField.toJsons fs))])
  | .userDefined n t => .variant "UserDefined" (.object
      [("name", n.toJson), ("definition", t.toJson)])

/-- The fields of a row as JSON. -/
def ResolvedField.toJsons : List ResolvedField → List Json
  | [] => []
  | ⟨x, t⟩ :: fs =>
    .object [("name", .string x), ("data_type", t.toJson)]
      :: ResolvedField.toJsons fs

end

mutual

/-- **Reading a resolved type.** -/
def ResolvedType.ofJson? (j : Json) : Option ResolvedType := do
  let shape ← j.descend? "kind" fun v _ => Shape.ofJson? v
  let nullable ← j.field? "nullable" Json.bool?
  return ⟨shape, nullable⟩
termination_by sizeOf j

/-- Reading a shape. -/
def Shape.ofJson? : Json → Option Shape
  | .object [("Basic", j)] => do
    let name ← j.field? "type_name" BuiltIn.ofJson?
    let facets ← Facets.ofJson? j
    return .scalar name facets
  | .object [("Array", j)] => do
    let element ← j.descend? "element" fun v _ => ResolvedType.ofJson? v
    let maxSize ← j.field? "max_cardinality" Json.int64?
    return .collection .array element maxSize
  | .object [("Multiset", j)] => do
    let element ← j.descend? "element" fun v _ => ResolvedType.ofJson? v
    let maxSize ← j.field? "max_cardinality" Json.int64?
    return .collection .multiset element maxSize
  | .object [("Struct", j)] => do
    let fields ← j.descend? "fields" fun v _ => ResolvedField.listOfJson? v
    return .row fields
  | .object [("UserDefined", j)] => do
    let name ← j.field? "name" QualifiedName.ofJson?
    let definition ← j.descend? "definition" fun v _ => ResolvedType.ofJson? v
    return .userDefined name definition
  | _ => none
termination_by j => sizeOf j
decreasing_by
  all_goals
    simp only [Json.object.sizeOf_spec, List.cons.sizeOf_spec, Prod.mk.sizeOf_spec]
    omega

/-- Reading the fields of a row. -/
def ResolvedField.listOfJson? : Json → Option (List ResolvedField)
  | .array items => ResolvedField.ofJsons? items
  | _ => none
termination_by j => sizeOf j

/-- Reading the fields of a row, one after the other. -/
def ResolvedField.ofJsons? : List Json → Option (List ResolvedField)
  | [] => some []
  | j :: js => do
    let name ← j.field? "name" Json.string?
    let type ← j.descend? "data_type" fun v _ => ResolvedType.ofJson? v
    let rest ← ResolvedField.ofJsons? js
    return ⟨name, type⟩ :: rest
termination_by js => sizeOf js
decreasing_by
  · simp only [List.cons.sizeOf_spec]
    omega
  · simp only [List.cons.sizeOf_spec]
    omega

end

/-! ## Reading back -/

mutual

/-- **A resolved type reads back.** -/
theorem ResolvedType.ofJson?_toJson :
    ∀ t : ResolvedType, ResolvedType.ofJson? t.toJson = some t
  | ⟨s, b⟩ => by
    have hs := s.ofJson?_toJson
    rw [ResolvedType.toJson, ResolvedType.ofJson?]
    simp [hs, Json.bool?]

/-- A shape reads back. -/
theorem Shape.ofJson?_toJson : ∀ s : Shape, Shape.ofJson? s.toJson = some s
  | .scalar n f => by
    have hf := f.ofJson?_jsonMembers n []
    rw [List.append_nil] at hf
    rw [Shape.toJson, Json.variant, Shape.ofJson?, hf]
    simp
  | .collection .array e m => by
    have he := e.ofJson?_toJson
    rw [Shape.toJson, Json.variant, Collection.jsonName, Shape.ofJson?]
    simp [he]
  | .collection .multiset e m => by
    have he := e.ofJson?_toJson
    rw [Shape.toJson, Json.variant, Collection.jsonName, Shape.ofJson?]
    simp [he]
  | .row fs => by
    have hfs := ResolvedField.ofJsons?_toJsons fs
    rw [Shape.toJson, Json.variant, Shape.ofJson?]
    simp [ResolvedField.listOfJson?, hfs]
  | .userDefined n t => by
    have ht := t.ofJson?_toJson
    rw [Shape.toJson, Json.variant, Shape.ofJson?]
    simp [ht]

/-- The fields of a row read back. -/
theorem ResolvedField.ofJsons?_toJsons : ∀ fs : List ResolvedField,
    ResolvedField.ofJsons? (ResolvedField.toJsons fs) = some fs
  | [] => by rw [ResolvedField.toJsons, ResolvedField.ofJsons?]
  | ⟨x, t⟩ :: fs => by
    have ht := t.ofJson?_toJson
    have hfs := ResolvedField.ofJsons?_toJsons fs
    rw [ResolvedField.toJsons, ResolvedField.ofJsons?]
    simp [Json.string?, ht, hfs]

end

end SqlTyping
