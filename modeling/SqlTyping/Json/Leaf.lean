import SqlTyping.Json.Value
import SqlTyping.BuiltIn
import SqlTyping.Name.Qualified
import SqlTyping.Nullability
import SqlTyping.TimeZone

/-!
# The JSON of what types are made of

Positions, spans, names and the words of the type language. Records are
objects with a member for each field; a word is the string of its name in
the format, which is not how SQL spells it. A time zone is its identifier,
a qualified name the list of its parts, and a quote the string of the one
character.

Each `ofJson?_toJson` says that what was written reads back, spans and
quotes included.
-/

namespace SqlTyping

/-- A position as JSON. -/
def Position.toJson (p : Position) : Json :=
  .object [("line", .ofUInt64 p.line), ("column", .ofUInt64 p.column)]

/-- Reading a position. -/
def Position.ofJson? (j : Json) : Option Position := do
  let line ← j.field? "line" Json.uInt64?
  let column ← j.field? "column" Json.uInt64?
  return ⟨line, column⟩

/-- A span as JSON. -/
def Span.toJson (s : Span) : Json :=
  .object [("start", s.start.toJson), ("end", s.stop.toJson)]

/-- Reading a span. -/
def Span.ofJson? (j : Json) : Option Span := do
  let start ← j.field? "start" Position.ofJson?
  let stop ← j.field? "end" Position.ofJson?
  return ⟨start, stop⟩

/-- An identifier as JSON. -/
def Identifier.toJson (x : Identifier) : Json :=
  .object [("value", .string x.value),
    ("quote_style", .ofOption (fun q => .string (.singleton q)) x.quote),
    ("span", x.span.toJson)]

/-- Reading an identifier. -/
def Identifier.ofJson? (j : Json) : Option Identifier := do
  let value ← j.field? "value" Json.string?
  let quote ← j.optionalField? "quote_style" Json.char?
  let span ← j.field? "span" Span.ofJson?
  return ⟨value, quote, span⟩

/-- A qualified name as JSON. -/
def QualifiedName.toJson (n : QualifiedName) : Json :=
  .array (n.parts.map (·.toJson))

/-- Reading a qualified name. -/
def QualifiedName.ofJson? (j : Json) : Option QualifiedName :=
  QualifiedName.mk <$> j.list? Identifier.ofJson?

/-- A time zone as JSON. -/
def TimeZone.toJson (z : TimeZone) : Json := .string z.id

/-- Reading a time zone. -/
def TimeZone.ofJson? (j : Json) : Option TimeZone := TimeZone.mk <$> j.string?

/-- What a nullability is called in JSON. -/
def Nullability.jsonName : Nullability → String
  | nullable => "Nullable"
  | notNull => "NotNull"
  | unspecified => "Unspecified"

/-- A nullability as JSON. -/
def Nullability.toJson (n : Nullability) : Json := .string n.jsonName

/-- Reading a nullability. -/
def Nullability.ofJson? (j : Json) : Option Nullability :=
  j.oneOf? jsonName [nullable, notNull, unspecified]

/-- What a kind of collection is called in JSON. -/
def Collection.jsonName : Collection → String
  | array => "Array"
  | multiset => "Multiset"

/-- A kind of collection as JSON. -/
def Collection.toJson (k : Collection) : Json := .string k.jsonName

/-- Reading a kind of collection. -/
def Collection.ofJson? (j : Json) : Option Collection :=
  j.oneOf? jsonName [array, multiset]

/-- What a built-in type is called in JSON. -/
def BuiltIn.jsonName : BuiltIn → String
  | boolean => "Boolean"
  | tinyInt => "TinyInt"
  | smallInt => "SmallInt"
  | integer => "Integer"
  | bigInt => "BigInt"
  | decimal => "Decimal"
  | float => "Float"
  | real => "Real"
  | double => "Double"
  | date => "Date"
  | time => "Time"
  | timeWithLocalTimeZone => "TimeWithLocalTimeZone"
  | timestamp => "Timestamp"
  | timestampWithLocalTimeZone => "TimestampWithLocalTimeZone"
  | char => "Char"
  | varchar => "Varchar"
  | binary => "Binary"
  | varbinary => "Varbinary"
  | null => "Null"
  | any => "Any"
  | array => "Array"
  | multiset => "Multiset"
  | row => "Row"

/-- A built-in name as JSON. -/
def BuiltIn.toJson (n : BuiltIn) : Json := .string n.jsonName

/-- Reading a built-in name. -/
def BuiltIn.ofJson? (j : Json) : Option BuiltIn := j.oneOf? jsonName all

/-- The facets of a type as members of its object. -/
def Facets.jsonMembers (f : Facets) : List (String × Json) :=
  [("precision", .ofOption .ofUInt64 f.precision),
   ("scale", .ofOption .ofUInt64 f.scale)]

/-- Reading the facets of a type from its object. -/
def Facets.ofJson? (j : Json) : Option Facets := do
  let precision ← j.optionalField? "precision" Json.uInt64?
  let scale ← j.optionalField? "scale" Json.uInt64?
  return ⟨precision, scale⟩

/-! ## Reading back -/

/-- A position reads back. -/
@[simp] theorem Position.ofJson?_toJson (p : Position) :
    ofJson? p.toJson = some p := by
  simp [toJson, ofJson?]

/-- A span reads back. -/
@[simp] theorem Span.ofJson?_toJson (s : Span) : ofJson? s.toJson = some s := by
  simp [toJson, ofJson?]

/-- An identifier reads back. -/
@[simp] theorem Identifier.ofJson?_toJson (x : Identifier) :
    ofJson? x.toJson = some x := by
  have h : Json.optional? Json.char?
      (some (.ofOption (fun q => .string (.singleton q)) x.quote)) = some x.quote :=
    Json.optional?_ofOption (by simp [Json.char?]) (by simp) x.quote
  simp [toJson, ofJson?, Json.string?, h]

/-- A qualified name reads back. -/
@[simp] theorem QualifiedName.ofJson?_toJson (n : QualifiedName) :
    ofJson? n.toJson = some n := by
  obtain ⟨parts⟩ := n
  suffices h : (parts.map (·.toJson)).mapM Identifier.ofJson? = some parts by
    simp [toJson, ofJson?, Json.list?, h]
  induction parts with
  | nil => rfl
  | cons x parts ih => simp [ih]

/-- A time zone reads back. -/
@[simp] theorem TimeZone.ofJson?_toJson (z : TimeZone) :
    ofJson? z.toJson = some z := rfl

/-- A nullability reads back. -/
@[simp] theorem Nullability.ofJson?_toJson (n : Nullability) :
    ofJson? n.toJson = some n := by
  cases n <;> rfl

/-- A kind of collection reads back. -/
@[simp] theorem Collection.ofJson?_toJson (k : Collection) :
    ofJson? k.toJson = some k := by
  cases k <;> rfl

/-- A built-in name reads back. -/
@[simp] theorem BuiltIn.ofJson?_toJson (n : BuiltIn) : ofJson? n.toJson = some n := by
  cases n <;> rfl

/-- The facets of a type read back from its object, whatever else is in
it. -/
theorem Facets.ofJson?_jsonMembers (f : Facets) (n : BuiltIn)
    (ms : List (String × Json)) :
    ofJson? (.object (("type_name", n.toJson) :: f.jsonMembers ++ ms)) = some f := by
  have h (a : Option UInt64) :
      Json.optional? Json.uInt64? (some (.ofOption .ofUInt64 a)) = some a :=
    Json.optional?_ofOption (by simp) (by simp [Json.ofUInt64]) a
  simp [ofJson?, jsonMembers, h]

end SqlTyping
