import SqlTyping.Resolution.Declared

/-!
# Declared types within declared types

The fields of a row are declared types, so a declared type has others in
it, at any depth and also below collections. `DeclaredType.parts` lists
them as a reader meets them, a declared type before the ones within it.

Each of the parts may have a collection keyword of its own. A keyword that
makes no collection is **stray**, and looking for the first stray keyword
of a declared type is looking for the first of its parts that has one
(`DeclaredType.unknownKeyword?_eq`).
-/

namespace SqlTyping

mutual

/-- The declared types within a descriptor, as `DeclaredType.parts` lists
them. -/
def Descriptor.parts : Descriptor → List DeclaredType
  | .builtIn _ _ _ => []
  | .collection e _ _ => e.parts
  | .row fs _ => DeclaredField.parts fs
  | .named _ _ => []

/-- **The declared types a declared type is made of**: itself, then those
within its descriptor from left to right. -/
def DeclaredType.parts : DeclaredType → List DeclaredType
  | ⟨k, d, b, z, n, s⟩ => ⟨k, d, b, z, n, s⟩ :: d.parts

/-- The declared types that the fields of a row are made of. -/
def DeclaredField.parts : List DeclaredField → List DeclaredType
  | [] => []
  | ⟨_, t⟩ :: fs => t.parts ++ DeclaredField.parts fs

end

namespace DeclaredType

/-- The text of the collection keyword, empty without one. -/
def keywordText (t : DeclaredType) : String := (t.keyword.map (·.value)).getD ""

/-- **Whether the collection keyword makes no collection.** -/
def hasStrayKeyword (t : DeclaredType) : Bool :=
  t.isCollection && t.collection?.isNone

/-- The collection keyword of a declared type with its place, as
`keywords` lists it. -/
def placedKeyword? (t : DeclaredType) : Option (String × Span) :=
  t.keyword.map fun k => (k.value, t.span)

end DeclaredType

/-- **No stray keywords** among declared types. -/
def KeywordsKnown (ts : List DeclaredType) : Prop :=
  ∀ t ∈ ts, t.hasStrayKeyword = false

@[simp] theorem keywordsKnown_cons {t : DeclaredType} {ts : List DeclaredType} :
    KeywordsKnown (t :: ts) ↔ t.hasStrayKeyword = false ∧ KeywordsKnown ts := by
  simp [KeywordsKnown]

@[simp] theorem keywordsKnown_append {ts us : List DeclaredType} :
    KeywordsKnown (ts ++ us) ↔ KeywordsKnown ts ∧ KeywordsKnown us := by
  unfold KeywordsKnown
  exact List.forall_mem_append

/-- Keywords are known when the search for a stray one is in vain. -/
theorem keywordsKnown_iff_find? {ts : List DeclaredType} :
    KeywordsKnown ts ↔ ts.find? (·.hasStrayKeyword) = none := by
  simp [KeywordsKnown]

mutual

theorem Descriptor.keywords_eq_parts :
    ∀ d : Descriptor, d.keywords = d.parts.filterMap (·.placedKeyword?)
  | .builtIn _ _ _ => rfl
  | .collection e _ _ => e.keywords_eq_parts
  | .row fs _ => DeclaredField.keywords_eq_parts fs
  | .named _ _ => rfl

/-- **The keywords of a declared type are those of its parts**, in the
same order. -/
theorem DeclaredType.keywords_eq_parts :
    ∀ t : DeclaredType, t.keywords = t.parts.filterMap (·.placedKeyword?)
  | ⟨k, d, b, z, n, s⟩ => by
    rw [DeclaredType.keywords, DeclaredType.parts, d.keywords_eq_parts]
    cases k with
    | none => rfl
    | some k => rfl

theorem DeclaredField.keywords_eq_parts :
    ∀ fs : List DeclaredField,
      DeclaredField.keywords fs = (DeclaredField.parts fs).filterMap (·.placedKeyword?)
  | [] => rfl
  | ⟨_, t⟩ :: fs => by
    rw [DeclaredField.keywords, DeclaredField.parts, List.filterMap_append,
      t.keywords_eq_parts, DeclaredField.keywords_eq_parts fs]

end

namespace DeclaredType

/-- A keyword is stray exactly when it is there and makes no collection. -/
theorem any_placedKeyword? (t : DeclaredType) :
    t.placedKeyword?.any (fun k => (Collection.ofKeyword? k.1).isNone)
      = t.hasStrayKeyword := by
  obtain ⟨k, d, b, z, n, s⟩ := t
  cases k with
  | none => rfl
  | some k => rfl

/-- A stray keyword is one, with a text and a place. -/
theorem placedKeyword?_of_hasStrayKeyword {t : DeclaredType}
    (h : t.hasStrayKeyword = true) :
    t.placedKeyword? = some (t.keywordText, t.span) := by
  obtain ⟨k, d, b, z, n, s⟩ := t
  cases k with
  | none => cases h
  | some k => rfl

/-- **The first stray keyword of a declared type is that of the first of
its parts that has one.** -/
theorem unknownKeyword?_eq (t : DeclaredType) :
    t.unknownKeyword?
      = (t.parts.find? (·.hasStrayKeyword)).map fun u => (u.keywordText, u.span) := by
  rw [unknownKeyword?, keywords_eq_parts, List.find?_filterMap]
  simp only [any_placedKeyword?]
  cases h : t.parts.find? (·.hasStrayKeyword) with
  | none => rfl
  | some u => exact placedKeyword?_of_hasStrayKeyword (List.find?_some h)

/-- No keyword is unknown exactly when none of the parts has a stray one. -/
theorem unknownKeyword?_eq_none_iff {t : DeclaredType} :
    t.unknownKeyword? = none ↔ KeywordsKnown t.parts := by
  rw [unknownKeyword?_eq, Option.map_eq_none_iff, keywordsKnown_iff_find?]

end DeclaredType

end SqlTyping
