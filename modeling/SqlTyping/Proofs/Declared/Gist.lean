import SqlTyping.Proofs.Declared.Canonical
import SqlTyping.Resolution.Declared

/-!
# The gist of declared types

Resolving looks at less of a declared type than the search for a difference
does. A time zone makes no difference to it, and of a collection keyword
only the collection counts that it makes, in whatever case and quotes. The
**simplified** form of a declared type has no time zones, and its keywords
are capital and bare.

The **gist** of a declared type is the canonical form of its simplified
one. Two declared types have the same gist exactly when nothing differs
between them once they are simplified
(`DeclaredType.gist_eq_iff_mismatch?`). The gist still has all the keywords,
in their order.
-/

namespace SqlTyping

/-- **A keyword in capitals.** -/
def asKeyword (s : String) : String := String.ofList (foldCase s.toList)

/-- Texts are the same keyword exactly when their capitals are equal. -/
theorem sameKeyword_iff_asKeyword {s t : String} :
    sameKeyword s t = true ↔ asKeyword s = asKeyword t := by
  rw [sameKeyword_iff]
  constructor
  · intro h
    rw [asKeyword, h, asKeyword]
  · intro h
    exact String.ofList_injective h

theorem sameKeyword_asKeyword (s : String) : sameKeyword (asKeyword s) s = true := by
  rw [sameKeyword_iff, asKeyword, String.toList_ofList, foldCase_foldCase]

@[simp] theorem asKeyword_asKeyword (s : String) :
    asKeyword (asKeyword s) = asKeyword s :=
  sameKeyword_iff_asKeyword.1 (sameKeyword_asKeyword s)

/-- A keyword in capitals makes the same collection. -/
@[simp] theorem Collection.ofKeyword?_asKeyword (s : String) :
    ofKeyword? (asKeyword s) = ofKeyword? s := ofKeyword?_congr (sameKeyword_asKeyword s)

/-- **The identifier as a keyword**: capital and bare. -/
def Identifier.asKeyword (x : Identifier) : Identifier :=
  ⟨SqlTyping.asKeyword x.value, none, x.span⟩

mutual

/-- The descriptor simplified at every depth. -/
def Descriptor.simplified : Descriptor → Descriptor
  | .builtIn n f s => .builtIn n f s
  | .collection e k s => .collection e.simplified k s
  | .row fs s => .row (DeclaredField.simplified fs) s
  | .named n s => .named n s

/-- **The declared type simplified at every depth**: without time zones,
and with capital and bare keywords. -/
def DeclaredType.simplified : DeclaredType → DeclaredType
  | ⟨k, d, b, _, n, s⟩ => ⟨k.map (·.asKeyword), d.simplified, b.simplified, none, n, s⟩

/-- The fields simplified at every depth. -/
def DeclaredField.simplified : List DeclaredField → List DeclaredField
  | [] => []
  | ⟨x, t⟩ :: fs => ⟨x, t.simplified⟩ :: DeclaredField.simplified fs

end

/-- **The gist of a descriptor.** -/
def Descriptor.gist (d : Descriptor) : Descriptor := d.simplified.canonical

/-- **The gist of a declared type**: what resolving can see of it, apart
from the nullability. -/
def DeclaredType.gist (t : DeclaredType) : DeclaredType := t.simplified.canonical

/-- The gist of the fields of a row. -/
def DeclaredField.gist (fs : List DeclaredField) : List DeclaredField :=
  DeclaredField.canonical (DeclaredField.simplified fs)

/-- **Types have the same gist exactly when nothing differs between their
simplified forms.** -/
theorem DeclaredType.gist_eq_iff_mismatch? {a b : DeclaredType} :
    a.gist = b.gist ↔ a.simplified.mismatch? b.simplified = .ok none :=
  mismatch?_eq_ok_none_iff.symm

/-- The gist of a declared type, part by part. -/
theorem DeclaredType.gist_eq (t : DeclaredType) :
    t.gist = ⟨t.keyword.map (·.asKeyword.unplaced), t.descriptor.gist, t.descriptor.gist,
      none, .unspecified, .unknown⟩ := by
  obtain ⟨k, d, b, z, n, s⟩ := t
  cases k <;> rfl

/-- The gist of fields is that of each, with the nullability of its type. -/
theorem DeclaredField.gist_cons (x : Identifier) (t : DeclaredType)
    (fs : List DeclaredField) :
    DeclaredField.gist (⟨x, t⟩ :: fs)
      = ⟨.bare x.value, t.gist.withNullability t.nullability⟩ :: DeclaredField.gist fs := by
  obtain ⟨k, d, b, z, n, s⟩ := t
  rfl

theorem DeclaredType.descriptor_gist (t : DeclaredType) :
    t.gist.descriptor = t.descriptor.gist := by rw [gist_eq]

/-- The gist is a collection of the same kind, if it is one. -/
theorem DeclaredType.collection?_gist (t : DeclaredType) :
    t.gist.collection? = t.collection? := by
  rw [gist_eq]
  obtain ⟨k, d, b, z, n, s⟩ := t
  cases k with
  | none => rfl
  | some k => simp [collection?, Identifier.asKeyword, Identifier.unplaced]

/-! ## Keywords -/

/-- A keyword as the gist has it: in capitals, and nowhere. -/
def gistKeyword (k : String × Span) : String × Span := (asKeyword k.1, .unknown)

theorem DeclaredType.keywords_withNullability (t : DeclaredType) (n : Nullability) :
    (t.withNullability n).keywords = t.keywords := by
  obtain ⟨k, d, b, z, m, s⟩ := t
  rfl

mutual

theorem Descriptor.keywords_gist :
    ∀ d : Descriptor, d.gist.keywords = d.keywords.map gistKeyword
  | .builtIn _ _ _ => rfl
  | .collection e _ _ => e.keywords_gist
  | .row fs _ => DeclaredField.keywords_gist fs
  | .named _ _ => rfl

/-- **The gist of a declared type has its keywords**, in the same order. -/
theorem DeclaredType.keywords_gist :
    ∀ t : DeclaredType, t.gist.keywords = t.keywords.map gistKeyword
  | ⟨k, d, b, z, n, s⟩ => by
    rw [DeclaredType.gist_eq, DeclaredType.keywords, DeclaredType.keywords, List.map_append,
      d.keywords_gist]
    cases k <;> rfl

theorem DeclaredField.keywords_gist :
    ∀ fs : List DeclaredField,
      DeclaredField.keywords (DeclaredField.gist fs)
        = (DeclaredField.keywords fs).map gistKeyword
  | [] => rfl
  | ⟨x, t⟩ :: fs => by
    rw [DeclaredField.gist_cons, DeclaredField.keywords, DeclaredField.keywords,
      List.map_append, t.gist.keywords_withNullability, t.keywords_gist,
      DeclaredField.keywords_gist fs]

end

/-- **The first unknown keyword of the gist is that of the type.** -/
theorem DeclaredType.unknownKeyword?_gist (t : DeclaredType) :
    t.gist.unknownKeyword? = t.unknownKeyword?.map gistKeyword := by
  have h : (fun k : String × Span => (Collection.ofKeyword? k.1).isNone) ∘ gistKeyword
      = fun k => (Collection.ofKeyword? k.1).isNone := by
    funext k
    simp [gistKeyword]
  rw [unknownKeyword?, keywords_gist, List.find?_map, h, unknownKeyword?]

end SqlTyping
