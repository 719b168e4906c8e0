import SqlTyping.Declared.Change
import SqlTyping.Proofs.Declared.Parts

/-!
# Resolving in one pass

Resolving a declared type looks at it several times over. The catalog is
tried on all of it first; where it falls short, each field of a row is
resolved as a declared type of its own, keyword check, catalog and all, and
so is each row within one.

The outcome is that of a single pass, `Descriptor.onePass`, which takes
the parts in the order they are written, asks for a built-in name in the
catalog and for any other in the scope, and stops at the first part that
has no type. Once the keywords are known, resolving *is* that pass,
requests and rejections included (`DeclaredType.resolve_of_keywordsKnown`);
with a stray keyword it is the rejection of the first one.
-/

namespace SqlTyping

namespace DeclaredType

/-- **The collection that the keyword makes** of a type; without a keyword
the type itself. -/
def collected (t : DeclaredType) (named : ResolvedType) : ResolvedType :=
  match t.collection? with
  | some k => .collectionOf k named unboundedSize
  | none => named

end DeclaredType

mutual

/-- **The type of a descriptor in one pass.** -/
def Descriptor.onePass (s : Scope) : Descriptor → Inquiry ResolvedType
  | .builtIn n f span =>
    match s.catalog.scalar? n f with
    | some t => pure t
    | none => .reject span (.unknownType (n.text f))
  | .collection e k _ => do
    let element ← e.onePass s
    return .collectionOf k element unboundedSize
  | .row fs _ => do
    let fields ← DeclaredField.onePass s fs
    return .rowOf fields
  | .named n _ => .lookup s n

/-- **The type of a field in one pass**: what its descriptor names, in its
keyword's collection and with its nullability. -/
def DeclaredType.onePass (s : Scope) : DeclaredType → Inquiry ResolvedType
  | ⟨k, d, b, z, n, span⟩ => do
    let t : DeclaredType := ⟨k, d, b, z, n, span⟩
    let named ← d.onePass s
    return (t.collected named).withNullable (n.resolve false)

/-- The fields of a row in one pass, from left to right. -/
def DeclaredField.onePass (s : Scope) :
    List DeclaredField → Inquiry (List ResolvedField)
  | [] => pure []
  | ⟨x, t⟩ :: fs => do
    let type ← t.onePass s
    let rest ← DeclaredField.onePass s fs
    return ⟨x.value, type⟩ :: rest

end

/-- Whether the descriptor is the name of a user-defined type. -/
def Descriptor.isName : Descriptor → Bool
  | .builtIn .. => false
  | .collection .. => false
  | .row .. => false
  | .named .. => true

/-- **What a declared type makes of the type its descriptor names**: the
keyword's collection of it, with the declared nullability unless the
descriptor is the name of a user-defined type. -/
def DeclaredType.finished (t : DeclaredType) (named : ResolvedType) : ResolvedType :=
  if t.descriptor.isName then t.collected named
  else (t.collected named).withNullable (t.nullability.resolve false)

/-- A nullability given afterwards makes up for the one a name leaves
out. -/
theorem DeclaredType.withNullable_finished (t : DeclaredType) (named : ResolvedType)
    (b : Bool) :
    (t.finished named).withNullable b = (t.collected named).withNullable b := by
  unfold finished
  split <;> rfl

/-- A keyword that is not stray makes its collection. -/
theorem DeclaredType.collectBy_keyword {t : DeclaredType}
    (h : t.hasStrayKeyword = false) (named : ResolvedType) :
    collectBy t.keyword named = .ok (t.collected named) := by
  obtain ⟨k, d, b, z, n, span⟩ := t
  cases k with
  | none => rfl
  | some k =>
    simp only [hasStrayKeyword, isCollection, collection?, Option.isSome_some,
      Bool.true_and, Option.bind_some, Option.isNone_eq_false_iff,
      Option.isSome_iff_exists] at h
    obtain ⟨kind, hk⟩ := h
    simp only [collectBy, collected, collection?, Option.bind_some, hk]

/-- Only a keyword that is not stray makes a collection. -/
theorem DeclaredType.hasStrayKeyword_of_collectBy {t : DeclaredType}
    {named made : ResolvedType} (h : collectBy t.keyword named = .ok made) :
    t.hasStrayKeyword = false := by
  obtain ⟨k, d, b, z, n, span⟩ := t
  cases k with
  | none => rfl
  | some k =>
    cases hk : Collection.ofKeyword? k.value with
    | none => simp [collectBy, hk] at h
    | some kind => simp [hasStrayKeyword, collection?, hk]

/-- A name of a user-defined type is never on offer. -/
theorem Descriptor.isName_of_inCatalog_eq_ok {c : Catalog} {d : Descriptor}
    {t : ResolvedType} (h : d.inCatalog c = .ok t) : d.isName = false := by
  cases d with
  | named n s => cases h
  | _ => rfl

/-- What a catalog makes of a declared type, from what it makes of the
descriptor. -/
theorem DeclaredType.inCatalog_eq (c : Catalog) (context : Bool) (t : DeclaredType) :
    t.inCatalog c context = do
      let named ← t.descriptor.inCatalog c
      let collected ← collectBy t.keyword named
      return collected.withNullable (t.nullability.resolve context) := by
  obtain ⟨k, d, b, z, n, span⟩ := t
  rfl

/-- A declared type is on offer when its descriptor is and its keyword is
known. -/
theorem DeclaredType.inCatalog_eq_ok {c : Catalog} {context : Bool}
    {t : DeclaredType} {named : ResolvedType} (hk : t.hasStrayKeyword = false)
    (h : t.descriptor.inCatalog c = .ok named) :
    t.inCatalog c context
      = .ok ((t.collected named).withNullable (t.nullability.resolve context)) := by
  rw [inCatalog_eq, h]
  show (collectBy t.keyword named >>= _) = _
  rw [collectBy_keyword hk]
  rfl

/-- A declared type falls short where its descriptor does. -/
theorem DeclaredType.inCatalog_eq_error {c : Catalog} {context : Bool}
    {t : DeclaredType} {f : Shortfall} (h : t.descriptor.inCatalog c = .error f) :
    t.inCatalog c context = .error f := by
  rw [inCatalog_eq, h]
  rfl

/-! ## What the catalog foretells

Where the catalog has an answer, it is that of the pass, which then asks
nothing. Where it has none, that is for want of a type and not for a
stray keyword. -/

/-- **An answer of the catalog foretells the pass**, and only a type that
is not on offer is without one. -/
inductive Foretold {α : Type} (found : Except Shortfall α) (pass : Inquiry α) : Prop
  /-- The catalog has the answer. -/
  | offered (a : α) (h : found = .ok a) (hp : pass = pure a)
  /-- The catalog lacks some type. -/
  | notOffered (h : found = .error .notOffered)

namespace Foretold

variable {α β : Type}

theorem pure (a : α) : Foretold (.ok a) (Pure.pure a) := .offered a rfl rfl

/-- **One part after another**: when the first is foretold and each way on
is, so is the whole. -/
theorem bind {found : Except Shortfall α} {pass : Inquiry α}
    {f : α → Except Shortfall β} {g : α → Inquiry β} (h : Foretold found pass)
    (hf : ∀ a, Foretold (f a) (g a)) : Foretold (found >>= f) (pass >>= g) := by
  cases h with
  | offered a h hp =>
    rw [h, hp, pure_bind]
    exact hf a
  | notOffered h =>
    rw [h]
    exact .notOffered rfl

end Foretold

section Foretelling

variable (s : Scope)

mutual

/-- The catalog foretells the pass over a descriptor. -/
theorem Descriptor.foretold : ∀ d : Descriptor, KeywordsKnown d.parts →
    Foretold (d.inCatalog s.catalog) (d.onePass s)
  | .builtIn n f span, _ => by
    rw [Descriptor.inCatalog, Descriptor.onePass]
    cases s.catalog.scalar? n f with
    | none => exact .notOffered rfl
    | some t => exact .pure t
  | .collection e k _, h => (e.foretold h).bind fun _ => .pure _
  | .row fs _, h => (DeclaredField.foretold fs h).bind fun _ => .pure _
  | .named _ _, _ => .notOffered rfl

/-- The catalog foretells the pass over a field's type. -/
theorem DeclaredType.foretold : ∀ t : DeclaredType, KeywordsKnown t.parts →
    Foretold (t.inCatalog s.catalog false) (t.onePass s)
  | ⟨k, d, b, z, n, span⟩, h => by
    obtain ⟨hk, hd⟩ := keywordsKnown_cons.1 h
    refine (d.foretold hd).bind fun named => ?_
    rw [show collectBy k named = _ from DeclaredType.collectBy_keyword hk named]
    exact .pure _

/-- The catalog foretells the pass over the fields of a row. -/
theorem DeclaredField.foretold : ∀ fs : List DeclaredField,
    KeywordsKnown (DeclaredField.parts fs) →
      Foretold (DeclaredField.inCatalog s.catalog fs) (DeclaredField.onePass s fs)
  | [], _ => .pure []
  | ⟨_, t⟩ :: fs, h => by
    obtain ⟨ht, hfs⟩ := keywordsKnown_append.1 h
    exact (t.foretold ht).bind fun _ =>
      (DeclaredField.foretold fs hfs).bind fun _ => .pure _

end

end Foretelling

/-! ## What is on offer

A catalog that has an answer has come past every keyword. None of them is
stray, then, and the answer is that of the pass. -/

/-- When two steps have an answer, the first has one. -/
theorem exists_of_bind_eq_ok {ε α β : Type} {x : Except ε α} {f : α → Except ε β} {b : β}
    (h : (x >>= f) = .ok b) : ∃ a, x = .ok a ∧ f a = .ok b := by
  cases x with
  | error e => cases h
  | ok a => exact ⟨a, rfl, h⟩

/-- What a catalog gives is what it made. -/
theorem Shortfall.tolerate_eq_some_iff {found : Except Shortfall ResolvedType}
    {made : ResolvedType} : tolerate found = .ok (some made) ↔ found = .ok made := by
  rcases found with (_ | _) | _ <;> simp [tolerate]

section OnOffer

variable {c : Catalog}

mutual

/-- The keywords in a descriptor on offer are known. -/
theorem Descriptor.keywordsKnown_of_inCatalog :
    ∀ {d : Descriptor} {made : ResolvedType},
      d.inCatalog c = .ok made → KeywordsKnown d.parts
  | .builtIn _ _ _, _, _ => fun _ h => by cases h
  | .collection e _ _, _, h => by
    obtain ⟨element, he, -⟩ := exists_of_bind_eq_ok h
    have hk : KeywordsKnown e.parts := Descriptor.keywordsKnown_of_inCatalog he
    exact hk
  | .row fs _, _, h => by
    obtain ⟨fields, hfs, -⟩ := exists_of_bind_eq_ok h
    have hk : KeywordsKnown (DeclaredField.parts fs) :=
      DeclaredField.keywordsKnown_of_inCatalog hfs
    exact hk
  | .named _ _, _, h => by cases h

/-- **The keywords in a declared type on offer are known.** -/
theorem DeclaredType.keywordsKnown_of_inCatalog :
    ∀ {t : DeclaredType} {context : Bool} {made : ResolvedType},
      t.inCatalog c context = .ok made → KeywordsKnown t.parts
  | ⟨_, _, _, _, _, _⟩, _, _, h => by
    obtain ⟨named, hd, h⟩ := exists_of_bind_eq_ok h
    obtain ⟨collected, hk, -⟩ := exists_of_bind_eq_ok h
    exact keywordsKnown_cons.2 ⟨DeclaredType.hasStrayKeyword_of_collectBy hk,
      Descriptor.keywordsKnown_of_inCatalog hd⟩

/-- The keywords in the fields of a row on offer are known. -/
theorem DeclaredField.keywordsKnown_of_inCatalog :
    ∀ {fs : List DeclaredField} {made : List ResolvedField},
      DeclaredField.inCatalog c fs = .ok made → KeywordsKnown (DeclaredField.parts fs)
  | [], _, _ => fun _ h => by cases h
  | ⟨_, _⟩ :: _, _, h => by
    obtain ⟨type, ht, h⟩ := exists_of_bind_eq_ok h
    obtain ⟨rest, hfs, -⟩ := exists_of_bind_eq_ok h
    exact keywordsKnown_append.2 ⟨DeclaredType.keywordsKnown_of_inCatalog ht,
      DeclaredField.keywordsKnown_of_inCatalog hfs⟩

end

end OnOffer

/-- **What is on offer is what the pass comes to**, without asking. -/
theorem DeclaredType.onePass_of_inCatalog {s : Scope} {t : DeclaredType} {made : ResolvedType}
    (h : t.inCatalog s.catalog false = .ok made) : t.onePass s = pure made := by
  cases t.foretold s (keywordsKnown_of_inCatalog h) with
  | offered a ha hp =>
    cases ha.symm.trans h
    exact hp
  | notOffered hn => cases hn.symm.trans h

/-! ## Resolving is one pass -/

/-- The answer of the catalog, or else of the scope, is that of the
pass. -/
theorem Foretold.orElse_eq {found : Except Shortfall ResolvedType}
    {pass asked : Inquiry ResolvedType} (h : Foretold found pass)
    (ha : found = .error .notOffered → asked = pass) :
    Inquiry.orElse found asked = pass := by
  cases h with
  | offered a h hp => rw [h, hp]; rfl
  | notOffered h => rw [ha h, h]; rfl

theorem DeclaredType.onePass_eq (s : Scope) (t : DeclaredType) :
    t.onePass s = do
      let named ← t.descriptor.onePass s
      return (t.collected named).withNullable (t.nullability.resolve false) := by
  obtain ⟨k, d, b, z, n, span⟩ := t
  rfl

/-- With known keywords, a declared type is resolved by the catalog and
else by its descriptor. -/
theorem DeclaredType.resolve_eq_orElse {t : DeclaredType}
    (h : KeywordsKnown t.parts) (s : Scope) :
    t.resolve s = .orElse (t.inCatalog s.catalog false) do
      let named ← t.descriptor.resolve s
      return t.around named := by
  obtain ⟨k, d, b, z, n, span⟩ := t
  rw [DeclaredType.resolve, unknownKeyword?_eq_none_iff.2 h]

section Resolving

variable (s : Scope)

mutual

/-- **Resolving a descriptor that is not on offer is one pass.** -/
theorem Descriptor.resolve_of_notOffered :
    ∀ d : Descriptor, KeywordsKnown d.parts →
      d.inCatalog s.catalog = .error .notOffered → d.resolve s = d.onePass s
  | .builtIn n f span, _, h => by
    rw [Descriptor.inCatalog] at h
    rw [Descriptor.resolve, Descriptor.onePass]
    cases hn : s.catalog.scalar? n f with
    | none => rfl
    | some t => rw [hn] at h; cases h
  | .collection e k _, h, _ => by
    have he := (e.foretold s h).orElse_eq (e.resolve_of_notOffered h)
    rw [Descriptor.resolve, Descriptor.onePass, he]
  | .row fs _, h, _ => by
    rw [Descriptor.resolve, Descriptor.onePass, DeclaredField.resolve_of_keywordsKnown fs h]
  | .named _ _, _, _ => rfl

/-- **Resolving a declared type with known keywords is one pass** over its
descriptor. -/
theorem DeclaredType.resolve_of_keywordsKnown :
    ∀ t : DeclaredType, KeywordsKnown t.parts →
      t.resolve s = do
        let named ← t.descriptor.onePass s
        return t.finished named
  | ⟨k, d, b, z, n, span⟩, h => by
    rw [DeclaredType.resolve_eq_orElse h]
    obtain ⟨hk, hd⟩ := keywordsKnown_cons.1 h
    cases d.foretold s hd with
    | offered named hn hp =>
      -- only names go without their nullability, and they are not on offer
      have hname := Descriptor.isName_of_inCatalog_eq_ok hn
      rw [DeclaredType.inCatalog_eq_ok hk hn, hp, pure_bind]
      show pure _ = pure (DeclaredType.finished _ named)
      rw [DeclaredType.finished, hname]
      rfl
    | notOffered hn =>
      have hd' := d.resolve_of_notOffered hd hn
      rw [DeclaredType.inCatalog_eq_error hn]
      show (d.resolve s >>= _) = (d.onePass s >>= _)
      rw [← hd']
      -- the descriptors that are composite are those that are neither built in nor names
      cases d with
      | builtIn m f span => rfl
      | collection e k span => rfl
      | row fs span => rfl
      | named m span => rfl

/-- **Resolving the fields of a row is one pass.** -/
theorem DeclaredField.resolve_of_keywordsKnown :
    ∀ fs : List DeclaredField, KeywordsKnown (DeclaredField.parts fs) →
      DeclaredField.resolve s fs = DeclaredField.onePass s fs
  | [], _ => rfl
  | ⟨x, t⟩ :: fs, h => by
    obtain ⟨ht, hfs⟩ := keywordsKnown_append.1 h
    rw [DeclaredField.resolve, DeclaredField.onePass, t.resolve_of_keywordsKnown ht,
      t.onePass_eq, DeclaredField.resolve_of_keywordsKnown fs hfs]
    simp only [bind_assoc, pure_bind, t.withNullable_finished]

end

end Resolving

/-- **Resolving in one pass**, requests included: the rejection of the
first unknown keyword, and without one the pass over the descriptor. -/
theorem DeclaredType.resolve_eq (s : Scope) (t : DeclaredType) :
    t.resolve s = match t.unknownKeyword? with
      | some (keyword, place) => .reject place (.unknownDatatype keyword)
      | none => do
        let named ← t.descriptor.onePass s
        return t.finished named := by
  cases h : t.unknownKeyword? with
  | some u =>
    obtain ⟨k, d, b, z, n, span⟩ := t
    rw [DeclaredType.resolve, h]
  | none => exact t.resolve_of_keywordsKnown s (unknownKeyword?_eq_none_iff.1 h)

/-- **Resolving a declared type comes to what one pass comes to.** The
first of its parts with a stray keyword is rejected where it stands.
Without stray keywords, the outcome is that of the pass over the
descriptor: the same failure, or the type that the keyword and the
nullability make of what the descriptor names. -/
theorem DeclaredType.result_resolve_eq_onePass (s : Scope) (t : DeclaredType) :
    (t.resolve s).result = match t.parts.find? (·.hasStrayKeyword) with
      | some u => .error (.rejected ⟨u.span, .unknownDatatype u.keywordText⟩)
      | none => t.finished <$> (t.descriptor.onePass s).result := by
  rw [t.resolve_eq s, t.unknownKeyword?_eq]
  cases t.parts.find? (·.hasStrayKeyword) with
  | some u => rfl
  | none => exact Inquiry.result_bind _ _

/-- What a type is resolved to is made of what its descriptor names. -/
theorem DeclaredType.exists_finished_of_result_resolve {s : Scope} {t : DeclaredType}
    {type : ResolvedType} (h : (t.resolve s).result = .ok type) :
    KeywordsKnown t.parts ∧ ∃ named,
      (t.descriptor.onePass s).result = .ok named ∧ type = t.finished named := by
  rw [t.resolve_eq s] at h
  cases hk : t.unknownKeyword? with
  | some u => rw [hk] at h; cases h
  | none =>
    refine ⟨unknownKeyword?_eq_none_iff.1 hk, ?_⟩
    rw [hk] at h
    simp only [Inquiry.result_bind] at h
    cases hd : (t.descriptor.onePass s).result with
    | error e => rw [hd] at h; cases h
    | ok named => rw [hd] at h; cases h; exact ⟨named, rfl, rfl⟩

/-! ## Nullability -/

/-- A collection that a keyword makes does not admit `NULL`. -/
theorem DeclaredType.nullable_collected {t : DeclaredType} (hk : t.isCollection = true)
    (h : t.hasStrayKeyword = false) (named : ResolvedType) :
    (t.collected named).nullable = false := by
  simp only [hasStrayKeyword, hk, Bool.true_and, Option.isNone_eq_false_iff,
    Option.isSome_iff_exists] at h
  obtain ⟨kind, hk⟩ := h
  rw [collected, hk]
  rfl

/-- **A resolved type has the declared nullability unless a name is
collected.** Of all declared types but bare names of user-defined types,
those that lose what they declare are the collections that a keyword makes
of such a name and that are declared to admit `NULL`. -/
theorem DeclaredType.nullable_resolve_iff {s : Scope} {t : DeclaredType}
    {type : ResolvedType} (ht : t.isCollection = true ∨ t.descriptor.isName = false)
    (h : (t.resolve s).result = .ok type) :
    type.nullable = t.nullability.resolve false
      ↔ ¬ (t.descriptor.isName = true ∧ t.nullability = .nullable) := by
  obtain ⟨hk, named, -, rfl⟩ := exists_finished_of_result_resolve h
  cases hn : t.descriptor.isName with
  | false => simp [finished, hn]
  | true =>
    have hc : t.isCollection = true := ht.resolve_right (by simp [hn])
    have hself : t.hasStrayKeyword = false := hk t (by cases t; simp [parts])
    rw [finished, hn, if_pos rfl, nullable_collected hc hself]
    cases t.nullability <;> simp [Nullability.resolve, Nullability.toOption]

/-- A scope in which every name stands for a distinct type over
`INTEGER`. -/
def Scope.integers : Scope :=
  ⟨.standard, fun n => .ok (.defined n ⟨.scalar .integer .none, false⟩)⟩

/-- The declaration `MYUDT ARRAY` with a nullability. -/
def DeclaredType.nameArray (n : Nullability) : DeclaredType :=
  (ofKind .array (.ofName (.ofPath "MYUDT"))).withNullability n

/-- The declaration `ROW(i MYUDT ARRAY NULL) ARRAY NULL`. -/
def DeclaredType.rowArray : DeclaredType :=
  (ofKind .array (.row [⟨.bare "i", nameArray .nullable⟩] .unknown)).withNullability
    .nullable

/-- An array of rows has the nullability it declares, for all that there
are names in it. -/
theorem DeclaredType.nullable_resolve_rowArray :
    ∃ type, rowArray.descriptor.isName = false
      ∧ (rowArray.resolve Scope.integers).result = .ok type
      ∧ type.nullable = rowArray.nullability.resolve false := by
  have h : (rowArray.resolve Scope.integers).result = .ok _ := rfl
  exact ⟨_, rfl, h, (nullable_resolve_iff (.inr rfl) h).2 (by decide)⟩

/-- **`MYUDT ARRAY NULL` does not admit `NULL`**, so not every collection
has the nullability it declares. -/
theorem DeclaredType.not_nullable_resolve_nameArray :
    ¬ ∀ (s : Scope) (t : DeclaredType) (type : ResolvedType),
      (t.isCollection = true ∨ t.descriptor.isName = false) →
        (t.resolve s).result = .ok type →
          type.nullable = t.nullability.resolve false := by
  intro h
  have hn := h Scope.integers (nameArray .nullable) _ (.inl rfl) rfl
  exact absurd hn (by decide)

end SqlTyping
