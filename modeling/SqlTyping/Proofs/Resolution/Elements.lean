import SqlTyping.Proofs.Resolution.OnePass

/-!
# The elements of a collection

What declares the elements of a collection is its descriptor by itself, in
the same time zone: keyword and nullability are those of the collection. The
two are not resolved in the same way. A row or a built-in name by itself is
given a nullability, and under a keyword it is not; and a name is left as it
is bound by itself, but not when it is in a row.

Still, a collection is the collection of what its elements are by
themselves, and is turned down exactly where they are
(`DeclaredType.resolve_element`). Elements declare nothing about `NULL`, so
the nullability they are given is `NOT NULL`. That is what rows and
collections have when they are made, and what built-in types have as long as
the catalog makes them so.
-/

namespace SqlTyping

/-- **A catalog whose types do not admit `NULL`.** They have no declaration
that could say so. -/
def Catalog.ExcludesNull (c : Catalog) : Prop :=
  ∀ (n : BuiltIn) (f : Facets) (t : ResolvedType), c.scalar? n f = some t → t.nullable = false

/-- The types of a dialect do not admit `NULL`. -/
theorem Catalog.excludesNull_ofDialect (d : Dialect) : (ofDialect d).ExcludesNull := by
  intro n f t h
  have h : d.scalar? n f = some t := h
  unfold Dialect.scalar? at h
  split at h
  case isTrue => cases h; rfl
  case isFalse => cases h

/-! ## What a descriptor comes to -/

/-- **What a descriptor comes to in a scope**: the rejection of the first
stray keyword in it, and otherwise the outcome of the pass. -/
def Descriptor.outcome (s : Scope) (d : Descriptor) : Except Failure ResolvedType :=
  match d.parts.find? (·.hasStrayKeyword) with
  | some u => .error (.rejected ⟨u.span, .unknownDatatype u.keywordText⟩)
  | none => (d.onePass s).result

/-- **A type whose own keyword is known is resolved by its descriptor.** -/
theorem DeclaredType.result_resolve_eq_outcome {t : DeclaredType}
    (h : t.hasStrayKeyword = false) (s : Scope) :
    (t.resolve s).result = t.finished <$> t.descriptor.outcome s := by
  have hparts : t.parts = t :: t.descriptor.parts := by
    obtain ⟨k, d, b, z, n, span⟩ := t
    rfl
  rw [result_resolve_eq_onePass, hparts, List.find?_cons, h]
  unfold Descriptor.outcome
  cases t.descriptor.parts.find? (·.hasStrayKeyword) with
  | some u => rfl
  | none => rfl

/-- What is on offer is what the descriptor comes to in every scope over the
catalog. -/
theorem Descriptor.outcome_of_inCatalog {s : Scope} {d : Descriptor} {named : ResolvedType}
    (h : d.inCatalog s.catalog = .ok named) : d.outcome s = .ok named := by
  have hk : KeywordsKnown d.parts := keywordsKnown_of_inCatalog h
  unfold outcome
  rw [keywordsKnown_iff_find?.1 hk]
  cases d.foretold s hk with
  | offered a ha hp =>
    cases ha.symm.trans h
    exact congrArg Inquiry.result hp
  | notOffered hn => cases hn.symm.trans h

/-- **What a descriptor comes to does not admit `NULL`**, unless it is a name
that was bound to such a type. -/
theorem Descriptor.nullable_of_outcome {s : Scope} (hc : s.catalog.ExcludesNull)
    {d : Descriptor} (hd : d.isName = false) {named : ResolvedType}
    (h : d.outcome s = .ok named) : named.nullable = false := by
  unfold outcome at h
  split at h
  case h_1 => cases h
  case h_2 =>
    cases d with
    | builtIn n f span =>
      rw [onePass] at h
      cases hn : s.catalog.scalar? n f with
      | none => rw [hn] at h; cases h
      | some t => rw [hn] at h; cases h; exact hc n f _ hn
    | collection e k span =>
      rw [onePass, Inquiry.result_bind] at h
      obtain ⟨element, -, h⟩ := exists_of_bind_eq_ok h
      cases h
      rfl
    | row fs span =>
      rw [onePass, Inquiry.result_bind] at h
      obtain ⟨fields, -, h⟩ := exists_of_bind_eq_ok h
      cases h
      rfl
    | named n span => cases hd

/-- So giving it `NOT NULL` changes nothing. -/
theorem DeclaredType.finished_zoned_of_outcome {s : Scope} (hc : s.catalog.ExcludesNull)
    {d : Descriptor} {named : ResolvedType} (h : d.outcome s = .ok named)
    (z : Option TimeZone) (span : Span) : (zoned d z span).finished named = named := by
  cases hd : d.isName with
  | true => exact if_pos hd
  | false =>
    have hn : named.nullable = false := Descriptor.nullable_of_outcome hc hd h
    have hself : named.withNullable false = named := hn ▸ named.withNullable_self
    exact (if_neg (Bool.eq_false_iff.1 hd)).trans hself

/-- **A descriptor by itself is resolved to what it comes to.** -/
theorem DeclaredType.result_resolve_zoned {s : Scope} (hc : s.catalog.ExcludesNull)
    (d : Descriptor) (z : Option TimeZone) (span : Span) :
    ((zoned d z span).resolve s).result = d.outcome s := by
  rw [result_resolve_eq_outcome (t := zoned _ _ _) rfl]
  show (zoned d z span).finished <$> d.outcome s = d.outcome s
  cases h : d.outcome s with
  | error e => rfl
  | ok named => exact congrArg Except.ok (finished_zoned_of_outcome hc h z span)

/-- What a catalog makes of a descriptor does not admit `NULL`. -/
theorem Descriptor.nullable_of_inCatalog {c : Catalog} (hc : c.ExcludesNull) {d : Descriptor}
    {named : ResolvedType} (h : d.inCatalog c = .ok named) : named.nullable = false := by
  let s : Scope := ⟨c, fun _ => .error (.misused .unwritableQuote)⟩
  have hs : s.catalog.ExcludesNull := hc
  exact nullable_of_outcome hs (isName_of_inCatalog_eq_ok h) (outcome_of_inCatalog (s := s) h)

/-! ## Collections by their elements -/

/-- A failure is one whatever would be made of an answer. -/
theorem map_eq_error_iff {ε α β : Type} {f : α → β} {x : Except ε α} {e : ε} :
    f <$> x = .error e ↔ x = .error e := by
  cases x <;> simp [Functor.map, Except.map]

section Elements

variable {t : DeclaredType} {k : Collection}

/-- A keyword that makes a collection is not stray. -/
theorem DeclaredType.hasStrayKeyword_of_collection? (hk : t.collection? = some k) :
    t.hasStrayKeyword = false := by
  rw [hasStrayKeyword, hk]
  exact Bool.and_false _

/-- A keyword that makes a collection is there, so there are elements. -/
theorem DeclaredType.element?_of_collection? (hk : t.collection? = some k) :
    t.element? = .ok (zoned t.descriptor t.timeZone t.span) := by
  have hc : t.isCollection = true := by
    obtain ⟨k', d, b, z, n, span⟩ := t
    cases k' with
    | none => cases hk
    | some k' => rfl
  exact if_pos hc

/-- What the keyword makes of a type. -/
theorem DeclaredType.collected_of_collection? (hk : t.collection? = some k)
    (element : ResolvedType) : t.collected element = ⟨.collection k element (-1), false⟩ := by
  rw [collected, hk]
  rfl

/-- In a scope, a collection is made of what its elements are by
themselves. -/
theorem DeclaredType.result_resolve_of_collection? (hk : t.collection? = some k) {s : Scope}
    (hc : s.catalog.ExcludesNull) :
    (t.resolve s).result =
      (fun element => ⟨.collection k element (-1),
        !t.descriptor.isName && t.nullability.resolve false⟩) <$>
        ((zoned t.descriptor t.timeZone t.span).resolve s).result := by
  rw [result_resolve_eq_outcome (hasStrayKeyword_of_collection? hk), result_resolve_zoned hc]
  cases t.descriptor.outcome s with
  | error e => rfl
  | ok named =>
    show Except.ok (t.finished named) = .ok ⟨.collection k named (-1), _⟩
    rw [finished, collected_of_collection? hk]
    cases t.descriptor.isName <;> rfl

/-- In a catalog, it is made of what they are as `NOT NULL`. -/
theorem DeclaredType.inCatalog?_of_collection? (hk : t.collection? = some k) {c : Catalog}
    (hc : c.ExcludesNull) (context : Bool) :
    t.inCatalog? c context =
      Option.map (fun element => ⟨.collection k element (-1), t.nullability.resolve context⟩) <$>
        (zoned t.descriptor t.timeZone t.span).inCatalog? c false := by
  unfold inCatalog?
  cases hd : t.descriptor.inCatalog c with
  | error f =>
    rw [inCatalog_eq_error hd, inCatalog_eq_error (t := zoned _ _ _) hd]
    cases f <;> rfl
  | ok named =>
    have hself : named.withNullable false = named :=
      Descriptor.nullable_of_inCatalog hc hd ▸ named.withNullable_self
    rw [inCatalog_eq_ok (hasStrayKeyword_of_collection? hk) hd, collected_of_collection? hk,
      inCatalog_eq_ok (t := zoned _ _ _) rfl hd]
    show Except.ok (some _)
      = .ok (some (ResolvedType.mk (.collection k (named.withNullable false) (-1)) _))
    rw [hself]
    rfl

end Elements

/-- **A collection is resolved as its elements are.** Where the keyword of a
declared type makes a collection, there is a declared type of its elements,
and

* in every scope the two fail in the same way, at the same place, or neither
  fails;
* in a scope whose catalog makes no types that admit `NULL`, the type of the
  collection is that keyword's collection, of any size, of the type of the
  elements;
* so it is for what such a catalog offers by itself, which is nothing for
  the collection exactly when it is nothing for the elements, and misuse
  exactly when it is misuse for them. -/
theorem DeclaredType.resolve_element {t : DeclaredType} {k : Collection}
    (hk : t.collection? = some k) :
    ∃ u, t.element? = .ok u
      ∧ (∀ (s : Scope) (e : Failure),
        (t.resolve s).result = .error e ↔ (u.resolve s).result = .error e)
      ∧ (∀ s : Scope, s.catalog.ExcludesNull →
        (t.resolve s).result =
          (fun element => ⟨.collection k element (-1),
            !t.descriptor.isName && t.nullability.resolve false⟩) <$> (u.resolve s).result)
      ∧ ∀ (c : Catalog) (context : Bool), c.ExcludesNull →
        t.inCatalog? c context =
          Option.map (fun element => ⟨.collection k element (-1),
            t.nullability.resolve context⟩) <$> u.inCatalog? c false := by
  refine ⟨_, element?_of_collection? hk, fun s e => ?_,
    fun s hc => result_resolve_of_collection? hk hc,
    fun c context hc => inCatalog?_of_collection? hk hc context⟩
  rw [result_resolve_eq_outcome (hasStrayKeyword_of_collection? hk),
    result_resolve_eq_outcome (t := zoned _ _ _) rfl, map_eq_error_iff, map_eq_error_iff]
  rfl

/-- The declaration `ROW(i MYUDT ARRAY NULL) ARRAY NULL` in a time zone, and
`MYUDT ARRAY NULL`, stand for arrays of what `ROW(i MYUDT ARRAY NULL)` and
`MYUDT` stand for. -/
theorem DeclaredType.resolve_element_rowArray :
    (∃ u type, { rowArray with timeZone := some ⟨"UTC"⟩ }.element? = .ok u
      ∧ (u.resolve Scope.integers).result = .ok type
      ∧ ({ rowArray with timeZone := some ⟨"UTC"⟩ }.resolve Scope.integers).result
        = .ok ⟨.collection .array type (-1), true⟩)
    ∧ ∃ u type, (nameArray .nullable).element? = .ok u
      ∧ (u.resolve Scope.integers).result = .ok type
      ∧ ((nameArray .nullable).resolve Scope.integers).result
        = .ok ⟨.collection .array type (-1), false⟩ := by
  have hc : Scope.integers.catalog.ExcludesNull := Catalog.excludesNull_ofDialect .standard
  constructor
  · obtain ⟨u, hu, -, h, -⟩ :=
      resolve_element (t := { rowArray with timeZone := some ⟨"UTC"⟩ }) (k := .array) rfl
    cases hu
    exact ⟨_, _, rfl, rfl, h Scope.integers hc⟩
  · obtain ⟨u, hu, -, h, -⟩ := resolve_element (t := nameArray .nullable) (k := .array) rfl
    cases hu
    exact ⟨_, _, rfl, rfl, h Scope.integers hc⟩

end SqlTyping
