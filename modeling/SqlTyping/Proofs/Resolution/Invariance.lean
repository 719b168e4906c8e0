import SqlTyping.Environment
import SqlTyping.Proofs.Resolution.Alike
import SqlTyping.Proofs.Resolution.Checkpoints

/-!
# What resolving sees of a declared type

Resolving sees nothing of a declared type but its gist and, for the
nullability of the outcome, its own nullability. Declared types between
which nothing differs once they are simplified are resolved alike, in any
scope that answers alike for names that are `==`, and a catalog answers
alike for them (`DeclaredType.alike_of_simplified`).

The two runs are not compared directly. Each is compared with a third one,
that of the gist, which both declared types have in common.
-/

namespace SqlTyping

namespace ResolvedType

theorem beq_self (t : ResolvedType) : (t == t) = true := beq_iff_unplaced.2 rfl

theorem beq_join {t u v : ResolvedType} (ht : (t == v) = true) (hu : (u == v) = true) :
    (t == u) = true := by
  rw [beq_iff_unplaced] at ht hu ⊢
  exact ht.trans hu.symm

theorem withNullable_beq {t u : ResolvedType} (h : (t == u) = true) (b : Bool) :
    (t.withNullable b == u.withNullable b) = true := by
  rw [beq_iff_unplaced, unplaced_withNullable, unplaced_withNullable, beq_iff_unplaced.1 h]

/-- Collections of types that are `==` are `==`. -/
theorem collectionOf_beq {t u : ResolvedType} (h : (t == u) = true) (k : Collection)
    (m : Int64) : (collectionOf k t m == collectionOf k u m) = true := by
  rw [beq_iff_unplaced] at h ⊢
  show ResolvedType.mk (.collection k t.unplaced m) false = .mk (.collection k u.unplaced m) false
  rw [h]

/-- Rows of the same fields are `==`. -/
theorem rowOf_beq {fs gs : List ResolvedField} (h : ResolvedField.sameAll fs gs = true) :
    (rowOf fs == rowOf gs) = true := by
  rw [ResolvedField.sameAll_iff_unplaced] at h
  rw [beq_iff_unplaced]
  show ResolvedType.mk (.row (ResolvedField.unplacedAll fs)) false
    = .mk (.row (ResolvedField.unplacedAll gs)) false
  rw [h]

end ResolvedType

/-- **A scope that answers names alike that are `==`**, wherever they
stand. -/
def Scope.Consistent (s : Scope) : Prop :=
  ∀ m n : QualifiedName, (m == n) = true →
    Alike Failure.Alike (· == ·) (s.lookup m) (s.lookup n)

/-- **The scope of an environment answers alike** for names that are `==`:
they have the same text, and so the same key. -/
theorem Environment.consistent_scope (env : Environment) : env.scope.Consistent := by
  intro m n h
  show Alike Failure.Alike (· == ·) (env.lookup m) (env.lookup n)
  unfold Environment.lookup
  rw [QualifiedName.text?_congr h]
  cases n.text? with
  | error e => rfl
  | ok text =>
    dsimp only
    -- a rejection has the place of the name, and that is all that may differ
    cases env.registry.find? (env.catalog.dialect.key text) with
    | none => rfl
    | some t => exact t.beq_self

/-! ## The gist in a scope -/

/-- Keywords make alike collections of types that are `==`. -/
theorem DeclaredType.collected_beq {a b : DeclaredType} (h : a.collection? = b.collection?)
    {t u : ResolvedType} (htu : (t == u) = true) :
    (a.collected t == b.collected u) = true := by
  unfold collected
  rw [h]
  cases b.collection? with
  | none => exact htu
  | some k => exact ResolvedType.collectionOf_beq htu k unboundedSize

section Scopes

variable {s : Scope}

mutual

/-- **The pass over a descriptor is alike for its gist.** -/
theorem Descriptor.alike_onePass_gist (h : s.Consistent) :
    ∀ d : Descriptor, Inquiry.Alike (· == ·) (d.onePass s) (d.gist.onePass s)
  | .builtIn n f span => by
    show Inquiry.Alike _ (Descriptor.onePass s _) (Descriptor.onePass s (.builtIn n f .unknown))
    rw [Descriptor.onePass, Descriptor.onePass]
    cases s.catalog.scalar? n f with
    | none => exact .reject span .unknown rfl
    | some t => exact .pure t.beq_self
  | .collection e k _ => by
    refine (e.alike_onePass_gist h).bind fun t u htu => ?_
    exact .pure (ResolvedType.collectionOf_beq htu k unboundedSize)
  | .row fs _ => by
    refine (DeclaredField.alike_onePass_gist h fs).bind fun ts us htu => ?_
    exact .pure (ResolvedType.rowOf_beq htu)
  | .named n _ => h n n.unplaced n.beq_unplaced

/-- **The pass over a field's type is alike for its gist**, given the
nullability. -/
theorem DeclaredType.alike_onePass_gist (h : s.Consistent) :
    ∀ t : DeclaredType, Inquiry.Alike (· == ·) (t.onePass s)
      ((t.gist.withNullability t.nullability).onePass s)
  | ⟨k, d, b, z, n, span⟩ => by
    have hc := (DeclaredType.mk k d b z n span).collection?_gist
    refine (d.alike_onePass_gist h).bind fun t u htu => ?_
    refine .pure (ResolvedType.withNullable_beq ?_ (n.resolve false))
    exact DeclaredType.collected_beq hc.symm htu

theorem DeclaredField.alike_onePass_gist (h : s.Consistent) :
    ∀ fs : List DeclaredField,
      Inquiry.Alike (fun ts us => ResolvedField.sameAll ts us = true)
        (DeclaredField.onePass s fs) (DeclaredField.onePass s (DeclaredField.gist fs))
  | [] => .pure rfl
  | ⟨x, t⟩ :: fs => by
    rw [DeclaredField.gist_cons, DeclaredField.onePass, DeclaredField.onePass]
    refine (t.alike_onePass_gist h).bind fun type type' ht => ?_
    refine (DeclaredField.alike_onePass_gist h fs).bind fun rest rest' hfs => ?_
    refine .pure ?_
    have ht : type.same type' = true := ht
    simp [ResolvedField.sameAll, Identifier.bare, ht, hfs]

end

end Scopes

/-! ## The gist in a catalog -/

/-- Keywords with the same gist fall short alike, or make the same
collection. -/
theorem alike_collectBy (k : Option Identifier) (t : ResolvedType) :
    Alike Shortfall.Alike Eq (collectBy k t)
      (collectBy (k.map (·.asKeyword.unplaced)) t) := by
  cases k with
  | none => rfl
  | some k =>
    have h : (k.asKeyword.unplaced).value = asKeyword k.value := rfl
    rw [Option.map_some, collectBy, collectBy, h, Collection.ofKeyword?_asKeyword]
    cases Collection.ofKeyword? k.value with
    | none => exact congrArg Shortfall.unknownKeyword (asKeyword_asKeyword k.value).symm
    | some kind => rfl

section Catalogs

variable {c : Catalog}

/-- **What a catalog makes of a declared type** before it gets its
nullability. -/
def DeclaredType.offered (c : Catalog) (t : DeclaredType) :
    Except Shortfall ResolvedType := do
  let named ← t.descriptor.inCatalog c
  collectBy t.keyword named

/-- The nullability comes last. -/
theorem DeclaredType.inCatalog_eq_offered (context : Bool) (t : DeclaredType) :
    t.inCatalog c context = do
      let type ← t.offered c
      return type.withNullable (t.nullability.resolve context) := by
  rw [inCatalog_eq, offered, bind_assoc]

/-- **Alike before nullability, alike with it**, as far as what the two
nullabilities make of one type is the same. -/
theorem DeclaredType.alike_inCatalog {R : ResolvedType → ResolvedType → Prop}
    {a b : DeclaredType} {context : Bool}
    (h : Alike Shortfall.Alike Eq (a.offered c) (b.offered c))
    (hR : ∀ type : ResolvedType, R (type.withNullable (a.nullability.resolve context))
      (type.withNullable (b.nullability.resolve context))) :
    Alike Shortfall.Alike R (a.inCatalog c context) (b.inCatalog c context) := by
  rw [inCatalog_eq_offered, inCatalog_eq_offered]
  refine h.bind fun type type' ht => ?_
  subst ht
  exact hR type

mutual

/-- **A catalog answers for a descriptor as for its gist.** -/
theorem Descriptor.alike_inCatalog_gist :
    ∀ d : Descriptor, Alike Shortfall.Alike Eq (d.inCatalog c) (d.gist.inCatalog c)
  | .builtIn n f span => by
    show Alike _ _ (Descriptor.inCatalog c _) (Descriptor.inCatalog c (.builtIn n f .unknown))
    rw [Descriptor.inCatalog, Descriptor.inCatalog]
    cases c.scalar? n f with
    | none => rfl
    | some t => rfl
  | .collection e k _ => by
    refine e.alike_inCatalog_gist.bind fun t u htu => ?_
    subst htu
    rfl
  | .row fs _ => by
    refine (DeclaredField.alike_inCatalog_gist fs).bind fun ts us htu => ?_
    subst htu
    rfl
  | .named n _ => rfl

/-- **A catalog answers for a declared type as for its gist**, before
nullability. -/
theorem DeclaredType.alike_offered_gist :
    ∀ t : DeclaredType, Alike Shortfall.Alike Eq (t.offered c) (t.gist.offered c)
  | ⟨k, d, b, z, n, span⟩ => by
    rw [DeclaredType.gist_eq]
    refine d.alike_inCatalog_gist.bind fun t u htu => ?_
    subst htu
    exact alike_collectBy k t

theorem DeclaredField.alike_inCatalog_gist :
    ∀ fs : List DeclaredField, Alike Shortfall.Alike Eq
      (DeclaredField.inCatalog c fs) (DeclaredField.inCatalog c (DeclaredField.gist fs))
  | [] => rfl
  | ⟨x, t⟩ :: fs => by
    rw [DeclaredField.gist_cons, DeclaredField.inCatalog, DeclaredField.inCatalog]
    -- the gist of a field has the nullability that its type's gist lacks
    have ht : Alike Shortfall.Alike Eq (t.inCatalog c false)
        ((t.gist.withNullability t.nullability).inCatalog c false) :=
      DeclaredType.alike_inCatalog t.alike_offered_gist fun _ => rfl
    refine ht.bind fun type type' htype => ?_
    refine (DeclaredField.alike_inCatalog_gist fs).bind fun rest rest' hrest => ?_
    subst htype hrest
    rfl

end

end Catalogs

/-! ## Two declared types with one gist -/

section Pairs

variable {a b : DeclaredType}

theorem Descriptor.isName_gist (d : Descriptor) : d.gist.isName = d.isName := by
  cases d <;> rfl

theorem DeclaredType.collection?_eq_of_gist (h : a.gist = b.gist) :
    a.collection? = b.collection? := by
  rw [← a.collection?_gist, h, b.collection?_gist]

/-- The descriptors of types with one gist have one gist. -/
theorem DeclaredType.descriptor_gist_eq_of_gist (h : a.gist = b.gist) :
    a.descriptor.gist = b.descriptor.gist := by
  rw [← a.descriptor_gist, h, b.descriptor_gist]

/-- Of types with one gist, both are names or neither is. -/
theorem DeclaredType.isName_eq_of_gist (h : a.gist = b.gist) :
    a.descriptor.isName = b.descriptor.isName := by
  rw [← a.descriptor.isName_gist, descriptor_gist_eq_of_gist h, b.descriptor.isName_gist]

/-- Types with one gist make of types that are `==` what is so up to
nullability. -/
theorem DeclaredType.sameButNull_finished (h : a.gist = b.gist) {t u : ResolvedType}
    (htu : (t == u) = true) : (a.finished t).SameButNull (b.finished u) := by
  unfold ResolvedType.SameButNull
  rw [a.withNullable_finished, b.withNullable_finished]
  exact ResolvedType.withNullable_beq (collected_beq (collection?_eq_of_gist h) htu) false

/-- With the same nullability besides, they make what is `==`. -/
theorem DeclaredType.finished_beq (h : a.gist = b.gist) (hn : a.nullability = b.nullability)
    {t u : ResolvedType} (htu : (t == u) = true) :
    (a.finished t == b.finished u) = true := by
  have hc := collected_beq (collection?_eq_of_gist h) htu
  unfold finished
  rw [isName_eq_of_gist h, hn]
  cases b.descriptor.isName with
  | true => exact hc
  | false => exact ResolvedType.withNullable_beq hc _

/-- The passes over the descriptors of types with one gist are alike. -/
theorem DeclaredType.alike_onePass_descriptor {s : Scope} (hs : s.Consistent)
    (h : a.gist = b.gist) :
    Inquiry.Alike (· == ·) (a.descriptor.onePass s) (b.descriptor.onePass s) := by
  have hb := b.descriptor.alike_onePass_gist hs
  rw [← descriptor_gist_eq_of_gist h] at hb
  refine Alike.join ?_ ?_ (a.descriptor.alike_onePass_gist hs) hb
  · intro e f g he hf
    exact Eq.trans he (Eq.symm hf)
  · intro t u v ht hu
    exact ResolvedType.beq_join ht hu

/-- The first unknown keywords of types with one gist are equal but for
case and place. -/
theorem DeclaredType.unknownKeyword?_eq_of_gist (h : a.gist = b.gist) :
    a.unknownKeyword?.map gistKeyword = b.unknownKeyword?.map gistKeyword := by
  rw [← a.unknownKeyword?_gist, h, b.unknownKeyword?_gist]

/-- **Types with one gist are resolved alike**, as far as what they make of
types that are `==` is alike. -/
theorem DeclaredType.alike_resolve {s : Scope} {R : ResolvedType → ResolvedType → Prop}
    (hs : s.Consistent) (h : a.gist = b.gist)
    (hR : ∀ t u : ResolvedType, (t == u) = true → R (a.finished t) (b.finished u)) :
    Inquiry.Alike R (a.resolve s) (b.resolve s) := by
  -- both have a first unknown keyword, the same but for case and place, or neither has
  have hk := unknownKeyword?_eq_of_gist h
  rw [a.resolve_eq s, b.resolve_eq s]
  cases ha : a.unknownKeyword? with
  | some k =>
    cases hb : b.unknownKeyword? with
    | none => rw [ha, hb] at hk; cases hk
    | some l =>
      rw [ha, hb] at hk
      have hkl : asKeyword k.1 = asKeyword l.1 := congrArg Prod.fst (Option.some.inj hk)
      exact .reject k.2 l.2 (congrArg Cause.unknownDatatype hkl)
  | none =>
    cases hb : b.unknownKeyword? with
    | some l => rw [ha, hb] at hk; cases hk
    | none =>
      refine (alike_onePass_descriptor hs h).bind fun t u htu => ?_
      exact .pure (hR t u htu)

/-- What a catalog has to offer for types with one gist is alike. -/
theorem DeclaredType.alike_offered (c : Catalog) (h : a.gist = b.gist) :
    Alike Shortfall.Alike Eq (a.offered c) (b.offered c) := by
  have hb := b.alike_offered_gist (c := c)
  rw [← h] at hb
  refine Alike.join ?_ ?_ a.alike_offered_gist hb
  · intro e f g he hf
    exact Eq.trans he (Eq.symm hf)
  · rintro t u v rfl rfl
    rfl

/-- Answers stay alike where not being on offer is one. -/
theorem Alike.tolerate {R : ResolvedType → ResolvedType → Prop}
    {x y : Except Shortfall ResolvedType} (h : Alike Shortfall.Alike R x y) :
    Alike Misuse.Alike (Option.Rel R) (Shortfall.tolerate x) (Shortfall.tolerate y) := by
  cases x with
  | ok t =>
    cases y with
    | ok u => exact .some h
    | error f => exact h.elim
  | error e =>
    cases y with
    | ok u => exact h.elim
    | error f =>
      have h : e.folded = f.folded := h
      cases e with
      | notOffered =>
        cases f with
        | notOffered => exact .none
        | unknownKeyword l => cases h
      | unknownKeyword k =>
        cases f with
        | notOffered => cases h
        | unknownKeyword l =>
          exact congrArg Misuse.unknownCollection (Shortfall.unknownKeyword.inj h)

end Pairs

/-- **Nothing counts for resolving but what differs.** When nothing differs
between two declared types once they are simplified, a scope that answers
alike for names that are `==` resolves both to types that are equal up to
the nullability of the whole, or rejects both for the same cause and name;
when it is never misused itself, neither is resolving. A catalog has such
types for both, has nothing for both, or is misused by both. Declared types
with the same nullability have the same one when resolved, too. -/
theorem DeclaredType.alike_of_simplified {a b : DeclaredType}
    (h : a.simplified.mismatch? b.simplified = .ok none) :
    (∀ s : Scope, s.Consistent →
      Alike Failure.Alike ResolvedType.SameButNull (a.resolve s).result (b.resolve s).result
      ∧ (a.nullability = b.nullability →
        Alike Failure.Alike (· == ·) (a.resolve s).result (b.resolve s).result)
      ∧ (s.Safe → (a.resolve s).Safe ∧ (b.resolve s).Safe))
    ∧ ∀ (c : Catalog) (context : Bool),
      Alike Misuse.Alike (Option.Rel ResolvedType.SameButNull)
        (a.inCatalog? c context) (b.inCatalog? c context)
      ∧ (a.nullability = b.nullability →
        Alike Misuse.Alike (Option.Rel (· == ·))
          (a.inCatalog? c context) (b.inCatalog? c context)) := by
  have hg : a.gist = b.gist := gist_eq_iff_mismatch?.2 h
  constructor
  · intro s hs
    refine ⟨?_, fun hn => ?_, fun hsafe => ⟨a.safe_resolve hsafe, b.safe_resolve hsafe⟩⟩
    · exact alike_resolve hs hg fun t u htu => sameButNull_finished hg htu
    · exact alike_resolve hs hg fun t u htu => finished_beq hg hn htu
  · intro c context
    have ho := alike_offered c hg
    refine ⟨?_, fun hn => ?_⟩
    · refine (alike_inCatalog ho fun type => ?_).tolerate
      exact ResolvedType.beq_self (type.withNullable false)
    · refine (alike_inCatalog ho fun type => ?_).tolerate
      rw [hn]
      exact ResolvedType.beq_self _

/-- The standard environment in which `MYUDT` is a distinct type over
`INTEGER`. -/
def Environment.myudt : Environment :=
  ⟨.standard, Registry.empty.insert "MYUDT"
    (.defined (.ofPath "MYUDT") ⟨.scalar .integer .none, false⟩)⟩

/-- The declaration ``ROW("i" MYUDT `array` NULL) Array NOT NULL`` in a time
zone, standing somewhere and based on something else. -/
def DeclaredType.otherRowArray : DeclaredType :=
  let field : DeclaredType :=
    ⟨some ⟨"array", some '\x60', .unknown⟩, .ofName (.ofPath "MYUDT"),
      .ofBuiltIn .integer, some ⟨"UTC"⟩, .nullable, ⟨⟨1, 5⟩, ⟨1, 20⟩⟩⟩
  ⟨some (.bare "Array"), .row [⟨⟨"i", some '\x22', .unknown⟩, field⟩] ⟨⟨1, 1⟩, ⟨1, 21⟩⟩,
    .ofBuiltIn .date, some ⟨"UTC"⟩, .notNull, ⟨⟨1, 1⟩, ⟨1, 30⟩⟩⟩

/-- Arrays of rows that are the same but for what does not count are
resolved to types that are equal up to nullability. -/
theorem DeclaredType.sameButNull_rowArray :
    rowArray.simplified.mismatch? otherRowArray.simplified = .ok none
      ∧ Environment.myudt.scope.Consistent
      ∧ ∃ t u, (rowArray.resolve Environment.myudt.scope).result = .ok t
        ∧ (otherRowArray.resolve Environment.myudt.scope).result = .ok u
        ∧ t.SameButNull u ∧ t.nullable = true ∧ u.nullable = false := by
  have h : rowArray.simplified.mismatch? otherRowArray.simplified = .ok none := by rfl
  have hs := Environment.myudt.consistent_scope
  have hr := ((alike_of_simplified h).1 _ hs).1
  refine ⟨h, hs, _, _, rfl, rfl, hr, rfl, rfl⟩

end SqlTyping
