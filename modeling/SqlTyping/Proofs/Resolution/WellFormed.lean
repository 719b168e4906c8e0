import SqlTyping.Proofs.Resolution.OnePass

/-!
# Well-formed types

A resolved type is **well-formed** for a dialect when every scalar type in
it is the type of a scalar name, with no facet above the dialect's limits,
and no collection in it has a bound on its size. The types in the elements
of collections, in the fields of rows and in the definitions of
user-defined types are in it, too.

A scope that gives well-formed types for single names, built-in and
user-defined ones, resolves everything to well-formed types
(`DeclaredType.wellFormed_resolve`).
-/

namespace SqlTyping

/-- **Facets within limits**: no number exceeds its limit, where there are
both. -/
def Facets.Within (f limits : Facets) : Prop :=
  (∀ p m, f.precision = some p → limits.precision = some m → p ≤ m)
    ∧ ∀ s m, f.scale = some s → limits.scale = some m → s ≤ m

/-- Facets that are cut down to limits are within them, whatever they were
before. -/
theorem Facets.within_capped (f limits : Facets) : (f.capped limits).Within limits :=
  ⟨fun _ _ hp hm => le_of_cap_eq_some hp hm, fun _ _ hs hm => le_of_cap_eq_some hs hm⟩

mutual

/-- **Well-formed for a dialect.** -/
def ResolvedType.WellFormed (d : Dialect) : ResolvedType → Prop
  | ⟨s, _⟩ => s.WellFormed d

/-- Well-formed shapes. -/
def Shape.WellFormed (d : Dialect) : Shape → Prop
  | .scalar n f => n ∉ [BuiltIn.array, .multiset, .row] ∧ f.Within (d.limits n)
  | .collection _ e m => e.WellFormed d ∧ m = -1
  | .row fs => ResolvedField.AllWellFormed d fs
  | .userDefined _ definition => definition.WellFormed d

/-- Fields of well-formed types. -/
def ResolvedField.AllWellFormed (d : Dialect) : List ResolvedField → Prop
  | [] => True
  | ⟨_, t⟩ :: fs => t.WellFormed d ∧ ResolvedField.AllWellFormed d fs

end

/-! ## Making well-formed types -/

namespace ResolvedType.WellFormed

variable {d : Dialect} {t : ResolvedType}

theorem withNullable (h : t.WellFormed d) (b : Bool) : (t.withNullable b).WellFormed d := by
  obtain ⟨s, c⟩ := t
  exact h

theorem collectionOf (h : t.WellFormed d) (k : Collection) :
    (ResolvedType.collectionOf k t unboundedSize).WellFormed d := ⟨h, rfl⟩

theorem rowOf {fs : List ResolvedField} (h : ResolvedField.AllWellFormed d fs) :
    (ResolvedType.rowOf fs).WellFormed d := h

theorem defined (h : t.WellFormed d) (n : QualifiedName) :
    (ResolvedType.defined n t).WellFormed d := h

end ResolvedType.WellFormed

/-- No scalar type is named like a constructor. -/
theorem BuiltIn.not_mem_of_isScalar {n : BuiltIn} (h : n.isScalar = true) :
    n ∉ [array, multiset, row] := by
  revert h
  cases n <;> decide

/-- **A dialect's scalar types are well-formed**, defaults above the limits
included: they are cut down like facets that are given. -/
theorem Dialect.wellFormed_of_scalar? {d : Dialect} {n : BuiltIn} {f : Facets}
    {t : ResolvedType} (h : d.scalar? n f = some t) : t.WellFormed d := by
  unfold scalar? at h
  split at h
  case isFalse => cases h
  case isTrue hn =>
    cases h
    rw [Bool.and_eq_true] at hn
    exact ⟨BuiltIn.not_mem_of_isScalar hn.1, Facets.within_capped _ _⟩

/-! ## What inquiries give -/

/-- **Every answer has a property.** -/
def Inquiry.Gives {α : Type} (P : α → Prop) (x : Inquiry α) : Prop :=
  ∀ a, x.result = .ok a → P a

namespace Inquiry.Gives

variable {α β : Type} {P : α → Prop} {Q : β → Prop}

theorem pure {a : α} (h : P a) : Gives P (Pure.pure a) := by
  intro b hb
  cases hb
  exact h

theorem reject (span : Span) (cause : Cause) : Gives P (Inquiry.reject span cause) := by
  intro b hb
  cases hb

/-- What one inquiry after another gives. -/
theorem bind {x : Inquiry α} {f : α → Inquiry β} (h : Gives P x)
    (hf : ∀ a, P a → Gives Q (f a)) : Gives Q (x >>= f) := by
  intro b hb
  rw [result_bind] at hb
  obtain ⟨a, ha, hb⟩ := exists_of_bind_eq_ok hb
  exact hf a (h a ha) b hb

end Inquiry.Gives

/-! ## Resolving to well-formed types -/

/-- **A scope of well-formed types**: those of its catalog, and those that
names are bound to. -/
structure Scope.WellFormed (d : Dialect) (s : Scope) : Prop where
  /-- The built-in types are well-formed. -/
  scalar {n : BuiltIn} {f : Facets} {t : ResolvedType} (h : s.catalog.scalar? n f = some t) :
    t.WellFormed d
  /-- The user-defined types are well-formed. -/
  lookup {n : QualifiedName} {t : ResolvedType} (h : s.lookup n = .ok t) : t.WellFormed d

section Scopes

variable {d : Dialect} {s : Scope}

/-- Keywords make well-formed collections of well-formed types. -/
theorem DeclaredType.wellFormed_collected (t : DeclaredType) {named : ResolvedType}
    (h : named.WellFormed d) : (t.collected named).WellFormed d := by
  unfold collected
  cases t.collection? with
  | none => exact h
  | some k => exact h.collectionOf k

theorem DeclaredType.wellFormed_finished (t : DeclaredType) {named : ResolvedType}
    (h : named.WellFormed d) : (t.finished named).WellFormed d := by
  have hc := t.wellFormed_collected h
  unfold finished
  cases t.descriptor.isName with
  | true => exact hc
  | false => exact hc.withNullable _

mutual

/-- The pass over a descriptor gives a well-formed type. -/
theorem Descriptor.wellFormed_onePass (hs : s.WellFormed d) :
    ∀ e : Descriptor, (e.onePass s).Gives (·.WellFormed d)
  | .builtIn n f span => by
    rw [Descriptor.onePass]
    cases hn : s.catalog.scalar? n f with
    | none => exact .reject span _
    | some t => exact .pure (hs.scalar hn)
  | .collection e k _ =>
    (e.wellFormed_onePass hs).bind fun _ he => .pure (he.collectionOf k)
  | .row fs _ =>
    (DeclaredField.wellFormed_onePass hs fs).bind fun _ hfs => .pure (.rowOf hfs)
  | .named _ _ => fun _ h => hs.lookup h

/-- **One pass gives a well-formed type.** -/
theorem DeclaredType.wellFormed_onePass (hs : s.WellFormed d) :
    ∀ t : DeclaredType, (t.onePass s).Gives (·.WellFormed d)
  | ⟨_, e, _, _, _, _⟩ => (e.wellFormed_onePass hs).bind fun _ he =>
    .pure ((DeclaredType.wellFormed_collected _ he).withNullable _)

theorem DeclaredField.wellFormed_onePass (hs : s.WellFormed d) :
    ∀ fs : List DeclaredField,
      (DeclaredField.onePass s fs).Gives (ResolvedField.AllWellFormed d)
  | [] => .pure trivial
  | ⟨_, t⟩ :: fs => (t.wellFormed_onePass hs).bind fun _ ht =>
    (DeclaredField.wellFormed_onePass hs fs).bind fun _ hfs => .pure ⟨ht, hfs⟩

end

/-- **A scope of well-formed types resolves to well-formed types.** -/
theorem DeclaredType.wellFormed_resolve (hs : s.WellFormed d) (t : DeclaredType) :
    (t.resolve s).Gives (·.WellFormed d) := by
  rw [t.resolve_eq s]
  cases t.unknownKeyword? with
  | some u => exact .reject u.2 _
  | none =>
    exact (t.descriptor.wellFormed_onePass hs).bind fun _ h => .pure (t.wellFormed_finished h)

/-- **What its catalog offers is well-formed as well.** -/
theorem DeclaredType.wellFormed_of_inCatalog? (hs : s.WellFormed d) {t : DeclaredType}
    {type : ResolvedType} (h : t.inCatalog? s.catalog false = .ok (some type)) :
    type.WellFormed d := by
  have hmade : t.inCatalog s.catalog false = .ok type := Shortfall.tolerate_eq_some_iff.1 h
  refine t.wellFormed_onePass hs _ ?_
  rw [onePass_of_inCatalog hmade]
  rfl

end Scopes

end SqlTyping
