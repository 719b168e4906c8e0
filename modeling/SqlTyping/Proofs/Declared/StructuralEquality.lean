import SqlTyping.Proofs.Declared.Canonical

/-!
# Structural equality

Declared types are **structurally equal** when comparing them finds
nothing. That is equality of canonical forms, so structural equality is an
equivalence and `==` is finer than it
(`DeclaredType.structurallyEqual_iff_canonical`).

`==` is strictly finer: it tells bases, the quotes of field names and the
nullability of the whole apart, which canonical forms do not have.
-/

namespace SqlTyping

mutual

/-- Descriptors that are `==` have one canonical form. -/
theorem Descriptor.canonical_eq_of_same :
    ∀ {a b : Descriptor}, a.same b = true → a.canonical = b.canonical
  | .builtIn n f _, b, h => by
    cases b with
    | builtIn n' f' _ =>
      simp only [Descriptor.same, Bool.and_eq_true, beq_iff_eq] at h
      obtain ⟨rfl, rfl⟩ := h
      rfl
    | _ => simp [Descriptor.same] at h
  | .collection e k _, b, h => by
    cases b with
    | collection e' k' _ =>
      simp only [Descriptor.same, Bool.and_eq_true, beq_iff_eq] at h
      obtain ⟨he, rfl⟩ := h
      rw [Descriptor.canonical, Descriptor.canonical, Descriptor.canonical_eq_of_same he]
    | _ => simp [Descriptor.same] at h
  | .row fs _, b, h => by
    cases b with
    | row gs _ =>
      simp only [Descriptor.same] at h
      rw [Descriptor.canonical, Descriptor.canonical, DeclaredField.canonical_eq_of_sameAll h]
    | _ => simp [Descriptor.same] at h
  | .named n _, b, h => by
    cases b with
    | named n' _ =>
      simp only [Descriptor.same] at h
      rw [Descriptor.canonical, Descriptor.canonical, QualifiedName.beq_iff_unplaced.1 h]
    | _ => simp [Descriptor.same] at h

/-- **Declared types that are `==` have one canonical form**, and the
nullability that it lacks is the same too. -/
theorem DeclaredType.canonical_eq_of_same :
    ∀ {a b : DeclaredType}, a.same b = true →
      a.canonical = b.canonical ∧ a.nullability = b.nullability
  | ⟨k, d, b, z, n, s⟩, ⟨k', d', b', z', n', s'⟩, h => by
    simp only [DeclaredType.same, Bool.and_eq_true, beq_iff_eq] at h
    obtain ⟨⟨⟨⟨hk, hd⟩, -⟩, rfl⟩, rfl⟩ := h
    rw [DeclaredType.canonical, DeclaredType.canonical, Descriptor.canonical_eq_of_same hd,
      Identifier.option_beq_iff_unplaced.1 hk]
    exact ⟨rfl, rfl⟩

theorem DeclaredField.canonical_eq_of_sameAll :
    ∀ {fs gs : List DeclaredField}, DeclaredField.sameAll fs gs = true →
      DeclaredField.canonical fs = DeclaredField.canonical gs
  | [], gs, h => by
    cases gs with
    | nil => rfl
    | cons g gs => simp [DeclaredField.sameAll] at h
  | ⟨x, t⟩ :: fs, gs, h => by
    cases gs with
    | nil => simp [DeclaredField.sameAll] at h
    | cons g gs =>
      obtain ⟨y, u⟩ := g
      simp only [DeclaredField.sameAll, Bool.and_eq_true] at h
      obtain ⟨⟨hx, ht⟩, hfs⟩ := h
      -- a canonical field has its nullability back, so that of the types is needed here
      obtain ⟨hc, hn⟩ := DeclaredType.canonical_eq_of_same ht
      rw [DeclaredField.canonical_cons_eq_iff]
      exact ⟨(Identifier.beq_iff.1 hx).1, hc, hn, DeclaredField.canonical_eq_of_sameAll hfs⟩

end

/-- **Structural equality**: comparing two declared types finds nothing. -/
def DeclaredType.StructurallyEqual (a b : DeclaredType) : Prop := a.mismatch? b = .ok none

/-- **Structural equality is equality of canonical forms.** It is therefore
an equivalence, and declared types that are `==` are structurally equal. -/
theorem DeclaredType.structurallyEqual_iff_canonical :
    (∀ a b : DeclaredType, a.StructurallyEqual b ↔ a.canonical = b.canonical)
      ∧ Equivalence StructurallyEqual
      ∧ ∀ a b : DeclaredType, (a == b) = true → a.StructurallyEqual b := by
  have h : ∀ a b : DeclaredType, a.StructurallyEqual b ↔ a.canonical = b.canonical :=
    fun _ _ => mismatch?_eq_ok_none_iff
  refine ⟨h, ⟨fun a => ?_, fun {a b} hab => ?_, fun {a b c} hab hbc => ?_⟩, fun a b hab => ?_⟩
  · exact (h a a).2 rfl
  · exact (h b a).2 ((h a b).1 hab).symm
  · exact (h a c).2 (((h a b).1 hab).trans ((h b c).1 hbc))
  · exact (h a b).2 (canonical_eq_of_same hab).1

/-- The declaration `ROW("d" DECIMAL(5, 2) NOT NULL) ARRAY` at a place. -/
def DeclaredType.decimalRows (span : Span) : DeclaredType :=
  let field : DeclaredType :=
    of none (.builtIn .decimal ⟨some 5, some 2⟩ span) none none .notNull span
  collectionOf (.bareAt span "ARRAY") (.row [⟨⟨"d", some '\x22', span⟩, field⟩] span) span

/-- Arrays of rows that stand at different places are `==`, and so they are
structurally equal. -/
theorem DeclaredType.structurallyEqual_decimalRows :
    decimalRows ⟨⟨1, 1⟩, ⟨1, 40⟩⟩ ≠ decimalRows .unknown
      ∧ (decimalRows ⟨⟨1, 1⟩, ⟨1, 40⟩⟩ == decimalRows .unknown) = true
      ∧ (decimalRows ⟨⟨1, 1⟩, ⟨1, 40⟩⟩).StructurallyEqual (decimalRows .unknown) := by
  have hne : decimalRows ⟨⟨1, 1⟩, ⟨1, 40⟩⟩ ≠ decimalRows .unknown := by
    intro h
    exact absurd (congrArg DeclaredType.span h) (by decide)
  have heq : (decimalRows ⟨⟨1, 1⟩, ⟨1, 40⟩⟩ == decimalRows .unknown) = true := rfl
  exact ⟨hne, heq, structurallyEqual_iff_canonical.2.2 _ _ heq⟩

end SqlTyping
