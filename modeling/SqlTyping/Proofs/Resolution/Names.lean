import Mathlib.Data.List.Forall2
import SqlTyping.Proofs.Resolution.Invariance

/-!
# The names that resolving looks up

Of all names in a scope, resolving a declared type looks up those that
occur in it. Two scopes over one catalog that answer alike for these
resolve the declared type alike, whatever else they hold
(`DeclaredType.resolve_congr`). The names may even be others in one scope
than in the other, as long as what is answered for each and for the name in
its place is alike (`DeclaredType.resolve_renamed`).

What counts as alike is left open, as long as types made in the same way
of types that are alike are alike too, and a failure is like itself:
resolved types may be compared by `=` or by `==`, and there may be other
ways.
-/

namespace SqlTyping

mutual

/-- The names of user-defined types in a descriptor. -/
def Descriptor.names : Descriptor → List QualifiedName
  | .builtIn _ _ _ => []
  | .collection e _ _ => e.names
  | .row fs _ => DeclaredField.names fs
  | .named n _ => [n]

/-- **The names of user-defined types in a declared type**, from left to
right. -/
def DeclaredType.names : DeclaredType → List QualifiedName
  | ⟨_, d, _, _, _, _⟩ => d.names

/-- The names of user-defined types in the fields of a row. -/
def DeclaredField.names : List DeclaredField → List QualifiedName
  | [] => []
  | ⟨_, t⟩ :: fs => t.names ++ DeclaredField.names fs

end

/-! ## Other names -/

mutual

/-- The descriptor with another name in the place of each. -/
def Descriptor.renamed (f : QualifiedName → QualifiedName) : Descriptor → Descriptor
  | .builtIn n g s => .builtIn n g s
  | .collection e k s => .collection (e.renamed f) k s
  | .row fs s => .row (DeclaredField.renamed f fs) s
  | .named n s => .named (f n) s

/-- **The declared type with another name in the place of each**, in its
base too. -/
def DeclaredType.renamed (f : QualifiedName → QualifiedName) : DeclaredType → DeclaredType
  | ⟨k, d, b, z, n, s⟩ => ⟨k, d.renamed f, b.renamed f, z, n, s⟩

/-- The fields of a row with another name in the place of each. -/
def DeclaredField.renamed (f : QualifiedName → QualifiedName) :
    List DeclaredField → List DeclaredField
  | [] => []
  | ⟨x, t⟩ :: fs => ⟨x, t.renamed f⟩ :: DeclaredField.renamed f fs

end

section Renaming

variable (f : QualifiedName → QualifiedName)

mutual

theorem Descriptor.keywords_renamed : ∀ d : Descriptor, (d.renamed f).keywords = d.keywords
  | .builtIn _ _ _ => rfl
  | .collection e _ _ => e.keywords_renamed
  | .row fs _ => DeclaredField.keywords_renamed fs
  | .named _ _ => rfl

/-- **A declared type has its keywords under other names.** -/
theorem DeclaredType.keywords_renamed :
    ∀ t : DeclaredType, (t.renamed f).keywords = t.keywords
  | ⟨k, d, b, z, n, s⟩ => by
    rw [DeclaredType.renamed, DeclaredType.keywords, DeclaredType.keywords, d.keywords_renamed]

theorem DeclaredField.keywords_renamed : ∀ fs : List DeclaredField,
    DeclaredField.keywords (DeclaredField.renamed f fs) = DeclaredField.keywords fs
  | [] => rfl
  | ⟨x, t⟩ :: fs => by
    rw [DeclaredField.renamed, DeclaredField.keywords, DeclaredField.keywords,
      t.keywords_renamed, DeclaredField.keywords_renamed fs]

end

/-- A declared type makes the same of a type under other names. -/
theorem DeclaredType.finished_renamed (t : DeclaredType) :
    (t.renamed f).finished = t.finished := by
  obtain ⟨k, d, b, z, n, s⟩ := t
  funext named
  cases d <;> rfl

mutual

theorem Descriptor.renamed_id : ∀ d : Descriptor, d.renamed id = d
  | .builtIn _ _ _ => rfl
  | .collection e _ _ => by rw [Descriptor.renamed, e.renamed_id]
  | .row fs _ => by rw [Descriptor.renamed, DeclaredField.renamed_id fs]
  | .named _ _ => rfl

theorem DeclaredType.renamed_id : ∀ t : DeclaredType, t.renamed id = t
  | ⟨k, d, b, z, n, s⟩ => by rw [DeclaredType.renamed, d.renamed_id, b.renamed_id]

theorem DeclaredField.renamed_id : ∀ fs : List DeclaredField, DeclaredField.renamed id fs = fs
  | [] => rfl
  | ⟨x, t⟩ :: fs => by rw [DeclaredField.renamed, t.renamed_id, DeclaredField.renamed_id fs]

end

end Renaming

/-! ## Relations that building types respects -/

/-- Fields with one name and related types. -/
def ResolvedField.Related (R : ResolvedType → ResolvedType → Prop)
    (f g : ResolvedField) : Prop :=
  f.name = g.name ∧ R f.type g.type

/-- **A relation that all ways to build a type respect.** -/
structure ResolvedType.Congruence (R : ResolvedType → ResolvedType → Prop) : Prop where
  /-- Built-in types are related to themselves. -/
  refl (t : ResolvedType) : R t t
  /-- Nullability is respected. -/
  withNullable {t u : ResolvedType} (h : R t u) (b : Bool) :
    R (t.withNullable b) (u.withNullable b)
  /-- Collections are respected. -/
  collectionOf {t u : ResolvedType} (h : R t u) (k : Collection) (m : Int64) :
    R (.collectionOf k t m) (.collectionOf k u m)
  /-- Rows are respected. -/
  rowOf {fs gs : List ResolvedField} (h : List.Forall₂ (ResolvedField.Related R) fs gs) :
    R (.rowOf fs) (.rowOf gs)

namespace ResolvedType

/-- Building types respects `=`. -/
theorem congruence_eq : Congruence Eq where
  refl _ := rfl
  withNullable h _ := h ▸ rfl
  collectionOf h _ _ := h ▸ rfl
  rowOf {fs gs} h := by
    refine congrArg ResolvedType.rowOf ?_
    induction h with
    | nil => rfl
    | @cons f g fs gs hf h ih =>
      obtain ⟨x, t⟩ := f
      obtain ⟨y, u⟩ := g
      obtain ⟨rfl, rfl⟩ := hf
      rw [ih]

/-- Building types respects `==`. -/
theorem congruence_beq : Congruence (· == ·) where
  refl := beq_self
  withNullable := withNullable_beq
  collectionOf := collectionOf_beq
  rowOf {fs gs} h := by
    refine rowOf_beq ?_
    induction h with
    | nil => rfl
    | @cons f g fs gs hf h ih =>
      obtain ⟨x, t⟩ := f
      obtain ⟨y, u⟩ := g
      obtain ⟨rfl, ht⟩ := hf
      have ht : t.same u = true := ht
      simp [ResolvedField.sameAll, ht, ih]

end ResolvedType

/-- Outcomes that are alike up to `=` are equal. -/
theorem alike_eq_iff {ε α : Type} {x y : Except ε α} : Alike Eq Eq x y ↔ x = y := by
  cases x <;> cases y <;> simp [Alike]

/-! ## Resolving in two scopes -/

section Scopes

variable {E : Failure → Failure → Prop} {R : ResolvedType → ResolvedType → Prop}
  {s s' : Scope} {f : QualifiedName → QualifiedName}

/-- Keywords make related collections of related types. -/
theorem DeclaredType.collected_congr (hR : ResolvedType.Congruence R) (t : DeclaredType)
    {u v : ResolvedType} (h : R u v) : R (t.collected u) (t.collected v) := by
  unfold collected
  cases t.collection? with
  | none => exact h
  | some k => exact hR.collectionOf h k unboundedSize

mutual

/-- **The pass over a descriptor depends on what is answered for its
names**, and not on the names themselves. -/
theorem Descriptor.onePass_renamed (hE : ∀ e, E e e) (hR : ResolvedType.Congruence R)
    (hc : s.catalog = s'.catalog) : ∀ d : Descriptor,
    (∀ n ∈ d.names, Alike E R (s.lookup n) (s'.lookup (f n))) →
      Alike E R (d.onePass s).result ((d.renamed f).onePass s').result
  | .builtIn n g span, _ => by
    rw [Descriptor.renamed, Descriptor.onePass, Descriptor.onePass, hc]
    cases s'.catalog.scalar? n g with
    | none => exact hE _
    | some t => exact hR.refl t
  | .collection e k _, h => by
    rw [Descriptor.renamed, Descriptor.onePass, Descriptor.onePass, Inquiry.result_bind,
      Inquiry.result_bind]
    exact (e.onePass_renamed hE hR hc h).bind fun t u htu =>
      hR.collectionOf htu k unboundedSize
  | .row fs _, h => by
    rw [Descriptor.renamed, Descriptor.onePass, Descriptor.onePass, Inquiry.result_bind,
      Inquiry.result_bind]
    exact (DeclaredField.onePass_renamed hE hR hc fs h).bind fun ts us htu => hR.rowOf htu
  | .named n _, h => h n (List.mem_singleton_self n)

theorem DeclaredType.onePass_renamed (hE : ∀ e, E e e) (hR : ResolvedType.Congruence R)
    (hc : s.catalog = s'.catalog) : ∀ t : DeclaredType,
    (∀ n ∈ t.names, Alike E R (s.lookup n) (s'.lookup (f n))) →
      Alike E R (t.onePass s).result ((t.renamed f).onePass s').result
  | ⟨k, d, b, z, n, span⟩, h => by
    rw [DeclaredType.renamed, DeclaredType.onePass, DeclaredType.onePass, Inquiry.result_bind,
      Inquiry.result_bind]
    refine (d.onePass_renamed hE hR hc h).bind fun t u htu => ?_
    exact hR.withNullable (DeclaredType.collected_congr hR _ htu) (n.resolve false)

theorem DeclaredField.onePass_renamed (hE : ∀ e, E e e) (hR : ResolvedType.Congruence R)
    (hc : s.catalog = s'.catalog) : ∀ fs : List DeclaredField,
    (∀ n ∈ DeclaredField.names fs, Alike E R (s.lookup n) (s'.lookup (f n))) →
      Alike E (List.Forall₂ (ResolvedField.Related R)) (DeclaredField.onePass s fs).result
        (DeclaredField.onePass s' (DeclaredField.renamed f fs)).result
  | [], _ => .nil
  | ⟨x, t⟩ :: fs, h => by
    have ht := t.onePass_renamed hE hR hc fun n hn => h n (List.mem_append_left _ hn)
    have hfs := DeclaredField.onePass_renamed hE hR hc fs fun n hn =>
      h n (List.mem_append_right _ hn)
    rw [DeclaredField.renamed, DeclaredField.onePass, DeclaredField.onePass,
      Inquiry.result_bind, Inquiry.result_bind]
    refine ht.bind fun u v huv => ?_
    rw [Inquiry.result_bind, Inquiry.result_bind]
    refine hfs.bind fun us vs huvs => ?_
    exact .cons ⟨rfl, huv⟩ huvs

end

/-- A declared type makes related types of related types. -/
theorem DeclaredType.finished_congr (hR : ResolvedType.Congruence R) (t : DeclaredType)
    {u v : ResolvedType} (h : R u v) : R (t.finished u) (t.finished v) := by
  have hc := collected_congr hR t h
  unfold finished
  cases t.descriptor.isName with
  | true => exact hc
  | false => exact hR.withNullable hc _

/-- **What a declared type stands for depends on what is answered for its
names.** Scopes over one catalog resolve a declared type alike if one of
them answers for the names in it, and the other for the names in their
places, alike. -/
theorem DeclaredType.resolve_renamed (hE : ∀ e, E e e) (hR : ResolvedType.Congruence R)
    (hc : s.catalog = s'.catalog) {t : DeclaredType}
    (h : ∀ n ∈ t.names, Alike E R (s.lookup n) (s'.lookup (f n))) :
    Alike E R (t.resolve s).result ((t.renamed f).resolve s').result := by
  have hd : Alike E R (t.descriptor.onePass s).result
      ((t.descriptor.renamed f).onePass s').result :=
    t.descriptor.onePass_renamed hE hR hc (by cases t; exact h)
  have hdescriptor : (t.renamed f).descriptor = t.descriptor.renamed f := by cases t; rfl
  rw [t.resolve_eq s, (t.renamed f).resolve_eq s', unknownKeyword?, unknownKeyword?,
    t.keywords_renamed, t.finished_renamed, hdescriptor]
  -- an unknown keyword is the same for both scopes, and found before they are asked
  cases t.keywords.find? fun k => (Collection.ofKeyword? k.1).isNone with
  | some k => exact hE _
  | none =>
    dsimp only
    rw [Inquiry.result_bind, Inquiry.result_bind]
    exact hd.bind fun u v huv => t.finished_congr hR huv

/-- **What a declared type stands for depends on its names alone.** Scopes
over one catalog that answer alike for the names in a declared type
resolve it alike, failures included. -/
theorem DeclaredType.resolve_congr (hR : ResolvedType.Congruence R)
    (hc : s.catalog = s'.catalog) {t : DeclaredType}
    (h : ∀ n ∈ t.names, Alike Eq R (s.lookup n) (s'.lookup n)) :
    Alike Eq R (t.resolve s).result (t.resolve s').result := by
  have hsame := resolve_renamed (f := id) (fun _ => rfl) hR hc h
  rwa [t.renamed_id] at hsame

end Scopes

end SqlTyping
