import SqlTyping.Declared.Change
import SqlTyping.Declared.Difference
import SqlTyping.Proofs.Name.Unplaced

/-!
# The canonical form of declared types

The search for a difference looks past spans, bases, the quotes of field
names and the nullability of the whole, and past nothing else. The
**canonical form** of a declared type has all of these at a fixed value, so
that there is no difference exactly when the canonical forms are equal
(`DeclaredType.difference?_eq_none_iff`).

The nullability of a field is that of its type and does count, so a field
of a canonical row has it back.
-/

namespace SqlTyping

mutual

/-- **The canonical form of a descriptor.** -/
def Descriptor.canonical : Descriptor → Descriptor
  | .builtIn n f _ => .builtIn n f .unknown
  | .collection e k _ => .collection e.canonical k .unknown
  | .row fs _ => .row (DeclaredField.canonical fs) .unknown
  | .named n _ => .named n.unplaced .unknown

/-- **The canonical form of a declared type.** -/
def DeclaredType.canonical : DeclaredType → DeclaredType
  | ⟨k, d, _, z, _, _⟩ =>
    .of (k.map (·.unplaced)) d.canonical none z .unspecified .unknown

/-- The canonical form of the fields of a row. -/
def DeclaredField.canonical : List DeclaredField → List DeclaredField
  | [] => []
  | ⟨x, t⟩ :: fs =>
    ⟨.bare x.value, t.canonical.withNullability t.nullability⟩
      :: DeclaredField.canonical fs

end

/-- Built-in names with facets are the same when nothing differs. -/
theorem differ_facets_eq_none_iff {f g : Facets} :
    (differ .precision f.precision g.precision = none
      ∧ differ .scale f.scale g.scale = none) ↔ f = g := by
  obtain ⟨p, s⟩ := f
  obtain ⟨q, r⟩ := g
  simp [differ_eq_none_iff]

/-- A canonical field is told by its name, its type and its nullability. -/
theorem DeclaredField.canonical_cons_eq_iff {x y : Identifier} {t u : DeclaredType}
    {fs gs : List DeclaredField} :
    DeclaredField.canonical (⟨x, t⟩ :: fs) = DeclaredField.canonical (⟨y, u⟩ :: gs)
      ↔ x.value = y.value ∧ t.canonical = u.canonical ∧ t.nullability = u.nullability
        ∧ DeclaredField.canonical fs = DeclaredField.canonical gs := by
  obtain ⟨k, d, b, z, n, s⟩ := t
  obtain ⟨k', d', b', z', n', s'⟩ := u
  simp only [DeclaredField.canonical, DeclaredType.canonical, DeclaredType.of,
    DeclaredType.withNullability, Identifier.bare, List.cons.injEq, DeclaredField.mk.injEq,
    Identifier.mk.injEq, DeclaredType.mk.injEq, and_true]
  constructor
  · rintro ⟨⟨hx, hk, hd, hb, hz, hn⟩, hfs⟩
    exact ⟨hx, ⟨hk, hd, hb, hz⟩, hn, hfs⟩
  · rintro ⟨hx, ⟨hk, hd, hb, hz⟩, hn, hfs⟩
    exact ⟨⟨hx, hk, hd, hb, hz, hn⟩, hfs⟩

mutual

/-- **Descriptors do not differ exactly when their canonical forms are
equal.** -/
theorem Descriptor.difference?_eq_none_iff :
    ∀ a b : Descriptor, a.difference? b = none ↔ a.canonical = b.canonical
  | .builtIn n f _, b => by
    cases b with
    | builtIn n' f' _ =>
      simp only [Descriptor.difference?, Descriptor.canonical, Option.or_eq_none_iff,
        differ_eq_none_iff, beq_iff_eq, Descriptor.builtIn.injEq, and_true]
      rw [← differ_facets_eq_none_iff]
      simp only [differ_eq_none_iff, beq_iff_eq]
    | _ => simp [Descriptor.difference?, Descriptor.canonical]
  | .collection e k _, b => by
    cases b with
    | collection e' k' _ =>
      simp only [Descriptor.difference?, Descriptor.canonical, Option.or_eq_none_iff,
        differ_eq_none_iff, beq_iff_eq, Descriptor.collection.injEq, and_true,
        e.difference?_eq_none_iff e']
    | _ => simp [Descriptor.difference?, Descriptor.canonical]
  | .row fs _, b => by
    cases b with
    | row gs _ =>
      simp only [Descriptor.difference?, Descriptor.canonical, Option.or_eq_none_iff,
        differ_eq_none_iff, beq_iff_eq, Descriptor.row.injEq, and_true]
      exact DeclaredField.difference?_eq_none_iff fs gs
    | _ => simp [Descriptor.difference?, Descriptor.canonical]
  | .named n _, b => by
    cases b with
    | named n' _ =>
      simp only [Descriptor.difference?, Descriptor.canonical, differ_eq_none_iff,
        QualifiedName.beq_iff_unplaced, Descriptor.named.injEq, and_true]
    | _ => simp [Descriptor.difference?, Descriptor.canonical]

/-- **Declared types do not differ exactly when their canonical forms are
equal.** -/
theorem DeclaredType.difference?_eq_none_iff :
    ∀ a b : DeclaredType, a.difference? b = none ↔ a.canonical = b.canonical
  | ⟨k, d, b, z, n, s⟩, ⟨k', d', b', z', n', s'⟩ => by
    simp only [DeclaredType.difference?, DeclaredType.canonical, DeclaredType.of,
      Option.or_eq_none_iff, differ_eq_none_iff, beq_iff_eq, DeclaredType.mk.injEq,
      Identifier.option_beq_iff_unplaced, d.difference?_eq_none_iff d', Option.getD_none,
      and_true]
    -- a canonical form is based on its descriptor, whatever the base was
    constructor
    · rintro ⟨hz, hk, hd⟩
      exact ⟨hk, hd, hd, hz⟩
    · rintro ⟨hk, hd, -, hz⟩
      exact ⟨hz, hk, hd⟩

/-- Fields as many as others do not differ from them exactly when their
canonical forms are equal. -/
theorem DeclaredField.difference?_eq_none_iff :
    ∀ fs gs : List DeclaredField,
      (fs.length = gs.length ∧ DeclaredField.difference? fs gs = none)
        ↔ DeclaredField.canonical fs = DeclaredField.canonical gs
  | [], gs => by
    cases gs with
    | nil => simp [DeclaredField.difference?]
    | cons g gs =>
      obtain ⟨y, u⟩ := g
      simp [DeclaredField.canonical]
  | ⟨x, t⟩ :: fs, gs => by
    cases gs with
    | nil => simp [DeclaredField.canonical]
    | cons g gs =>
      obtain ⟨y, u⟩ := g
      -- the search ends with the shorter of two rows, so their lengths come along
      rw [DeclaredField.canonical_cons_eq_iff, ← t.difference?_eq_none_iff u,
        ← DeclaredField.difference?_eq_none_iff fs gs]
      simp only [DeclaredField.difference?, Option.or_eq_none_iff, differ_eq_none_iff,
        beq_iff_eq, List.length_cons, Nat.add_right_cancel_iff]
      constructor
      · rintro ⟨hl, hx, ht, hn, hfs⟩
        exact ⟨hx, ht, hn, hl, hfs⟩
      · rintro ⟨hx, ht, hn, hl, hfs⟩
        exact ⟨hl, hx, ht, hn, hfs⟩

end

/-- There is nothing to report exactly when there is no difference. -/
theorem reportOf?_eq_ok_none_iff {d : Option Difference} :
    reportOf? d = .ok none ↔ d = none := by
  cases d with
  | none => simp [reportOf?]
  | some d =>
    simp only [reportOf?, reduceCtorEq, iff_false]
    cases d.mismatch? <;> simp [Functor.map, Except.map]

/-- **Comparing declared types finds nothing exactly when their canonical
forms are equal.** -/
theorem DeclaredType.mismatch?_eq_ok_none_iff {a b : DeclaredType} :
    a.mismatch? b = .ok none ↔ a.canonical = b.canonical :=
  reportOf?_eq_ok_none_iff.trans (a.difference?_eq_none_iff b)

end SqlTyping
