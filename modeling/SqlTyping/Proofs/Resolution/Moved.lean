import SqlTyping.Proofs.Declared.StructuralEquality
import SqlTyping.Proofs.Resolution.TwoForms

/-!
# Declared types at another place

A declared type can be moved to another place (`DeclaredType.movedTo`). Its
base and its nullability stay behind, and if it is a collection, so does its
time zone. Any other type takes its time zone along.

Structural equality does not look at the base or the nullability of the
whole. A moved type is therefore structurally equal to the type that was
moved, but for the **zoned collections**, which have a time zone to lose.

Resolving does not look at the time zone, and at the nullability of the whole
only in the end. A moved type resolves to the same up to that nullability, or
is turned down for the same reason, and the scope is asked for the same
(`DeclaredType.movedTo_agree`). A stray keyword of its own is found at the
new place, and every other fault where it was.
-/

namespace SqlTyping

/-! ## What is moved along -/

/-- **A collection in a time zone.** -/
def DeclaredType.isZonedCollection (t : DeclaredType) : Bool :=
  t.isCollection && t.timeZone.isSome

/-- **What of a declared type can be moved**, as far as structural equality
goes: a collection without its time zone, and any other type as it is. -/
def DeclaredType.movable (t : DeclaredType) : DeclaredType :=
  { t with timeZone := if t.isCollection then none else t.timeZone }

/-- A moved type has the canonical form of what can be moved. -/
theorem DeclaredType.canonical_movedTo (t : DeclaredType) (p : Span) :
    (t.movedTo p).canonical = t.movable.canonical := by
  obtain ⟨k, d, b, z, n, s⟩ := t
  cases k with
  | none => rfl
  | some k => rfl

/-- All of a type can be moved, unless it is a zoned collection. -/
theorem DeclaredType.canonical_movable_iff {t : DeclaredType} :
    t.movable.canonical = t.canonical ↔ t.isZonedCollection = false := by
  obtain ⟨k, d, b, z, n, s⟩ := t
  cases k with
  | none => simp [movable, isZonedCollection, isCollection]
  | some k => cases z <;> simp [movable, isZonedCollection, isCollection, canonical, of]

/-! ## What a moved type resolves to -/

/-- **The failure wherever it is.** -/
def Failure.unplaced : Failure → Failure
  | rejected r => rejected ⟨.unknown, r.cause⟩
  | misused m => misused m

/-- **The same upshot**: two inquiries ask for the same, and they come to
types that are equal but for their own nullability, or to failures that are
equal but for their places. -/
def Inquiry.SameUpshot (x y : Inquiry ResolvedType) : Prop :=
  x.requests = y.requests
    ∧ ((·.withNullable false) <$> x.result).mapError Failure.unplaced
      = ((·.withNullable false) <$> y.result).mapError Failure.unplaced

/-- The upshot is there before the nullability is given. -/
theorem Inquiry.sameUpshot_of_map {x y : Inquiry ResolvedType}
    (h : SameUpshot ((·.withNullable false) <$> x) ((·.withNullable false) <$> y)) :
    SameUpshot x y := by
  have hidem (z : Inquiry ResolvedType) :
      (·.withNullable false) <$> ((·.withNullable false) <$> z.result)
        = (·.withNullable false) <$> z.result := by
    rw [← comp_map]
    exact congrArg (· <$> z.result) (funext fun t => t.withNullable_withNullable false false)
  obtain ⟨hq, hr⟩ := h
  rw [requests_map, requests_map] at hq
  rw [result_map, result_map, hidem, hidem] at hr
  exact ⟨hq, hr⟩

/-- **The first stray keyword of a moved type** is that of the type itself,
in its own place if it is a keyword within the descriptor. -/
theorem DeclaredType.unknownKeyword?_movedTo (t : DeclaredType) (p : Span) :
    (t.movedTo p).unknownKeyword? = t.unknownKeyword?.map fun u =>
      (u.1, if t.hasStrayKeyword then p else u.2) := by
  obtain ⟨k, d, b, z, n, s⟩ := t
  cases k with
  | none =>
    show d.keywords.find? _ = (d.keywords.find? _).map _
    simp [hasStrayKeyword, isCollection]
  | some k =>
    show ((k.value, p) :: d.keywords).find? _ = (((k.value, s) :: d.keywords).find? _).map _
    cases hk : Collection.ofKeyword? k.value with
    | none => simp [hasStrayKeyword, isCollection, collection?, hk]
    | some c => simp [hasStrayKeyword, isCollection, collection?, hk]

/-- The pass over a moved type is the same but for the nullability of the
whole. -/
theorem DeclaredType.withNullable_onePass_movedTo (t : DeclaredType) (p : Span) (s : Scope)
    (b : Bool) :
    (·.withNullable b) <$> (t.movedTo p).onePass s = (·.withNullable b) <$> t.onePass s := by
  obtain ⟨k, d, base, z, n, span⟩ := t
  cases k <;>
    simp only [movedTo, collectionOf, zoned, of, onePass_eq, map_bind, map_pure,
      ResolvedType.withNullable_withNullable] <;>
    rfl

/-- **A moved type has the same upshot** in every scope. -/
theorem DeclaredType.sameUpshot_movedTo (t : DeclaredType) (p : Span) (s : Scope) :
    ((t.movedTo p).resolve s).SameUpshot (t.resolve s) := by
  apply Inquiry.sameUpshot_of_map
  rw [withNullable_resolve, withNullable_resolve, unknownKeyword?_movedTo,
    withNullable_onePass_movedTo]
  cases t.unknownKeyword? with
  | none => exact ⟨rfl, rfl⟩
  | some u => exact ⟨rfl, rfl⟩

/-- **A moved type agrees with the type that was moved.** At any place, it is

* structurally equal to what can be moved, and thereby to the type itself
  exactly when that is no zoned collection, in whichever order the two are
  compared;
* in every scope of the same upshot, zoned collection or not. -/
theorem DeclaredType.movedTo_agree (t : DeclaredType) (p : Span) :
    (t.movedTo p).StructurallyEqual t.movable
      ∧ t.movable.StructurallyEqual (t.movedTo p)
      ∧ ((t.movedTo p).StructurallyEqual t ↔ t.isZonedCollection = false)
      ∧ (t.StructurallyEqual (t.movedTo p) ↔ t.isZonedCollection = false)
      ∧ ∀ s : Scope, ((t.movedTo p).resolve s).SameUpshot (t.resolve s) := by
  have hmoved : (t.movedTo p).canonical = t.movable.canonical := t.canonical_movedTo p
  refine ⟨mismatch?_eq_ok_none_iff.2 hmoved, mismatch?_eq_ok_none_iff.2 hmoved.symm, ?_, ?_,
    fun s => t.sameUpshot_movedTo p s⟩
  · rw [← canonical_movable_iff, ← hmoved]
    exact mismatch?_eq_ok_none_iff
  · rw [← canonical_movable_iff, ← hmoved, eq_comm]
    exact mismatch?_eq_ok_none_iff

/-- The declaration `TIME(3) ARRAY` in a time zone. -/
def DeclaredType.zonedArray : DeclaredType :=
  of (some (.bare "ARRAY")) (.builtIn .time ⟨some 3, none⟩ .unknown) none (some ⟨"UTC"⟩)
    .unspecified .unknown

/-- **`TIME(3) ARRAY` leaves its time zone behind**, so not every type is
structurally equal to the one that it is moved to. -/
theorem DeclaredType.not_structurallyEqual_movedTo :
    (zonedArray.movedTo .unknown).mismatch? zonedArray = .ok (some ⟨.timeZone, "<none>", "UTC"⟩)
      ∧ ¬ ∀ (t : DeclaredType) (p : Span), (t.movedTo p).StructurallyEqual t := by
  have hzone : (zonedArray.movedTo .unknown).mismatch? zonedArray
      = .ok (some ⟨.timeZone, "<none>", "UTC"⟩) := rfl
  refine ⟨hzone, fun h => ?_⟩
  have hnone : (zonedArray.movedTo .unknown).mismatch? zonedArray = .ok none :=
    h zonedArray .unknown
  rw [hzone] at hnone
  cases hnone

end SqlTyping
