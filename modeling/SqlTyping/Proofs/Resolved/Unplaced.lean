import SqlTyping.Resolved.Basic
import SqlTyping.Proofs.Name.Unplaced

/-!
# Resolved types wherever their names stand

The only places in a resolved type are those of the names of user-defined
types. Without them `==` is equality (`ResolvedType.beq_iff_unplaced`), and
so it is an equivalence that every way of building types respects.
-/

namespace SqlTyping

mutual

/-- **The resolved type without places.** -/
def ResolvedType.unplaced : ResolvedType → ResolvedType
  | ⟨s, b⟩ => ⟨s.unplaced, b⟩

/-- The shape without places. -/
def Shape.unplaced : Shape → Shape
  | .scalar n f => .scalar n f
  | .collection k e m => .collection k e.unplaced m
  | .row fs => .row (ResolvedField.unplacedAll fs)
  | .userDefined n t => .userDefined n.unplaced t.unplaced

/-- The fields of a row without places. -/
def ResolvedField.unplacedAll : List ResolvedField → List ResolvedField
  | [] => []
  | ⟨x, t⟩ :: fs => ⟨x, t.unplaced⟩ :: ResolvedField.unplacedAll fs

end

mutual

/-- Resolved types are the same when they are equal without places. -/
theorem ResolvedType.same_iff_unplaced :
    ∀ t u : ResolvedType, t.same u = true ↔ t.unplaced = u.unplaced
  | ⟨.scalar n f, b⟩, ⟨s, c⟩ => by
    cases s <;> simp [ResolvedType.same, ResolvedType.unplaced, Shape.unplaced, and_assoc]
  | ⟨.collection k e m, b⟩, ⟨s, c⟩ => by
    cases s with
    | collection k' e' m' =>
      simp [ResolvedType.same, ResolvedType.unplaced, Shape.unplaced, and_assoc,
        e.same_iff_unplaced e']
    | _ => simp [ResolvedType.same, ResolvedType.unplaced, Shape.unplaced]
  | ⟨.row fs, b⟩, ⟨s, c⟩ => by
    cases s with
    | row gs =>
      simp [ResolvedType.same, ResolvedType.unplaced, Shape.unplaced,
        ResolvedField.sameAll_iff_unplaced fs gs]
    | _ => simp [ResolvedType.same, ResolvedType.unplaced, Shape.unplaced]
  | ⟨.userDefined n t, b⟩, ⟨s, c⟩ => by
    cases s with
    | userDefined n' t' =>
      simp [ResolvedType.same, ResolvedType.unplaced, Shape.unplaced, and_assoc,
        t.same_iff_unplaced t', QualifiedName.beq_iff_unplaced]
    | _ => simp [ResolvedType.same, ResolvedType.unplaced, Shape.unplaced]

theorem ResolvedField.sameAll_iff_unplaced :
    ∀ fs gs : List ResolvedField, ResolvedField.sameAll fs gs = true
      ↔ ResolvedField.unplacedAll fs = ResolvedField.unplacedAll gs
  | [], gs => by
    cases gs with
    | nil => simp [ResolvedField.sameAll]
    | cons g gs =>
      obtain ⟨y, u⟩ := g
      simp [ResolvedField.sameAll, ResolvedField.unplacedAll]
  | ⟨x, t⟩ :: fs, gs => by
    cases gs with
    | nil => simp [ResolvedField.sameAll, ResolvedField.unplacedAll]
    | cons g gs =>
      obtain ⟨y, u⟩ := g
      simp [ResolvedField.sameAll, ResolvedField.unplacedAll, t.same_iff_unplaced u,
        ResolvedField.sameAll_iff_unplaced fs gs]

end

namespace ResolvedType

/-- **Resolved types are `==` exactly when they are equal without
places.** -/
theorem beq_iff_unplaced {t u : ResolvedType} :
    (t == u) = true ↔ t.unplaced = u.unplaced := t.same_iff_unplaced u

theorem unplaced_withNullable (t : ResolvedType) (b : Bool) :
    (t.withNullable b).unplaced = t.unplaced.withNullable b := by
  obtain ⟨s, c⟩ := t
  rfl

/-- **Equal up to nullability**: `==` but for whether `NULL` is admitted
by the whole. -/
def SameButNull (t u : ResolvedType) : Prop :=
  (t.withNullable false == u.withNullable false) = true

end ResolvedType

end SqlTyping
