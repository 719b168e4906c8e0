import SqlTyping.Name.Qualified

/-!
# Names wherever they stand

Names that are `==` differ in their spans at most. The **unplaced** form of
a name has no known span, so that two names are `==` exactly when their
unplaced forms are equal. `==` is thereby an equivalence, and what does not
look at spans, such as the text of a name, is the same for names that are
`==`.
-/

namespace SqlTyping

namespace Identifier

/-- **The identifier without its place.** -/
def unplaced (x : Identifier) : Identifier := ⟨x.value, x.quote, .unknown⟩

/-- Identifiers are `==` exactly when they are equal without their
places. -/
theorem beq_iff_unplaced {x y : Identifier} :
    (x == y) = true ↔ x.unplaced = y.unplaced := by
  rw [beq_iff]
  simp [unplaced]

theorem option_beq_iff_unplaced {x y : Option Identifier} :
    (x == y) = true ↔ x.map unplaced = y.map unplaced := by
  cases x <;> cases y <;> simp [beq_iff_unplaced]

/-- Lists of identifiers are `==` exactly when they are equal without
their places. -/
theorem list_beq_iff_unplaced {xs ys : List Identifier} :
    (xs == ys) = true ↔ xs.map unplaced = ys.map unplaced := by
  induction xs generalizing ys with
  | nil => cases ys <;> simp
  | cons x xs ih =>
    cases ys with
    | nil => simp
    | cons y ys => simp [beq_iff_unplaced, ih]

end Identifier

namespace QualifiedName

/-- **The name without its place.** -/
def unplaced (n : QualifiedName) : QualifiedName := ⟨n.parts.map (·.unplaced)⟩

/-- **Names are `==` exactly when they are equal without their places.** -/
theorem beq_iff_unplaced {m n : QualifiedName} :
    (m == n) = true ↔ m.unplaced = n.unplaced := by
  obtain ⟨xs⟩ := m
  obtain ⟨ys⟩ := n
  show instBEqQualifiedName.beq _ _ = true ↔ _
  simp only [instBEqQualifiedName.beq, Identifier.list_beq_iff_unplaced, unplaced, mk.injEq]

theorem unplaced_unplaced (n : QualifiedName) : n.unplaced.unplaced = n.unplaced := by
  unfold unplaced
  rw [List.map_map]
  rfl

/-- A name is `==` to itself without its place. -/
theorem beq_unplaced (n : QualifiedName) : (n == n.unplaced) = true := by
  rw [beq_iff_unplaced, unplaced_unplaced]

/-- A name has the same text wherever it stands. -/
theorem text?_unplaced (n : QualifiedName) : n.unplaced.text? = n.text? := by
  have hw : n.unplaced.isWritable = n.isWritable := by
    show (n.parts.map (·.unplaced)).all (·.isWritable) = _
    rw [List.all_map]
    rfl
  have hp : n.unplaced.pieces = n.pieces := by
    show Pieces.separated ["."] ((n.parts.map (·.unplaced)).map (·.pieces)) = _
    rw [List.map_map]
    rfl
  rw [text?, hw, hp]
  rfl

/-- **Names that are `==` have the same text.** -/
theorem text?_congr {m n : QualifiedName} (h : (m == n) = true) : m.text? = n.text? := by
  rw [← m.text?_unplaced, beq_iff_unplaced.1 h, n.text?_unplaced]

end QualifiedName

end SqlTyping
