import SqlTyping.Declared.Text

/-!
# Changing declared types

Declared types are values, and every change makes a new one. A **draft**
is a declared type whose base is still open: left open, it becomes the
descriptor that the draft ends up with.
-/

namespace SqlTyping

/-- **A declared type in the making.** -/
structure Draft where
  /-- The collection keyword, if there is to be one. -/
  keyword : Option Identifier
  /-- What names the type. -/
  descriptor : Descriptor
  /-- What names the type underneath, if that is something else. -/
  base : Option Descriptor
  /-- The time zone, if there is to be one. -/
  timeZone : Option TimeZone
  /-- What is said about `NULL`. -/
  nullability : Nullability
  /-- Where the declaration stands. -/
  span : Span
deriving BEq

namespace Draft

/-- The draft of a descriptor by itself, of unknown origin. -/
def ofDescriptor (d : Descriptor) : Draft :=
  ⟨none, d, none, none, .unspecified, .unknown⟩

/-- **The declared type a draft describes.** -/
def declaredType (t : Draft) : DeclaredType :=
  .of t.keyword t.descriptor t.base t.timeZone t.nullability t.span

end Draft

namespace DeclaredType

/-- **The draft of a declared type**, its base given. -/
def draft (t : DeclaredType) : Draft :=
  ⟨t.keyword, t.descriptor, some t.base, t.timeZone, t.nullability, t.span⟩

/-- **The type with another nullability.** -/
def withNullability (t : DeclaredType) (n : Nullability) : DeclaredType :=
  { t with nullability := n }

/-- Whether giving the type a nullability leaves it as it is. -/
def hasNullability (t : DeclaredType) (n : Nullability) : Bool :=
  t.nullability == n

/-- **The declared type of a collection's elements**: the descriptor in
the collection's time zone. What is no collection has no elements. -/
def element? (t : DeclaredType) : Except Misuse DeclaredType :=
  if t.isCollection then .ok (zoned t.descriptor t.timeZone t.span)
  else do .error (.noElement (← t.text? .compact))

/-- **The type declared at another place.** The base, the nullability and
the time zone of a collection stay behind. -/
def movedTo (t : DeclaredType) (span : Span) : DeclaredType :=
  match t.keyword with
  | some k => collectionOf k t.descriptor span
  | none => zoned t.descriptor t.timeZone span

/-- A type is what its draft describes. -/
@[simp] theorem declaredType_draft (t : DeclaredType) :
    t.draft.declaredType = t := by
  obtain ⟨k, d, b, z, n, s⟩ := t
  rfl

/-- Giving a type the nullability it has, and no other, changes nothing. -/
theorem withNullability_eq_self_iff {t : DeclaredType} {n : Nullability} :
    t.withNullability n = t ↔ t.hasNullability n = true := by
  obtain ⟨k, d, b, z, m, s⟩ := t
  simp only [withNullability, hasNullability, beq_iff_eq,
    DeclaredType.mk.injEq, true_and, and_true]
  exact eq_comm

/-- A moved type stands where it was moved to. -/
@[simp] theorem span_movedTo (t : DeclaredType) (span : Span) :
    (t.movedTo span).span = span := by
  unfold movedTo
  split <;> rfl

end DeclaredType

end SqlTyping
