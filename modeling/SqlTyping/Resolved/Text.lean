import SqlTyping.Resolved.Basic

/-!
# The text of resolved types

A resolved type is written in full, with `NOT NULL` behind every type that
excludes `NULL`, elements and fields included: `INTEGER NOT NULL ARRAY`. A
user-defined type is written by its name alone.

The pretty layout spreads the outermost row only: each of its fields is on
a line of its own and is written compactly, and so is everything else.
-/

namespace SqlTyping

/-- What is written behind a type. -/
def nullablePieces : Bool → Pieces
  | true => []
  | false => [" NOT NULL"]

mutual

/-- How a resolved type is written on one line. -/
def ResolvedType.compactPieces : ResolvedType → Pieces
  | ⟨.scalar n f, b⟩ => n.pieces f ++ nullablePieces b
  | ⟨.collection k e _, b⟩ =>
    e.compactPieces ++ (" " ++ k.keyword) :: nullablePieces b
  | ⟨.row fs, b⟩ =>
    "ROW" :: Layout.compact.parenthesized (ResolvedField.piecesAll fs)
      ++ nullablePieces b
  | ⟨.userDefined n _, b⟩ => n.pieces ++ nullablePieces b

/-- How each field of a row is written. -/
def ResolvedField.piecesAll : List ResolvedField → List Pieces
  | [] => []
  | ⟨x, t⟩ :: fs => (x :: " " :: t.compactPieces) :: ResolvedField.piecesAll fs

end

/-- How a field is written. -/
def ResolvedField.pieces (f : ResolvedField) : Pieces :=
  f.name :: " " :: f.type.compactPieces

/-- **How a resolved type is written.** -/
def ResolvedType.pieces (layout : Layout) : ResolvedType → Pieces
  | ⟨.row fs, b⟩ =>
    "ROW" :: layout.parenthesized (fs.map (·.pieces)) ++ nullablePieces b
  | t => t.compactPieces

mutual

/-- Whether every name that is written of a type can be. -/
def ResolvedType.isWritable : ResolvedType → Bool
  | ⟨.scalar _ _, _⟩ => true
  | ⟨.collection _ e _, _⟩ => e.isWritable
  | ⟨.row fs, _⟩ => ResolvedField.areWritable fs
  | ⟨.userDefined n _, _⟩ => n.isWritable

/-- Whether every name that is written of the fields can be. -/
def ResolvedField.areWritable : List ResolvedField → Bool
  | [] => true
  | ⟨_, t⟩ :: fs => t.isWritable && ResolvedField.areWritable fs

end

/-- **The text of a resolved type** in a layout, if it can be written. -/
def ResolvedType.text? (layout : Layout) (t : ResolvedType) :
    Except Misuse String :=
  if t.isWritable then .ok (t.pieces layout).text else .error .unwritableQuote

/-- **The text of a field**, if it can be written. -/
def ResolvedField.text? (f : ResolvedField) : Except Misuse String :=
  if f.type.isWritable then .ok f.pieces.text else .error .unwritableQuote

/-- The pieces of all fields are those of each. -/
theorem ResolvedField.piecesAll_eq_map (fs : List ResolvedField) :
    ResolvedField.piecesAll fs = fs.map (·.pieces) := by
  induction fs with
  | nil => rfl
  | cons f fs ih =>
    obtain ⟨x, t⟩ := f
    simp [ResolvedField.piecesAll, ResolvedField.pieces, ih]

/-- In the compact layout a type is written on one line. -/
theorem ResolvedType.pieces_compact (t : ResolvedType) :
    t.pieces .compact = t.compactPieces := by
  match t with
  | ⟨.row fs, b⟩ =>
    simp [ResolvedType.pieces, ResolvedType.compactPieces,
      ResolvedField.piecesAll_eq_map]
  | ⟨.scalar _ _, _⟩ => rfl
  | ⟨.collection _ _ _, _⟩ => rfl
  | ⟨.userDefined _ _, _⟩ => rfl

end SqlTyping
