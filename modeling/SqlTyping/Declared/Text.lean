import SqlTyping.Declared.Basic

/-!
# The text of declared types

A descriptor is written as it would be declared, and a declared type as
its descriptor with the collection keyword behind it, in capitals and
without its quotes. What a type says about `NULL` is written behind a
field of a row and nowhere else; time zone and base are never written.

In the pretty layout every row puts its fields on lines of their own, a
row within a row two blanks further in.

A text exists when every name in it can be written. The quote of the
collection keyword does not matter, since it is not written.
-/

namespace SqlTyping

/-- What is written behind a field's type. -/
def Nullability.fieldPieces : Nullability → Pieces
  | nullable => [" NULL"]
  | notNull => [" NOT NULL"]
  | unspecified => []

/-- **How a collection keyword is written** behind a descriptor: in
capitals, a character at a time. -/
def keywordPieces : Option Identifier → Pieces
  | none => []
  | some k => " " :: Pieces.ofChars (foldCase k.value.toList)

mutual

/-- **How a descriptor is written.** -/
def Descriptor.pieces (layout : Layout) : Descriptor → Pieces
  | .builtIn n f _ => n.pieces f
  | .collection e k _ => e.pieces layout ++ [" ", k.keyword]
  | .row fs _ => "ROW" :: layout.parenthesized (DeclaredField.piecesAll layout fs)
  | .named n _ => n.pieces

/-- **How a declared type is written**: its descriptor, then its collection
keyword. -/
def DeclaredType.pieces (layout : Layout) : DeclaredType → Pieces
  | ⟨k, d, _, _, _, _⟩ => d.pieces layout ++ keywordPieces k

/-- How each field of a row is written. -/
def DeclaredField.piecesAll (layout : Layout) : List DeclaredField → List Pieces
  | [] => []
  | ⟨x, t⟩ :: fs =>
    (x.pieces ++ " " :: t.pieces layout ++ t.nullability.fieldPieces)
      :: DeclaredField.piecesAll layout fs

end

mutual

/-- Whether every name in a descriptor can be written. -/
def Descriptor.isWritable : Descriptor → Bool
  | .builtIn .. => true
  | .collection e _ _ => e.isWritable
  | .row fs _ => DeclaredField.areWritable fs
  | .named n _ => n.isWritable

/-- Whether every name that is written of a declared type can be. -/
def DeclaredType.isWritable : DeclaredType → Bool
  | ⟨_, d, _, _, _, _⟩ => d.isWritable

/-- Whether every name in the fields of a row can be written. -/
def DeclaredField.areWritable : List DeclaredField → Bool
  | [] => true
  | ⟨x, t⟩ :: fs =>
    x.isWritable && t.isWritable && DeclaredField.areWritable fs

end

/-- **The text of a descriptor** in a layout, if it can be written. -/
def Descriptor.text? (layout : Layout) (d : Descriptor) : Except Misuse String :=
  if d.isWritable then .ok (d.pieces layout).text else .error .unwritableQuote

/-- **The text of a declared type** in a layout, if it can be written. -/
def DeclaredType.text? (layout : Layout) (t : DeclaredType) :
    Except Misuse String :=
  if t.isWritable then .ok (t.pieces layout).text else .error .unwritableQuote

end SqlTyping
