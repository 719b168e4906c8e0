import SqlTyping.Declared.Text
import SqlTyping.Proofs.Text.Layout

/-!
# The tokens of declared types

The text of a declared type is made of two kinds of things. Built-in names,
their facets and all that is put between other things are the same for every
type of that shape; the **tokens** – the names of fields and user-defined
types and the collection keywords – are from the declaration and may be
anything.

A declared type is laid out around its tokens (`DeclaredType.laidOutBy`).
How many rows a token stands in decides what becomes of it, and nothing else
about where it stands does: in so many blocks as there are rows, each token
is written by itself (`DeclaredType.charsAt_pieces_eq_laidOutBy`).
-/

namespace SqlTyping

/-- **What the text of a declared type has from the declaration** that is
neither a built-in name nor layout. -/
inductive Token where
  /-- The name of a field, or a part of the name of a user-defined type. -/
  | name (x : Identifier)
  /-- A collection keyword. -/
  | keyword (k : Identifier)

namespace Token

/-- The value of a token's identifier. -/
def value : Token → String
  | name x => x.value
  | keyword k => k.value

/-- How a token is written. -/
def pieces : Token → Pieces
  | name x => x.pieces
  | keyword k => Pieces.ofChars (foldCase k.value.toList)

/-- Whether a token can be written; a keyword always can. -/
def isWritable : Token → Bool
  | name x => x.isWritable
  | keyword _ => true

end Token

mutual

/-- The tokens of a descriptor, as `DeclaredType.tokens` lists them. -/
def Descriptor.tokens (depth : Nat) : Descriptor → List (Nat × Token)
  | .builtIn _ _ _ => []
  | .collection e _ _ => e.tokens depth
  | .row fs _ => DeclaredField.tokens (depth + 1) fs
  | .named n _ => n.parts.map fun x => (depth, .name x)

/-- **The tokens of a declared type** that stands in so many rows, each with
the number of rows that it stands in itself, from left to right. -/
def DeclaredType.tokens (depth : Nat) : DeclaredType → List (Nat × Token)
  | ⟨k, d, _, _, _, _⟩ => d.tokens depth ++ (k.map fun k => (depth, .keyword k)).toList

/-- The tokens of the fields of a row. -/
def DeclaredField.tokens (depth : Nat) : List DeclaredField → List (Nat × Token)
  | [] => []
  | ⟨x, t⟩ :: fs => (depth, .name x) :: (t.tokens depth ++ DeclaredField.tokens depth fs)

end

mutual

theorem Descriptor.isWritable_eq_all : ∀ (depth : Nat) (d : Descriptor),
    d.isWritable = (d.tokens depth).all (·.2.isWritable)
  | _, .builtIn _ _ _ => rfl
  | depth, .collection e _ _ => e.isWritable_eq_all depth
  | depth, .row fs _ => DeclaredField.areWritable_eq_all (depth + 1) fs
  | depth, .named n _ => by
    rw [Descriptor.tokens, List.all_map]
    rfl

/-- **A type can be written if its tokens can.** -/
theorem DeclaredType.isWritable_eq_all : ∀ (depth : Nat) (t : DeclaredType),
    t.isWritable = (t.tokens depth).all (·.2.isWritable)
  | depth, ⟨k, d, _, _, _, _⟩ => by
    rw [DeclaredType.isWritable, DeclaredType.tokens, List.all_append, d.isWritable_eq_all depth]
    cases k with
    | none => exact (Bool.and_true _).symm
    | some k => exact (Bool.and_true _).symm

theorem DeclaredField.areWritable_eq_all : ∀ (depth : Nat) (fs : List DeclaredField),
    DeclaredField.areWritable fs = (DeclaredField.tokens depth fs).all (·.2.isWritable)
  | _, [] => rfl
  | depth, ⟨x, t⟩ :: fs => by
    rw [DeclaredField.areWritable, DeclaredField.tokens, List.all_cons, List.all_append,
      t.isWritable_eq_all depth, DeclaredField.areWritable_eq_all depth fs, Bool.and_assoc]
    rfl

end

/-! ## The layout around the tokens -/

section Around

variable (layout : Layout)

mutual

/-- How a descriptor is laid out around its tokens. -/
def Descriptor.laidOutBy (write : Nat → Token → List Char) (depth : Nat) :
    Descriptor → List Char
  | .builtIn n f _ => (n.pieces f).chars
  | .collection e k _ => e.laidOutBy write depth ++ ' ' :: k.keyword.toList
  | .row fs _ =>
    'R' :: 'O' :: 'W' :: layout.listAt depth (DeclaredField.laidOutBy write (depth + 1) fs)
  | .named n _ => joined ['.'] (n.parts.map fun x => write depth (.name x))

/-- **How a declared type is laid out around its tokens**, where each is
written in a way that may depend on the rows that it stands in. -/
def DeclaredType.laidOutBy (write : Nat → Token → List Char) (depth : Nat) :
    DeclaredType → List Char
  | ⟨none, d, _, _, _, _⟩ => d.laidOutBy write depth
  | ⟨some k, d, _, _, _, _⟩ => d.laidOutBy write depth ++ ' ' :: write depth (.keyword k)

/-- How each field of a row is laid out around its tokens. -/
def DeclaredField.laidOutBy (write : Nat → Token → List Char) (depth : Nat) :
    List DeclaredField → List (List Char)
  | [] => []
  | ⟨x, t⟩ :: fs =>
    (write depth (.name x) ++ ' ' :: (t.laidOutBy write depth ++ t.nullability.fieldPieces.chars))
      :: DeclaredField.laidOutBy write depth fs

end

/-- **What stands for a token in so many rows.** -/
def Layout.write (depth : Nat) (w : Token) : List Char :=
  Pieces.charsAt (layout.blocks depth) w.pieces

mutual

/-- Inside the blocks of the rows around it, a descriptor is laid out around
what stands for its tokens. -/
theorem Descriptor.charsAt_pieces_eq_laidOutBy : ∀ (depth : Nat) (d : Descriptor),
    Pieces.charsAt (layout.blocks depth) (d.pieces layout) = d.laidOutBy layout layout.write depth
  | _, .builtIn n f _ => Pieces.charsAt_eq_chars (n.not_mem_chars_pieces f) _
  | depth, .collection e k _ => by
    have hk : '\n' ∉ Pieces.chars [" ", k.keyword] := by simp [k.not_mem_keyword]
    rw [Descriptor.pieces, Descriptor.laidOutBy, Pieces.charsAt_append,
      e.charsAt_pieces_eq_laidOutBy depth, Pieces.charsAt_eq_chars hk]
    simp
  | depth, .row fs _ => by
    rw [Descriptor.pieces, Descriptor.laidOutBy, Pieces.charsAt_cons_of_ne (by decide),
      layout.charsAt_parenthesized, DeclaredField.charsAt_piecesAll_eq_laidOutBy (depth + 1) fs]
    rfl
  | depth, .named n _ => by
    rw [Descriptor.pieces, Descriptor.laidOutBy, QualifiedName.pieces, Pieces.charsAt_separated,
      List.map_map]
    rfl

/-- **Inside the blocks of the rows around it, a declared type is laid out
around what stands for its tokens**, whatever line breaks they have. -/
theorem DeclaredType.charsAt_pieces_eq_laidOutBy : ∀ (depth : Nat) (t : DeclaredType),
    Pieces.charsAt (layout.blocks depth) (t.pieces layout) = t.laidOutBy layout layout.write depth
  | depth, ⟨none, d, _, _, _, _⟩ => by
    rw [DeclaredType.pieces, DeclaredType.laidOutBy, Pieces.charsAt_append,
      d.charsAt_pieces_eq_laidOutBy depth]
    exact List.append_nil _
  | depth, ⟨some k, d, _, _, _, _⟩ => by
    rw [DeclaredType.pieces, DeclaredType.laidOutBy, Pieces.charsAt_append,
      d.charsAt_pieces_eq_laidOutBy depth, keywordPieces, Pieces.charsAt_cons_of_ne (by decide)]
    rfl

theorem DeclaredField.charsAt_piecesAll_eq_laidOutBy : ∀ (depth : Nat) (fs : List DeclaredField),
    (DeclaredField.piecesAll layout fs).map (Pieces.charsAt (layout.blocks depth))
      = DeclaredField.laidOutBy layout layout.write depth fs
  | _, [] => rfl
  | depth, ⟨x, t⟩ :: fs => by
    have hnull : '\n' ∉ t.nullability.fieldPieces.chars := by
      cases t.nullability <;> decide
    rw [DeclaredField.piecesAll, DeclaredField.laidOutBy, List.map_cons,
      DeclaredField.charsAt_piecesAll_eq_laidOutBy depth fs, Pieces.charsAt_append,
      Pieces.charsAt_append, Pieces.charsAt_cons_of_ne (by decide),
      t.charsAt_pieces_eq_laidOutBy depth, Pieces.charsAt_eq_chars hnull, List.append_assoc]
    rfl

end

section TwoWays

variable {write write' : Nat → Token → List Char}

mutual

/-- A descriptor is laid out alike around tokens that are written alike. -/
theorem Descriptor.laidOutBy_congr : ∀ (depth : Nat) (d : Descriptor),
    (∀ p ∈ d.tokens depth, write p.1 p.2 = write' p.1 p.2) →
      d.laidOutBy layout write depth = d.laidOutBy layout write' depth
  | _, .builtIn _ _ _, _ => rfl
  | depth, .collection e _ _, h => by
    rw [Descriptor.laidOutBy, Descriptor.laidOutBy, e.laidOutBy_congr depth h]
  | depth, .row fs _, h => by
    rw [Descriptor.laidOutBy, Descriptor.laidOutBy, DeclaredField.laidOutBy_congr (depth + 1) fs h]
  | depth, .named n _, h => by
    have hparts : ∀ x ∈ n.parts, write depth (.name x) = write' depth (.name x) :=
      fun x hx => h (depth, .name x) (List.mem_map.2 ⟨x, hx, rfl⟩)
    rw [Descriptor.laidOutBy, Descriptor.laidOutBy, List.map_congr_left hparts]

/-- **A declared type is laid out alike around tokens that are written
alike.** -/
theorem DeclaredType.laidOutBy_congr : ∀ (depth : Nat) (t : DeclaredType),
    (∀ p ∈ t.tokens depth, write p.1 p.2 = write' p.1 p.2) →
      t.laidOutBy layout write depth = t.laidOutBy layout write' depth
  | depth, ⟨none, d, _, _, _, _⟩, h =>
    d.laidOutBy_congr depth fun p hp => h p (List.mem_append_left _ hp)
  | depth, ⟨some k, d, _, _, _, _⟩, h => by
    have hd := d.laidOutBy_congr depth fun p hp => h p (List.mem_append_left _ hp)
    have hk : write depth (.keyword k) = write' depth (.keyword k) :=
      h (depth, .keyword k) (List.mem_append_right _ (List.mem_singleton.2 rfl))
    rw [DeclaredType.laidOutBy, DeclaredType.laidOutBy, hd, hk]

theorem DeclaredField.laidOutBy_congr : ∀ (depth : Nat) (fs : List DeclaredField),
    (∀ p ∈ DeclaredField.tokens depth fs, write p.1 p.2 = write' p.1 p.2) →
      DeclaredField.laidOutBy layout write depth fs = DeclaredField.laidOutBy layout write' depth fs
  | _, [], _ => rfl
  | depth, ⟨x, t⟩ :: fs, h => by
    rw [DeclaredField.tokens, List.forall_mem_cons, List.forall_mem_append] at h
    obtain ⟨hx, ht, hfs⟩ := h
    rw [DeclaredField.laidOutBy, DeclaredField.laidOutBy, hx, t.laidOutBy_congr depth ht,
      DeclaredField.laidOutBy_congr depth fs hfs]

end

end TwoWays

end Around

end SqlTyping
