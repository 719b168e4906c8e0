import SqlTyping.Proofs.Declared.Tokens

/-!
# The layout of declared types

A row within a row is written through two indented blocks, and through as
many as there are rows around it, whatever collections and fields stand
between them. In the end each row is laid out by its **depth**, the number
of rows around it: `Descriptor.laidOut` writes it by one recursion on the
descriptor and without any blocks, and differs between the two layouts in
nothing but the parenthesised list (`Layout.listAt`).

The text of a declared type is what that recursion writes, on one line and
in the pretty layout alike (`DeclaredType.text?_eq_laidOut`), as long as its
names and keywords bring no line breaks with them: one that is a piece of
its own is taken for layout by every block around it.
-/

namespace SqlTyping

mutual

/-- **How a descriptor is laid out** in so many rows. -/
def Descriptor.laidOut (layout : Layout) (depth : Nat) : Descriptor → List Char
  | .builtIn n f _ => (n.pieces f).chars
  | .collection e k _ => e.laidOut layout depth ++ ' ' :: k.keyword.toList
  | .row fs _ =>
    'R' :: 'O' :: 'W' :: layout.listAt depth (DeclaredField.laidOut layout (depth + 1) fs)
  | .named n _ => n.pieces.chars

/-- **How a declared type is laid out** in so many rows. -/
def DeclaredType.laidOut (layout : Layout) (depth : Nat) : DeclaredType → List Char
  | ⟨k, d, _, _, _, _⟩ => d.laidOut layout depth ++ (keywordPieces k).chars

/-- How each field of a row is laid out in so many rows. -/
def DeclaredField.laidOut (layout : Layout) (depth : Nat) :
    List DeclaredField → List (List Char)
  | [] => []
  | ⟨x, t⟩ :: fs =>
    (x.pieces.chars ++ ' ' :: (t.laidOut layout depth ++ t.nullability.fieldPieces.chars))
      :: DeclaredField.laidOut layout depth fs

end

/-! ## Names without line breaks -/

mutual

/-- Whether no name or keyword in a descriptor has a line break. -/
def Descriptor.isUnbroken : Descriptor → Bool
  | .builtIn .. => true
  | .collection e _ _ => e.isUnbroken
  | .row fs _ => DeclaredField.areUnbroken fs
  | .named n _ => n.parts.all fun x => isOneLine x.value

/-- **Whether no name or keyword of a declared type has a line break.** -/
def DeclaredType.isUnbroken : DeclaredType → Bool
  | ⟨k, d, _, _, _, _⟩ => k.all (fun x => isOneLine x.value) && d.isUnbroken

/-- Whether no name or keyword in the fields of a row has a line break. -/
def DeclaredField.areUnbroken : List DeclaredField → Bool
  | [] => true
  | ⟨x, t⟩ :: fs => isOneLine x.value && t.isUnbroken && DeclaredField.areUnbroken fs

end

mutual

theorem Descriptor.isUnbroken_eq_all : ∀ (depth : Nat) (d : Descriptor),
    d.isUnbroken = (d.tokens depth).all fun p => isOneLine p.2.value
  | _, .builtIn _ _ _ => rfl
  | depth, .collection e _ _ => e.isUnbroken_eq_all depth
  | depth, .row fs _ => DeclaredField.areUnbroken_eq_all (depth + 1) fs
  | _, .named _ _ => by
    rw [Descriptor.tokens, List.all_map]
    rfl

/-- **No name or keyword has a line break if no token has.** -/
theorem DeclaredType.isUnbroken_eq_all : ∀ (depth : Nat) (t : DeclaredType),
    t.isUnbroken = (t.tokens depth).all fun p => isOneLine p.2.value
  | depth, ⟨k, d, _, _, _, _⟩ => by
    rw [DeclaredType.isUnbroken, DeclaredType.tokens, List.all_append,
      d.isUnbroken_eq_all depth, Bool.and_comm]
    cases k with
    | none => rfl
    | some k => exact congrArg (_ && ·) (Bool.and_true _).symm

theorem DeclaredField.areUnbroken_eq_all : ∀ (depth : Nat) (fs : List DeclaredField),
    DeclaredField.areUnbroken fs
      = (DeclaredField.tokens depth fs).all fun p => isOneLine p.2.value
  | _, [] => rfl
  | depth, ⟨x, t⟩ :: fs => by
    rw [DeclaredField.areUnbroken, DeclaredField.tokens, List.all_cons, List.all_append,
      t.isUnbroken_eq_all depth, DeclaredField.areUnbroken_eq_all depth fs, Bool.and_assoc]
    rfl

end

/-- Capitals have the same line breaks: no character has one for its capital
but the line break. -/
theorem mem_foldCase_lineBreak {cs : List Char} : '\n' ∈ foldCase cs ↔ '\n' ∈ cs := by
  constructor
  · intro h
    obtain ⟨c, hc, hup⟩ := List.mem_map.1 h
    rcases toUpper_cases c with hsame | ⟨hle, -, hcode⟩
    · exact (hsame.symm.trans hup) ▸ hc
    · rw [hup] at hcode
      have h10 : ('\n').toNat = 10 := rfl
      omega
  · intro h
    exact List.mem_map.2 ⟨'\n', h, rfl⟩

/-- A token is on one line if its value is. -/
theorem Token.not_mem_chars_pieces {w : Token} (h : isOneLine w.value = true) :
    '\n' ∉ w.pieces.chars := by
  cases w with
  | name x => exact x.not_mem_chars_pieces h
  | keyword k =>
    rw [pieces, Pieces.chars_ofChars]
    exact mt mem_foldCase_lineBreak.1 (isOneLine_iff.1 h)

/-! ## Writing by depth -/

section Depth

variable (layout : Layout)

mutual

/-- Around tokens that are written as they are by themselves, a descriptor
is laid out as it should be. -/
theorem Descriptor.laidOutBy_chars : ∀ (depth : Nat) (d : Descriptor),
    d.laidOutBy layout (fun _ w => w.pieces.chars) depth = d.laidOut layout depth
  | _, .builtIn _ _ _ => rfl
  | depth, .collection e _ _ => by
    rw [Descriptor.laidOutBy, Descriptor.laidOut, e.laidOutBy_chars depth]
  | depth, .row fs _ => by
    rw [Descriptor.laidOutBy, Descriptor.laidOut, DeclaredField.laidOutBy_chars (depth + 1) fs]
  | _, .named n _ => by
    rw [Descriptor.laidOutBy, Descriptor.laidOut, QualifiedName.pieces, Pieces.chars_separated,
      List.map_map]
    rfl

/-- **Around tokens that are written as they are by themselves, a type is
laid out as it should be.** -/
theorem DeclaredType.laidOutBy_chars : ∀ (depth : Nat) (t : DeclaredType),
    t.laidOutBy layout (fun _ w => w.pieces.chars) depth = t.laidOut layout depth
  | depth, ⟨none, d, _, _, _, _⟩ => by
    rw [DeclaredType.laidOutBy, DeclaredType.laidOut, d.laidOutBy_chars depth]
    exact (List.append_nil _).symm
  | depth, ⟨some k, d, _, _, _, _⟩ => by
    rw [DeclaredType.laidOutBy, DeclaredType.laidOut, d.laidOutBy_chars depth]
    rfl

theorem DeclaredField.laidOutBy_chars : ∀ (depth : Nat) (fs : List DeclaredField),
    DeclaredField.laidOutBy layout (fun _ w => w.pieces.chars) depth fs
      = DeclaredField.laidOut layout depth fs
  | _, [] => rfl
  | depth, ⟨x, t⟩ :: fs => by
    rw [DeclaredField.laidOutBy, DeclaredField.laidOut, t.laidOutBy_chars depth,
      DeclaredField.laidOutBy_chars depth fs]
    rfl

end

/-- **Inside the blocks of the rows around it, a declared type is laid out by
its depth.** -/
theorem DeclaredType.charsAt_pieces (depth : Nat) (t : DeclaredType)
    (h : t.isUnbroken = true) :
    Pieces.charsAt (layout.blocks depth) (t.pieces layout) = t.laidOut layout depth := by
  rw [t.isUnbroken_eq_all depth, List.all_eq_true] at h
  rw [t.charsAt_pieces_eq_laidOutBy, ← t.laidOutBy_chars]
  exact t.laidOutBy_congr layout depth fun p hp =>
    Pieces.charsAt_eq_chars (Token.not_mem_chars_pieces (h p hp)) _

end Depth

/-- **The text of a declared type is what its layout writes.** A type whose
names can be written and have no line breaks in them has a text in either
layout. Both are written by one recursion on the descriptor, which puts the
fields of a row on lines of their own in the pretty layout: with two blanks
for each row they stand in before every field, and before the closing
parenthesis with those of the rows around it. -/
theorem DeclaredType.text?_eq_laidOut {t : DeclaredType} (hw : t.isWritable = true)
    (hn : t.isUnbroken = true) (layout : Layout) :
    t.text? layout = .ok (String.ofList (t.laidOut layout 0)) := by
  have hchars : (t.pieces layout).chars = t.laidOut layout 0 := by
    rw [← t.charsAt_pieces layout 0 hn, layout.charsAt_blocks_zero]
  rw [text?, if_pos hw, Pieces.text, hchars]

/-- The declaration `ROW([p q] ROW(x s.t, e ROW() array) MULTISET NULL)
Array`, where the multiset is that of a descriptor. -/
def DeclaredType.nestedRows : DeclaredType :=
  let empty : DeclaredType := collectionOf (.bare "array") (.row [] .unknown) .unknown
  let point : Descriptor := .row [⟨.bare "x", .ofName (.ofPath "s.t")⟩, ⟨.bare "e", empty⟩] .unknown
  let points : DeclaredType := ofNullability (.collection point .multiset .unknown) .nullable
  collectionOf (.bare "Array") (.row [⟨⟨"p q", some '[', .unknown⟩, points⟩] .unknown) .unknown

/-- Its rows are laid out one in the other, the empty one with a line of
blanks. -/
theorem DeclaredType.text?_nestedRows :
    nestedRows.isWritable = true ∧ nestedRows.isUnbroken = true
      ∧ nestedRows.text? .compact
        = .ok "ROW([p q] ROW(x s.t, e ROW() ARRAY) MULTISET NULL) ARRAY"
      ∧ nestedRows.text? .pretty
        = .ok ("ROW(\n  [p q] ROW(\n    x s.t,\n    e ROW(\n      \n    ) ARRAY\n"
          ++ "  ) MULTISET NULL\n) ARRAY") := by
  have hw : nestedRows.isWritable = true := by decide
  have hn : nestedRows.isUnbroken = true := by decide
  refine ⟨hw, hn, ?_, ?_⟩
  · exact (text?_eq_laidOut hw hn .compact).trans (congrArg Except.ok (by decide +kernel))
  · exact (text?_eq_laidOut hw hn .pretty).trans (congrArg Except.ok (by decide +kernel))

end SqlTyping
