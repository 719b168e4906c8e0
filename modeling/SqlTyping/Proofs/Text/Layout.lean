import SqlTyping.Name.Qualified
import SqlTyping.Proofs.Text.Wording

/-!
# Text at a depth

An indented block does not know what is written in it: it puts two blanks
before everything and two more behind every piece that is a line break. So
what a text looks like inside blocks cannot be told from the text, but from
its pieces and the **depth**, the number of blocks it stands in
(`Pieces.charsAt`). One more block is one more level of depth
(`Pieces.charsAt_indent`).

With the depth in hand, a parenthesised list is laid out without any
blocks: each line of it starts with two blanks for every list it stands in
(`Layout.listAt`, `Layout.charsAt_parenthesized`). That holds of lists
within lists, whatever stands between them, as long as no line break gets
in with a name.
-/

namespace SqlTyping

/-- What a line starts with at a depth: two blanks for each level. -/
def indentation (depth : Nat) : List Char := List.replicate (2 * depth) ' '

@[simp] theorem indentation_zero : indentation 0 = [] := rfl

/-- The blanks of the innermost level come last. -/
theorem indentation_succ (depth : Nat) :
    indentation (depth + 1) = indentation depth ++ [' ', ' '] := by
  rw [indentation, Nat.mul_succ, ← List.replicate_append_replicate]
  rfl

namespace Pieces

/-- **The characters of pieces that stand in so many indented blocks**: each
block has put two blanks behind every piece that is a line break. -/
def charsAt (depth : Nat) (ps : Pieces) : List Char :=
  ps.flatMap fun p => p.toList ++ if p = "\n" then indentation depth else []

@[simp] theorem charsAt_nil (depth : Nat) : charsAt depth [] = [] := rfl

@[simp] theorem charsAt_append (depth : Nat) (ps qs : Pieces) :
    charsAt depth (ps ++ qs) = charsAt depth ps ++ charsAt depth qs := List.flatMap_append

/-- A piece that is no line break is written as it is at every depth. -/
theorem charsAt_cons_of_ne {p : String} (h : p ≠ "\n") (depth : Nat) (ps : Pieces) :
    charsAt depth (p :: ps) = p.toList ++ charsAt depth ps := by
  rw [charsAt, List.flatMap_cons, if_neg h, List.append_nil]
  rfl

/-- A line break is followed by the indentation. -/
theorem charsAt_cons_lineBreak (depth : Nat) (ps : Pieces) :
    charsAt depth ("\n" :: ps) = '\n' :: (indentation depth ++ charsAt depth ps) := rfl

/-- Outside of all blocks, pieces are written as they are. -/
@[simp] theorem charsAt_zero (ps : Pieces) : charsAt 0 ps = ps.chars := by
  unfold charsAt chars
  congr 1
  funext p
  rw [indentation_zero, ite_self, List.append_nil]

/-- **Text without line breaks is the same at every depth.** -/
theorem charsAt_eq_chars {ps : Pieces} (h : '\n' ∉ ps.chars) (depth : Nat) :
    charsAt depth ps = ps.chars := by
  induction ps with
  | nil => rfl
  | cons p ps ih =>
    rw [chars_cons, List.mem_append, not_or] at h
    have hne : p ≠ "\n" := by
      rintro rfl
      exact h.1 (List.mem_singleton.2 rfl)
    rw [charsAt_cons_of_ne hne, ih h.2, chars_cons]

/-- Behind a line break, a block has its own two blanks to add. -/
theorem charsAt_indentPiece (depth : Nat) (p : String) :
    charsAt depth (indentPiece p) = charsAt (depth + 1) [p] := by
  unfold indentPiece
  by_cases h : p = "\n"
  · subst h
    rw [if_pos rfl, charsAt_cons_lineBreak, charsAt_cons_lineBreak, indentation_succ,
      List.append_assoc]
    rfl
  · rw [if_neg h, charsAt_cons_of_ne h, charsAt_cons_of_ne h]
    rfl

/-- **A block is one more level of depth**, and starts with two blanks. -/
theorem charsAt_indent (depth : Nat) (ps : Pieces) :
    charsAt depth ps.indent = ' ' :: ' ' :: charsAt (depth + 1) ps := by
  have hblock : charsAt depth (ps.flatMap indentPiece) = charsAt (depth + 1) ps := by
    induction ps with
    | nil => rfl
    | cons p ps ih =>
      rw [List.flatMap_cons, charsAt_append, charsAt_indentPiece, ih, ← charsAt_append]
      rfl
  rw [indent, charsAt_cons_of_ne (by decide), hblock]
  rfl

/-- Members and separators are each written at the depth they stand in. -/
theorem charsAt_separated (depth : Nat) (separator : Pieces) (ps : List Pieces) :
    charsAt depth (separated separator ps)
      = joined (charsAt depth separator) (ps.map (charsAt depth)) :=
  flatMap_separated _ separator ps

end Pieces

namespace Layout

/-- **The start of a new line at a depth**; nothing, where everything is on
one line. -/
def newLine : Layout → Nat → List Char
  | compact, _ => []
  | pretty, depth => '\n' :: indentation depth

/-- What stands between two members of a list at a depth. -/
def commaAt : Layout → Nat → List Char
  | compact, _ => [',', ' ']
  | pretty, depth => ',' :: pretty.newLine depth

/-- **A parenthesised list at a depth**: each member is on a line of its own,
one level deeper, and so is the closing parenthesis at the depth itself. -/
def listAt (layout : Layout) (depth : Nat) (members : List (List Char)) : List Char :=
  '(' :: (layout.newLine (depth + 1) ++ joined (layout.commaAt (depth + 1)) members
    ++ layout.newLine depth ++ [')'])

/-- How many indented blocks a text at a depth stands in. -/
def blocks : Layout → Nat → Nat
  | compact, _ => 0
  | pretty, depth => depth

/-- There are none around the whole. -/
theorem charsAt_blocks_zero (layout : Layout) (ps : Pieces) :
    Pieces.charsAt (layout.blocks 0) ps = ps.chars := by
  cases layout <;> exact ps.charsAt_zero

/-- **A list is laid out by its depth.** -/
theorem charsAt_parenthesized (layout : Layout) (depth : Nat) (members : List Pieces) :
    Pieces.charsAt (layout.blocks depth) (layout.parenthesized members)
      = layout.listAt depth (members.map (Pieces.charsAt (layout.blocks (depth + 1)))) := by
  cases layout with
  | compact =>
    simp [parenthesized, edge, block, comma, listAt, newLine, commaAt, blocks,
      Pieces.charsAt_separated, Pieces.charsAt_cons_of_ne]
  | pretty =>
    simp [parenthesized, edge, block, comma, listAt, newLine, commaAt, blocks,
      Pieces.charsAt_separated, Pieces.charsAt_cons_of_ne, Pieces.charsAt_cons_lineBreak,
      Pieces.charsAt_indent, indentation_succ]

end Layout

/-! ## Names on one line -/

/-- Whether a text is on one line. -/
def isOneLine (s : String) : Bool := !s.toList.contains '\n'

theorem isOneLine_iff {s : String} : isOneLine s = true ↔ '\n' ∉ s.toList := by
  simp [isOneLine]

theorem not_isOneLine_iff {s : String} : (!isOneLine s) = true ↔ '\n' ∈ s.toList := by
  simp [isOneLine]

section Measures

variable {size : List Char → Nat} (hsize : ∀ s t, size (s ++ t) = size s + size t)
include hsize

theorem measure_trailing (separator : List Char) (us : List (List Char)) :
    size (trailing separator us) = size us.flatten + us.length * size separator := by
  induction us with
  | nil => rw [trailing, List.flatten_nil, List.length_nil, Nat.zero_mul, Nat.add_zero]
  | cons u us ih =>
    rw [trailing, hsize, hsize, ih, List.flatten_cons, hsize, List.length_cons, Nat.succ_mul]
    omega

/-- **What adds up over texts**, adds up over the texts and the separators
between two of them. -/
theorem measure_joined (separator : List Char) (us : List (List Char)) :
    size (joined separator us) = size us.flatten + (us.length - 1) * size separator := by
  cases us with
  | nil => rw [joined, List.flatten_nil, List.length_nil, Nat.zero_sub, Nat.zero_mul, Nat.add_zero]
  | cons u us =>
    rw [joined, hsize, measure_trailing hsize, List.flatten_cons, hsize, List.length_cons,
      Nat.add_sub_cancel, Nat.add_assoc]

end Measures

/-- A character of the whole is one of the texts, or of a separator between
two of them. -/
theorem count_joined (c : Char) (separator : List Char) (us : List (List Char)) :
    (joined separator us).count c
      = us.flatten.count c + (us.length - 1) * separator.count c :=
  measure_joined (fun _ _ => List.count_append) separator us

/-- How long texts are with separators between them. -/
theorem length_joined (separator : List Char) (us : List (List Char)) :
    (joined separator us).length = us.flatten.length + (us.length - 1) * separator.length :=
  measure_joined (fun _ _ => List.length_append) separator us

/-- How long a parenthesised list is at a depth. -/
theorem Layout.length_listAt (layout : Layout) (depth : Nat) (members : List (List Char)) :
    (layout.listAt depth members).length
      = members.flatten.length + ((members.length - 1) * (layout.commaAt (depth + 1)).length
        + (layout.newLine (depth + 1)).length + (layout.newLine depth).length + 2) := by
  simp only [listAt, List.length_cons, List.length_append, length_joined, List.length_nil]
  omega

theorem count_flatten_eq_zero_iff {c : Char} {us : List (List Char)} :
    us.flatten.count c = 0 ↔ ∀ u ∈ us, c ∉ u := by
  rw [List.count_eq_zero, List.mem_flatten]
  simp

/-- What is in none of the texts and not in the separator is not in the
whole. -/
theorem not_mem_joined {c : Char} {separator : List Char} {us : List (List Char)}
    (hs : c ∉ separator) (hus : ∀ u ∈ us, c ∉ u) : c ∉ joined separator us := by
  rw [← List.count_eq_zero, count_joined, count_flatten_eq_zero_iff.2 hus,
    List.count_eq_zero.2 hs, Nat.mul_zero]

/-- **As many texts that make up the same whole** have the same characters:
what is in none of the one is in none of the other. -/
theorem not_mem_of_joined_eq {c : Char} {separator : List Char} {us vs : List (List Char)}
    (h : joined separator us = joined separator vs) (hlen : us.length = vs.length)
    (hvs : ∀ v ∈ vs, c ∉ v) : ∀ u ∈ us, c ∉ u := by
  have hcount : us.flatten.count c = vs.flatten.count c := by
    have hwhole : (joined separator us).count c = (joined separator vs).count c := by rw [h]
    rw [count_joined, count_joined, hlen] at hwhole
    exact Nat.add_right_cancel hwhole
  rw [count_flatten_eq_zero_iff.2 hvs] at hcount
  exact count_flatten_eq_zero_iff.1 hcount

/-- Facets are on one line. -/
theorem Facets.not_mem_chars_pieces (f : Facets) : '\n' ∉ f.pieces.chars := by
  have hnumeral (n : UInt64) : '\n' ∉ (Nat.repr n.toNat).toList := by
    intro h
    exact absurd (isDigit_of_mem_numeral n _ h) (by decide)
  have hclosing : '\n' ∉ closing f.scale := by
    cases f.scale with
    | none => decide
    | some s => simp [closing, hnumeral, -Nat.toList_repr]
  cases h : f.precision with
  | none => rw [chars_pieces_of_none h]; exact List.not_mem_nil
  | some p => rw [chars_pieces_of_some h]; simp [hnumeral, hclosing, -Nat.toList_repr]

/-- Built-in names are on one line, with whatever facets. -/
theorem BuiltIn.not_mem_chars_pieces (n : BuiltIn) (f : Facets) :
    '\n' ∉ (n.pieces f).chars := by
  have hstem : '\n' ∉ n.stem.toList := by
    intro h
    exact absurd (n.isUpper_of_mem_stem _ h) (by decide)
  have htail : '\n' ∉ n.tail.chars := by cases n <;> decide
  rw [chars_pieces, List.mem_append, List.mem_append, not_or, not_or]
  exact ⟨hstem, f.not_mem_chars_pieces, htail⟩

/-- The keyword of a collection is on one line. -/
theorem Collection.not_mem_keyword (k : Collection) : '\n' ∉ k.keyword.toList := by
  cases k <;> decide

/-- Doubling a quote leaves the line breaks as they are. -/
theorem mem_doubled_lineBreak {q : Char} (hq : q ≠ '\n') {cs : List Char} :
    '\n' ∈ Identifier.doubled q cs ↔ '\n' ∈ cs := by
  induction cs with
  | nil => exact Iff.rfl
  | cons c cs ih =>
    rw [Identifier.doubled, List.flatMap_cons, List.mem_append, List.mem_cons]
    refine or_congr ?_ ih
    by_cases h : c = q <;> simp [h, hq.symm, eq_comm]

/-- An identifier is on one line if its value is. -/
theorem Identifier.not_mem_chars_pieces {x : Identifier} (h : isOneLine x.value = true) :
    '\n' ∉ x.pieces.chars := by
  rw [isOneLine_iff] at h
  unfold pieces
  split
  case h_1 => simpa using h
  case h_2 q _ =>
    split
    case isTrue hq =>
      -- no quote is a line break, so doubling it does not make one
      have hne : q ≠ '\n' := by
        rintro rfl
        exact absurd hq (by decide)
      have hdoubled : '\n' ∉ doubled q x.value.toList := mt (mem_doubled_lineBreak hne).1 h
      simp [hne.symm, hdoubled]
    case isFalse =>
      split
      all_goals simp [h]

/-- A name is on one line if all of its parts are. -/
theorem QualifiedName.not_mem_chars_pieces {n : QualifiedName}
    (h : ∀ x ∈ n.parts, isOneLine x.value = true) : '\n' ∉ n.pieces.chars := by
  rw [pieces, Pieces.chars_separated, List.map_map]
  refine not_mem_joined (by decide) ?_
  intro u hu
  obtain ⟨x, hx, rfl⟩ := List.mem_map.1 hu
  exact x.not_mem_chars_pieces (h x hx)

end SqlTyping
