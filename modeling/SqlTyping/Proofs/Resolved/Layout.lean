import SqlTyping.Proofs.Text.Layout
import SqlTyping.Resolved.Text
import SqlTyping.Text.Blank

/-!
# The layout of resolved types

In the pretty layout, the fields of a declared row stand on lines of their
own, and so do those of the rows within it. `ResolvedType.OnLines` says what
that comes to for a resolved type: each of its rows is laid out by its depth,
as `Layout.pretty.listAt` lays out a list, whatever collections and fields
stand between it and the rows around it. Only for a row without fields it
does not matter how it is written, as there is nothing to put on a line.

The text of a resolved type does less. The layout is that of the outermost
row; its fields are written on one line each, with whatever rows are in them,
and the element of a collection is written on one line too. So the fields are
on their lines exactly when none of them is further in
(`ResolvedType.text?_pretty_onLines_iff`).
-/

namespace SqlTyping

mutual

/-- **A text in which the fields of a type are on lines of their own**, where
the type stands in so many rows: every field that is written starts a line,
behind two blanks for each row it is in. -/
inductive ResolvedType.OnLines : Nat → ResolvedType → List Char → Prop
  /-- A scalar has no fields. -/
  | scalar (depth : Nat) (n : BuiltIn) (f : Facets) (b : Bool) :
      ResolvedType.OnLines depth ⟨.scalar n f, b⟩ (n.pieces f ++ nullablePieces b).chars
  /-- The fields of a collection are those of its elements. -/
  | collection {depth : Nat} {e : ResolvedType} {u : List Char} (k : Collection) (m : Int64)
      (b : Bool) : e.OnLines depth u →
        ResolvedType.OnLines depth ⟨.collection k e m, b⟩
          (u ++ ' ' :: (k.keyword.toList ++ (nullablePieces b).chars))
  /-- A row without fields has white space between its parentheses, if
  anything. -/
  | emptyRow (depth : Nat) (b : Bool) (blank : List Char) : (∀ c ∈ blank, isBlank c = true) →
      ResolvedType.OnLines depth ⟨.row [], b⟩
        ('R' :: 'O' :: 'W' :: '(' :: (blank ++ ')' :: (nullablePieces b).chars))
  /-- A row with fields is one level of depth for each of them. -/
  | row {depth : Nat} {f : ResolvedField} {fs : List ResolvedField} {us : List (List Char)}
      (b : Bool) : ResolvedField.OnLines (depth + 1) (f :: fs) us →
        ResolvedType.OnLines depth ⟨.row (f :: fs), b⟩
          ('R' :: 'O' :: 'W' :: (Layout.pretty.listAt depth us ++ (nullablePieces b).chars))
  /-- A user-defined type is written by its name, without the fields of its
  definition. -/
  | userDefined (depth : Nat) (n : QualifiedName) (t : ResolvedType) (b : Bool) :
      ResolvedType.OnLines depth ⟨.userDefined n t, b⟩ (n.pieces ++ nullablePieces b).chars

/-- Texts of fields, with the fields of each type in them on lines of their
own. -/
inductive ResolvedField.OnLines : Nat → List ResolvedField → List (List Char) → Prop
  | nil (depth : Nat) : ResolvedField.OnLines depth [] []
  | cons {depth : Nat} {t : ResolvedType} {fs : List ResolvedField} {u : List Char}
      {us : List (List Char)} (x : String) : t.OnLines depth u → ResolvedField.OnLines depth fs us →
        ResolvedField.OnLines depth (⟨x, t⟩ :: fs) ((x.toList ++ ' ' :: u) :: us)

end

/-- **Whether a type has fields in its text**, its own or those of the
elements of a collection. -/
def ResolvedType.writesFields : ResolvedType → Bool
  | ⟨.scalar _ _, _⟩ => false
  | ⟨.collection _ e _, _⟩ => e.writesFields
  | ⟨.row fs, _⟩ => !fs.isEmpty
  | ⟨.userDefined _ _, _⟩ => false

/-- **Whether a type has fields in its text but for its own.** -/
def ResolvedType.writesInnerFields : ResolvedType → Bool
  | ⟨.row fs, _⟩ => fs.any fun f => f.type.writesFields
  | t => t.writesFields

/-! ## Names without line breaks -/

mutual

/-- **Whether no name that is written of a type has a line break.** -/
def ResolvedType.isUnbroken : ResolvedType → Bool
  | ⟨.scalar _ _, _⟩ => true
  | ⟨.collection _ e _, _⟩ => e.isUnbroken
  | ⟨.row fs, _⟩ => ResolvedField.areUnbroken fs
  | ⟨.userDefined n _, _⟩ => n.parts.all fun x => isOneLine x.value

/-- Whether no name that is written of the fields has a line break. -/
def ResolvedField.areUnbroken : List ResolvedField → Bool
  | [] => true
  | ⟨x, t⟩ :: fs => isOneLine x && t.isUnbroken && ResolvedField.areUnbroken fs

end

@[simp] theorem ResolvedField.areUnbroken_cons {x : String} {t : ResolvedType}
    {fs : List ResolvedField} :
    areUnbroken (⟨x, t⟩ :: fs) = true
      ↔ isOneLine x = true ∧ t.isUnbroken = true ∧ areUnbroken fs = true := by
  rw [areUnbroken, Bool.and_eq_true, Bool.and_eq_true, and_assoc]

theorem not_mem_chars_nullablePieces (b : Bool) : '\n' ∉ (nullablePieces b).chars := by
  cases b <;> decide

mutual

/-- **What is written on one line is on one line.** -/
theorem ResolvedType.not_mem_chars_compactPieces : ∀ t : ResolvedType, t.isUnbroken = true →
    '\n' ∉ t.compactPieces.chars
  | ⟨.scalar n f, b⟩, _ => by
    rw [ResolvedType.compactPieces, Pieces.chars_append, List.mem_append, not_or]
    exact ⟨n.not_mem_chars_pieces f, not_mem_chars_nullablePieces b⟩
  | ⟨.collection k e m, b⟩, h => by
    have hk : '\n' ∉ (" " ++ k.keyword).toList := by simp [k.not_mem_keyword]
    rw [ResolvedType.compactPieces, Pieces.chars_append, Pieces.chars_cons, List.mem_append,
      List.mem_append, not_or, not_or]
    exact ⟨e.not_mem_chars_compactPieces h, hk, not_mem_chars_nullablePieces b⟩
  | ⟨.row fs, b⟩, h => by
    have hfs : '\n' ∉ joined [',', ' '] ((ResolvedField.piecesAll fs).map Pieces.chars) := by
      refine not_mem_joined (by decide) ?_
      intro u hu
      obtain ⟨ps, hps, rfl⟩ := List.mem_map.1 hu
      exact ResolvedField.not_mem_chars_piecesAll fs h ps hps
    rw [ResolvedType.compactPieces, Pieces.chars_append, Pieces.chars_cons,
      Layout.chars_parenthesized_compact]
    simp [hfs, not_mem_chars_nullablePieces]
  | ⟨.userDefined n _, b⟩, h => by
    rw [ResolvedType.compactPieces, Pieces.chars_append, List.mem_append, not_or]
    exact ⟨n.not_mem_chars_pieces (List.all_eq_true.1 h), not_mem_chars_nullablePieces b⟩

theorem ResolvedField.not_mem_chars_piecesAll : ∀ fs : List ResolvedField,
    ResolvedField.areUnbroken fs = true → ∀ ps ∈ ResolvedField.piecesAll fs, '\n' ∉ ps.chars
  | [], _, _, hps => absurd hps List.not_mem_nil
  | ⟨x, t⟩ :: fs, h, ps, hps => by
    obtain ⟨hx, ht, hfs⟩ := ResolvedField.areUnbroken_cons.1 h
    rcases List.mem_cons.1 hps with rfl | hps
    · have hx := isOneLine_iff.1 hx
      simp [hx, t.not_mem_chars_compactPieces ht]
    · exact ResolvedField.not_mem_chars_piecesAll fs hfs ps hps

end

/-! ## Fields on lines -/

/-- **Without fields, one line will do.** -/
theorem ResolvedType.onLines_compactPieces (depth : Nat) :
    ∀ t : ResolvedType, t.writesFields = false → t.OnLines depth t.compactPieces.chars
  | ⟨.scalar n f, b⟩, _ => .scalar depth n f b
  | ⟨.collection k e m, b⟩, h => by
    have he : e.OnLines depth e.compactPieces.chars := e.onLines_compactPieces depth h
    rw [compactPieces, Pieces.chars_append, Pieces.chars_cons, String.toList_append,
      List.append_assoc]
    exact .collection k m b he
  | ⟨.row [], b⟩, _ => .emptyRow depth b [] (by simp)
  | ⟨.userDefined n t, b⟩, _ => .userDefined depth n t b

/-- **With fields, one line is not enough.** -/
theorem ResolvedType.mem_of_onLines {depth : Nat} : ∀ {t : ResolvedType} {u : List Char},
    t.OnLines depth u → t.writesFields = true → '\n' ∈ u
  | ⟨.scalar _ _, _⟩, _, _, hw => by cases hw
  | ⟨.collection k e m, b⟩, _, h, hw => by
    cases h with
    | collection k m b he => exact List.mem_append_left _ (mem_of_onLines he hw)
  | ⟨.row fs, b⟩, _, h, hw => by
    cases h with
    | emptyRow => cases hw
    | row b hfs => simp [Layout.listAt, Layout.newLine]
  | ⟨.userDefined _ _, _⟩, _, _, hw => by cases hw

namespace ResolvedField.OnLines

variable {depth : Nat} {fs : List ResolvedField} {us : List (List Char)}

/-- There is a text for each field. -/
theorem length_eq (h : OnLines depth fs us) : us.length = fs.length := by
  induction fs generalizing us with
  | nil => cases h; rfl
  | cons f fs ih => cases h with | cons x ht hfs => rw [List.length_cons, ih hfs, List.length_cons]

/-- A text is not on one line if the type in it has fields. -/
theorem exists_mem (h : OnLines depth fs us) {f : ResolvedField} (hf : f ∈ fs)
    (hw : f.type.writesFields = true) : ∃ u ∈ us, '\n' ∈ u := by
  induction fs generalizing us with
  | nil => cases hf
  | cons g fs ih =>
    cases h with
    | cons x ht hfs =>
      rcases List.mem_cons.1 hf with rfl | hf
      · exact ⟨_, List.mem_cons_self, by simp [ResolvedType.mem_of_onLines ht hw]⟩
      · obtain ⟨u, hu, hmem⟩ := ih hfs hf
        exact ⟨u, List.mem_cons_of_mem _ hu, hmem⟩

end ResolvedField.OnLines

/-- Fields without fields in their types can be written on one line each. -/
theorem ResolvedField.onLines_pieces (depth : Nat) {fs : List ResolvedField}
    (h : ∀ f ∈ fs, f.type.writesFields = false) :
    OnLines depth fs (fs.map (·.pieces.chars)) := by
  induction fs with
  | nil => exact .nil depth
  | cons f fs ih =>
    obtain ⟨x, t⟩ := f
    obtain ⟨ht, hfs⟩ := List.forall_mem_cons.1 h
    have hchars : (pieces ⟨x, t⟩).chars = x.toList ++ ' ' :: t.compactPieces.chars := by
      simp [pieces]
    rw [List.map_cons, hchars]
    exact .cons x (t.onLines_compactPieces depth ht) (ih hfs)

/-! ## What the text does -/

section OutermostRow

variable {fs : List ResolvedField}

theorem ResolvedField.not_mem_chars_pieces (h : areUnbroken fs = true) :
    ∀ u ∈ fs.map (·.pieces.chars), '\n' ∉ u := by
  intro u hu
  obtain ⟨f, hf, rfl⟩ := List.mem_map.1 hu
  refine not_mem_chars_piecesAll fs h _ ?_
  rw [piecesAll_eq_map]
  exact List.mem_map_of_mem hf

/-- **The outermost row is laid out** with each field on one line. -/
theorem ResolvedType.chars_pieces_row (h : ResolvedField.areUnbroken fs = true) (b : Bool) :
    (pieces .pretty ⟨.row fs, b⟩).chars
      = 'R' :: 'O' :: 'W' :: (Layout.pretty.listAt 0 (fs.map (·.pieces.chars))
          ++ (nullablePieces b).chars) := by
  have hmembers : (fs.map (·.pieces)).map (Pieces.charsAt (Layout.pretty.blocks (0 + 1)))
      = fs.map (·.pieces.chars) := by
    rw [List.map_map]
    refine List.map_congr_left fun f hf => Pieces.charsAt_eq_chars ?_ _
    exact ResolvedField.not_mem_chars_pieces h _ (List.mem_map_of_mem hf)
  rw [← hmembers, ← Layout.charsAt_parenthesized, Layout.charsAt_blocks_zero]
  simp [pieces]

/-- A row with fields is laid out by its depth, if its fields are on lines. -/
theorem ResolvedType.OnLines.exists_listAt {depth : Nat} {b : Bool} {u : List Char}
    (h : OnLines depth ⟨.row fs, b⟩ u) (hne : fs ≠ []) :
    ∃ us, ResolvedField.OnLines (depth + 1) fs us
      ∧ u = 'R' :: 'O' :: 'W' :: (Layout.pretty.listAt depth us ++ (nullablePieces b).chars) := by
  cases h with
  | emptyRow => exact absurd rfl hne
  | row b hfs => exact ⟨_, hfs, rfl⟩

/-- **Its fields are on lines if there are no others.** -/
theorem ResolvedType.onLines_pieces_row_iff (h : ResolvedField.areUnbroken fs = true) (b : Bool) :
    OnLines 0 ⟨.row fs, b⟩ (pieces .pretty ⟨.row fs, b⟩).chars
      ↔ ∀ f ∈ fs, f.type.writesFields = false := by
  rw [chars_pieces_row h b]
  constructor
  · intro hlines f hf
    obtain ⟨us, hus, htext⟩ := hlines.exists_listAt (List.ne_nil_of_mem hf)
    -- both lists have a member for each field, and those of the text are on one line each
    have hlist : Layout.pretty.listAt 0 (fs.map (·.pieces.chars)) = Layout.pretty.listAt 0 us := by
      simpa using htext
    have hjoined : joined (Layout.pretty.commaAt 1) us
        = joined (Layout.pretty.commaAt 1) (fs.map (·.pieces.chars)) := by
      simpa [Layout.listAt] using hlist.symm
    have hlen : us.length = (fs.map (·.pieces.chars)).length :=
      hus.length_eq.trans (List.length_map _).symm
    rw [← Bool.not_eq_true]
    intro hw
    obtain ⟨u, hu, hmem⟩ := hus.exists_mem hf hw
    exact not_mem_of_joined_eq hjoined hlen (ResolvedField.not_mem_chars_pieces h) u hu hmem
  · intro hfs
    cases fs with
    | nil => exact .emptyRow 0 b ['\n', ' ', ' ', '\n'] (List.all_eq_true.1 rfl)
    | cons f fs => exact .row b (ResolvedField.onLines_pieces 1 hfs)

end OutermostRow

/-- A type that is no row is written on one line in either layout. -/
theorem ResolvedType.onLines_compactPieces_iff {t : ResolvedType} (h : t.isUnbroken = true) :
    t.OnLines 0 t.compactPieces.chars ↔ t.writesFields = false := by
  refine ⟨fun hlines => ?_, t.onLines_compactPieces 0⟩
  rw [← Bool.not_eq_true]
  intro hw
  exact t.not_mem_chars_compactPieces h (mem_of_onLines hlines hw)

/-- **The fields of the text are on lines exactly when the outermost row has
them all.** -/
theorem ResolvedType.onLines_chars_pieces_iff {t : ResolvedType} (h : t.isUnbroken = true) :
    t.OnLines 0 (t.pieces .pretty).chars ↔ t.writesInnerFields = false := by
  match t, h with
  | ⟨.scalar n f, b⟩, h => exact onLines_compactPieces_iff h
  | ⟨.collection k e m, b⟩, h => exact onLines_compactPieces_iff h
  | ⟨.row fs, b⟩, h => simp [onLines_pieces_row_iff h, writesInnerFields]
  | ⟨.userDefined n t, b⟩, h => exact onLines_compactPieces_iff h

/-- **The fields of a resolved type are on lines of their own when no field
is within another.** A type whose names can be written and have no line
breaks in them has a text in the pretty layout. In that text every field
starts a line, behind two blanks for each row it is in, exactly when all
fields are those of the outermost row: one within a field, or within the
element of a collection, is written on the line of what it is in. -/
theorem ResolvedType.text?_pretty_onLines_iff {t : ResolvedType} (hw : t.isWritable = true)
    (hn : t.isUnbroken = true) :
    ∃ text, t.text? .pretty = .ok text
      ∧ (t.OnLines 0 text.toList ↔ t.writesInnerFields = false) := by
  refine ⟨(t.pieces .pretty).text, if_pos hw, ?_⟩
  rw [Pieces.toList_text]
  exact onLines_chars_pieces_iff hn

/-- The type `ROW(a VARCHAR(3) ARRAY, e ROW())`. -/
def ResolvedType.flatRow : ResolvedType :=
  rowOf [⟨"a", .collectionOf .array ⟨.scalar .varchar ⟨some 3, none⟩, false⟩ unboundedSize⟩,
    ⟨"e", rowOf []⟩]

/-- All its fields are those of the row. -/
theorem ResolvedType.onLines_flatRow :
    ∃ text, flatRow.text? .pretty = .ok text
      ∧ text = "ROW(\n  a VARCHAR(3) NOT NULL ARRAY NOT NULL,\n  e ROW() NOT NULL\n) NOT NULL"
      ∧ flatRow.OnLines 0 text.toList := by
  obtain ⟨text, htext, h⟩ := text?_pretty_onLines_iff (t := flatRow) (by decide) (by decide)
  refine ⟨text, htext, ?_, h.2 (by decide)⟩
  cases htext
  decide +kernel

/-- The type `ROW(a ROW(b INTEGER))`. -/
def ResolvedType.rowInRow : ResolvedType :=
  rowOf [⟨"a", rowOf [⟨"b", ⟨.scalar .integer .none, false⟩⟩]⟩]

/-- **In `ROW(a ROW(b INTEGER))` the field `b` is on the line of `a`**, where
it should have a line of its own. So not every type has its fields on lines. -/
theorem ResolvedType.not_onLines_rowInRow :
    rowInRow.OnLines 0 "ROW(\n  a ROW(\n    b INTEGER NOT NULL\n  ) NOT NULL\n) NOT NULL".toList
      ∧ rowInRow.text? .pretty = .ok "ROW(\n  a ROW(b INTEGER NOT NULL) NOT NULL\n) NOT NULL"
      ∧ ¬ ∀ t : ResolvedType, t.isWritable = true → t.isUnbroken = true →
        ∃ text, t.text? .pretty = .ok text ∧ t.OnLines 0 text.toList := by
  refine ⟨?_, congrArg Except.ok (by decide +kernel), ?_⟩
  · have hb := ResolvedField.OnLines.cons "b" (.scalar 2 .integer .none false) (.nil 2)
    have ha := ResolvedField.OnLines.cons "a" (.row false hb) (.nil 1)
    have hrow : rowInRow.OnLines 0 _ := .row false ha
    refine Eq.mp (congrArg (rowInRow.OnLines 0) ?_) hrow
    decide +kernel
  · intro h
    obtain ⟨text, htext, hlines⟩ := h rowInRow (by decide) (by decide)
    cases htext
    rw [Pieces.toList_text, onLines_chars_pieces_iff (by decide)] at hlines
    exact absurd hlines (by decide)

end SqlTyping
