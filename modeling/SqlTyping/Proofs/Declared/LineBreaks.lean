import SqlTyping.Proofs.Declared.Layout

/-!
# Line breaks in names

The names and collection keywords of a declared type, its **tokens**, may
have line breaks in them. A block takes a line break for layout if it is a
piece of its own, and which pieces a token is written in depends on its
quotes. Between self-closing quotes and in keywords, every character is a
piece; otherwise a line break is one only if it is all there is. Such a
break is **loose** (`Token.hasLooseBreak`).

The pretty text of a declared type is laid out in the way it should be around
its tokens, whatever they are. In a token with a loose break, though, blanks
are put in for every row around it. The text is what the layout says exactly
when no token in a row has a loose break
(`DeclaredType.text?_pretty_eq_laidOut_iff`).
-/

namespace SqlTyping

/-! ## Loose breaks -/

namespace Pieces

/-- **How long pieces become in so many blocks**: each line break that is a
piece takes the indentation. -/
theorem length_charsAt (depth : Nat) (ps : Pieces) :
    (charsAt depth ps).length = ps.chars.length + ps.count "\n" * (2 * depth) := by
  induction ps with
  | nil => simp
  | cons p ps ih =>
    by_cases h : p = "\n"
    · subst h
      rw [charsAt_cons_lineBreak, chars_cons, List.count_cons_self, Nat.succ_mul]
      simp only [List.length_cons, List.length_append, ih, indentation, List.length_replicate]
      have hbreak : ("\n" : String).toList.length = 1 := rfl
      omega
    · rw [charsAt_cons_of_ne h, chars_cons, List.count_cons_of_ne h, List.length_append,
        List.length_append, ih, Nat.add_assoc]

/-- Nothing is put in without blocks, or without line breaks among the
pieces. -/
theorem count_mul_eq_zero_iff {depth : Nat} {ps : Pieces} :
    ps.count "\n" * (2 * depth) = 0 ↔ depth = 0 ∨ "\n" ∉ ps := by
  rw [Nat.mul_eq_zero, List.count_eq_zero, or_comm]
  exact or_congr_left (by omega)

/-- **Blocks leave pieces as they are** exactly when there are no blocks, or
no line breaks among the pieces. -/
theorem charsAt_eq_chars_iff {depth : Nat} {ps : Pieces} :
    charsAt depth ps = ps.chars ↔ depth = 0 ∨ "\n" ∉ ps := by
  constructor
  · intro h
    have hlen : (charsAt depth ps).length = ps.chars.length := by rw [h]
    rw [length_charsAt] at hlen
    exact count_mul_eq_zero_iff.1 (by omega)
  · rintro (rfl | h)
    · exact charsAt_zero ps
    · induction ps with
      | nil => rfl
      | cons p ps ih =>
        rw [List.mem_cons, not_or] at h
        rw [charsAt_cons_of_ne (Ne.symm h.1), chars_cons, ih h.2]

/-- A character at a time, every line break is a piece. -/
theorem lineBreak_mem_ofChars {cs : List Char} : "\n" ∈ ofChars cs ↔ '\n' ∈ cs := by
  have hsingle (c : Char) : String.singleton c = "\n" ↔ c = '\n' := by
    rw [← String.toList_inj]
    simp
  simp [ofChars, hsingle]

end Pieces

/-- **Whether an identifier has a loose line break**: between self-closing
quotes any, and otherwise one that is the whole value. -/
def Identifier.hasLooseBreak (x : Identifier) : Bool :=
  if x.quote.any selfClosingQuotes.contains then !isOneLine x.value else x.value == "\n"

/-- **Whether a token has a loose line break.** A keyword is written without
its quotes, and any line break in it is loose. -/
def Token.hasLooseBreak : Token → Bool
  | name x => x.hasLooseBreak
  | keyword k => !isOneLine k.value

/-- **A loose line break is a piece of its own**, and there are no others
among the pieces of an identifier. -/
theorem Identifier.lineBreak_mem_pieces_iff {x : Identifier} (hw : x.isWritable = true) :
    "\n" ∈ x.pieces ↔ x.hasLooseBreak = true := by
  obtain ⟨v, quote, s⟩ := x
  cases quote with
  | none =>
    show "\n" ∈ [v] ↔ (v == "\n") = true
    rw [List.mem_singleton, beq_iff_eq, eq_comm]
  | some q =>
    show "\n" ∈ (if selfClosingQuotes.contains q then
        Pieces.ofChars (q :: doubled q v.toList ++ [q])
      else if q = '[' then ["[", v, "]"] else [])
        ↔ (if selfClosingQuotes.contains q then !isOneLine v else v == "\n") = true
    by_cases hself : selfClosingQuotes.contains q = true
    · -- no quote is a line break
      have hq : q ≠ '\n' := by
        rintro rfl
        exact absurd hself (by decide)
      rw [if_pos hself, if_pos hself, Pieces.lineBreak_mem_ofChars, not_isOneLine_iff]
      simp [mem_doubled_lineBreak hq, hq.symm]
    · have hbracket : q = '[' := by
        have hw : isQuote q = true := hw
        rw [isQuote, Bool.or_eq_true, beq_iff_eq] at hw
        exact hw.resolve_left hself
      rw [if_neg hself, if_neg hself, if_pos hbracket, beq_iff_eq, eq_comm]
      simp

/-- **A loose line break is a piece of its own**, and there are no others
among the pieces of a token. -/
theorem Token.lineBreak_mem_pieces_iff {w : Token} (hw : w.isWritable = true) :
    "\n" ∈ w.pieces ↔ w.hasLooseBreak = true := by
  cases w with
  | name x => exact x.lineBreak_mem_pieces_iff hw
  | keyword k =>
    rw [pieces, Pieces.lineBreak_mem_ofChars, mem_foldCase_lineBreak, hasLooseBreak,
      not_isOneLine_iff]

/-- **What stands for a token in so many rows** is the token as it is by
itself exactly when there are no rows, or it has no loose line break. -/
theorem Token.charsAt_pieces_eq_chars_iff {w : Token} (hw : w.isWritable = true)
    {depth : Nat} :
    Pieces.charsAt depth w.pieces = w.pieces.chars ↔ depth = 0 ∨ w.hasLooseBreak = false := by
  rw [Pieces.charsAt_eq_chars_iff, w.lineBreak_mem_pieces_iff hw, Bool.not_eq_true]

/-! ## Lengths -/

section Lengths

variable (layout : Layout)

section TwoWays

variable {write write' : Nat → Token → List Char}

/-- How long tokens are together, written in a way. -/
def Token.lengths (write : Nat → Token → List Char) (ts : List (Nat × Token)) : Nat :=
  (ts.flatMap fun p => write p.1 p.2).length

@[simp] theorem Token.lengths_nil : lengths write [] = 0 := rfl

@[simp] theorem Token.lengths_cons (p : Nat × Token) (ts : List (Nat × Token)) :
    lengths write (p :: ts) = (write p.1 p.2).length + lengths write ts := by
  rw [lengths, List.flatMap_cons, List.length_append]
  rfl

@[simp] theorem Token.lengths_append (ts us : List (Nat × Token)) :
    lengths write (ts ++ us) = lengths write ts + lengths write us := by
  rw [lengths, List.flatMap_append, List.length_append]
  rfl

/-- The fields of a row are as many, however their tokens are written. -/
theorem DeclaredField.length_laidOutBy (depth : Nat) (fs : List DeclaredField) :
    (laidOutBy layout write depth fs).length = fs.length := by
  induction fs with
  | nil => rfl
  | cons f fs ih =>
    obtain ⟨x, t⟩ := f
    rw [laidOutBy, List.length_cons, ih, List.length_cons]

mutual

/-- From one way of writing tokens to another, a descriptor gets longer by as
much as its tokens do. -/
theorem Descriptor.length_laidOutBy_add : ∀ (depth : Nat) (d : Descriptor),
    (d.laidOutBy layout write depth).length + Token.lengths write' (d.tokens depth)
      = (d.laidOutBy layout write' depth).length + Token.lengths write (d.tokens depth)
  | _, .builtIn _ _ _ => rfl
  | depth, .collection e k _ => by
    have he := e.length_laidOutBy_add depth
    rw [Descriptor.laidOutBy, Descriptor.laidOutBy, Descriptor.tokens, List.length_append,
      List.length_append]
    omega
  | depth, .row fs _ => by
    have hfs := DeclaredField.length_laidOutBy_add (depth + 1) fs
    rw [Descriptor.laidOutBy, Descriptor.laidOutBy, Descriptor.tokens]
    simp only [List.length_cons, Layout.length_listAt, DeclaredField.length_laidOutBy]
    omega
  | depth, .named n _ => by
    have hparts (write : Nat → Token → List Char) :
        (n.parts.map fun x => write depth (.name x)).flatten.length
          = Token.lengths write (n.parts.map fun x => (depth, .name x)) := by
      rw [Token.lengths, List.flatMap_map, List.flatMap_def]
    rw [Descriptor.laidOutBy, Descriptor.laidOutBy, Descriptor.tokens, length_joined,
      length_joined, hparts, hparts, List.length_map, List.length_map]
    omega

/-- **From one way of writing tokens to another, a declared type gets longer
by as much as its tokens do.** -/
theorem DeclaredType.length_laidOutBy_add : ∀ (depth : Nat) (t : DeclaredType),
    (t.laidOutBy layout write depth).length + Token.lengths write' (t.tokens depth)
      = (t.laidOutBy layout write' depth).length + Token.lengths write (t.tokens depth)
  | depth, ⟨none, d, _, _, _, _⟩ => by
    have hd := d.length_laidOutBy_add depth
    simpa [DeclaredType.laidOutBy, DeclaredType.tokens] using hd
  | depth, ⟨some k, d, _, _, _, _⟩ => by
    have hd := d.length_laidOutBy_add depth
    simp only [DeclaredType.laidOutBy, DeclaredType.tokens, Option.map_some, Option.toList_some,
      Token.lengths_append, Token.lengths_cons, Token.lengths_nil, List.length_append,
      List.length_cons]
    omega

theorem DeclaredField.length_laidOutBy_add : ∀ (depth : Nat) (fs : List DeclaredField),
    (DeclaredField.laidOutBy layout write depth fs).flatten.length
        + Token.lengths write' (DeclaredField.tokens depth fs)
      = (DeclaredField.laidOutBy layout write' depth fs).flatten.length
        + Token.lengths write (DeclaredField.tokens depth fs)
  | _, [] => rfl
  | depth, ⟨x, t⟩ :: fs => by
    have ht := t.length_laidOutBy_add depth
    have hfs := DeclaredField.length_laidOutBy_add depth fs
    simp only [DeclaredField.laidOutBy, DeclaredField.tokens, List.flatten_cons,
      List.length_append, List.length_cons, Token.lengths_cons, Token.lengths_append]
    omega

end

end TwoWays

/-! ### Tokens as they are -/

/-- Blocks take no characters away. -/
theorem Layout.length_chars_le_write (depth : Nat) (w : Token) :
    w.pieces.chars.length ≤ (layout.write depth w).length := by
  rw [write, Pieces.length_charsAt]
  exact Nat.le_add_right _ _

theorem Token.lengths_chars_le_write (ts : List (Nat × Token)) :
    lengths (fun _ w => w.pieces.chars) ts ≤ lengths layout.write ts := by
  induction ts with
  | nil => exact Nat.le_refl _
  | cons p ts ih =>
    rw [lengths_cons, lengths_cons]
    exact Nat.add_le_add (layout.length_chars_le_write p.1 p.2) ih

/-- **Tokens that are not longer together are as they are by themselves.** -/
theorem Token.write_eq_chars_of_lengths_eq {ts : List (Nat × Token)}
    (h : lengths layout.write ts = lengths (fun _ w => w.pieces.chars) ts) :
    ∀ p ∈ ts, layout.write p.1 p.2 = p.2.pieces.chars := by
  induction ts with
  | nil => exact fun _ hp => absurd hp List.not_mem_nil
  | cons p ts ih =>
    -- none is shorter, so none can make up for one that is longer
    have hp := layout.length_chars_le_write p.1 p.2
    have hts := lengths_chars_le_write layout ts
    rw [lengths_cons, lengths_cons] at h
    have hlen : (layout.write p.1 p.2).length = p.2.pieces.chars.length := by omega
    rw [List.forall_mem_cons]
    refine ⟨?_, ih (by omega)⟩
    rw [Layout.write, Pieces.length_charsAt] at hlen
    exact Pieces.charsAt_eq_chars_iff.2 (Pieces.count_mul_eq_zero_iff.1 (by omega))

/-- **A declared type is written as it is laid out** exactly when what stands
for each of its tokens is the token as it is by itself. -/
theorem DeclaredType.chars_pieces_eq_laidOut_iff {t : DeclaredType} :
    (t.pieces layout).chars = t.laidOut layout 0
      ↔ ∀ p ∈ t.tokens 0, layout.write p.1 p.2 = p.2.pieces.chars := by
  rw [← layout.charsAt_blocks_zero, t.charsAt_pieces_eq_laidOutBy, ← t.laidOutBy_chars]
  constructor
  · intro h
    have hlen : (t.laidOutBy layout layout.write 0).length + Token.lengths _ (t.tokens 0)
        = (t.laidOutBy layout (fun _ w => w.pieces.chars) 0).length
          + Token.lengths _ (t.tokens 0) :=
      t.length_laidOutBy_add layout 0
    rw [h] at hlen
    exact Token.write_eq_chars_of_lengths_eq layout (Nat.add_left_cancel hlen).symm
  · exact fun h => t.laidOutBy_congr layout 0 h

end Lengths

/-- **The pretty text is what its layout writes, but for loose line breaks.**
Of a type whose names can be written,

* the pretty text is laid out around what stands in it for the tokens;
* what stands for a name in so many rows is the text of that name by itself
  exactly when there are no rows around it, or it has no loose line break;
* the text is what `laidOut` writes, with every token as it is by itself and
  indentation only where the layout breaks lines, exactly when no token in a row
  has a loose line break. -/
theorem DeclaredType.text?_pretty_eq_laidOut_iff {t : DeclaredType} (hw : t.isWritable = true) :
    t.text? .pretty = .ok (String.ofList (t.laidOutBy .pretty Layout.pretty.write 0))
      ∧ (∀ (depth : Nat) (x : Identifier), (depth, .name x) ∈ t.tokens 0 →
          (x.text? = .ok (String.ofList (Layout.pretty.write depth (.name x)))
            ↔ depth = 0 ∨ x.hasLooseBreak = false))
      ∧ (t.text? .pretty = .ok (String.ofList (t.laidOut .pretty 0))
          ↔ ∀ p ∈ t.tokens 0, p.1 = 0 ∨ p.2.hasLooseBreak = false) := by
  have htext : t.text? .pretty = .ok (String.ofList (t.pieces .pretty).chars) := if_pos hw
  have htokens : ∀ p ∈ t.tokens 0, p.2.isWritable = true := by
    rwa [t.isWritable_eq_all 0, List.all_eq_true] at hw
  refine ⟨?_, fun depth x hx => ?_, ?_⟩
  · rw [htext, ← t.charsAt_pieces_eq_laidOutBy, Layout.pretty.charsAt_blocks_zero]
  · have hxw : x.isWritable = true := htokens _ hx
    rw [Identifier.text?, if_pos hxw, Except.ok.injEq, Pieces.text, String.ofList_inj, eq_comm]
    exact (Token.name x).charsAt_pieces_eq_chars_iff hxw
  · rw [htext, Except.ok.injEq, String.ofList_inj, chars_pieces_eq_laidOut_iff]
    exact forall₂_congr fun p hp => p.2.charsAt_pieces_eq_chars_iff (htokens p hp)

/-- A row of an integer, with a line break in the quoted name of its field. -/
def DeclaredType.brokenRow (quote : Char) : DeclaredType :=
  let integer := plain (.ofBuiltIn .integer) .unknown
  plain (.row [⟨⟨"a\nb", some quote, .unknown⟩, integer⟩] .unknown) .unknown

/-- In brackets the name is written in one piece, and stays as it is. -/
theorem DeclaredType.text?_pretty_bracketRow :
    (brokenRow '[').isWritable = true
      ∧ (brokenRow '[').tokens 0 = [(1, .name ⟨"a\nb", some '[', .unknown⟩)]
      ∧ (brokenRow '[').text? .pretty = .ok "ROW(\n  [a\nb] INTEGER\n)" := by
  have hw : (brokenRow '[').isWritable = true := by decide
  have hloose : ∀ p ∈ (brokenRow '[').tokens 0, p.1 = 0 ∨ p.2.hasLooseBreak = false := by
    intro p hp
    obtain rfl : p = (1, .name ⟨"a\nb", some '[', .unknown⟩) := List.mem_singleton.1 hp
    exact .inr rfl
  refine ⟨hw, rfl, ?_⟩
  rw [(text?_pretty_eq_laidOut_iff hw).2.2.2 hloose]
  exact congrArg Except.ok (by decide +kernel)

/-- **Between double quotes the name is written with two blanks in it**, so
the pretty text is not always what its layout writes, and what stands for a
name is not always its text. -/
theorem DeclaredType.not_text?_pretty_eq_laidOut :
    (brokenRow '\x22').text? .pretty = .ok "ROW(\n  \x22a\n  b\x22 INTEGER\n)"
      ∧ (¬ ∀ t : DeclaredType, t.isWritable = true →
          t.text? .pretty = .ok (String.ofList (t.laidOut .pretty 0)))
      ∧ ¬ ∀ t : DeclaredType, t.isWritable = true →
          ∀ (depth : Nat) (x : Identifier), (depth, .name x) ∈ t.tokens 0 →
            x.text? = .ok (String.ofList (Layout.pretty.write depth (.name x))) := by
  have htext : (brokenRow '\x22').text? .pretty = .ok "ROW(\n  \x22a\n  b\x22 INTEGER\n)" :=
    congrArg Except.ok (by decide +kernel)
  refine ⟨htext, fun h => ?_, fun h => ?_⟩
  · have hrow := htext.symm.trans (h (brokenRow '\x22') (by decide))
    exact absurd (Except.ok.inj hrow) (by decide +kernel)
  · have hname := h (brokenRow '\x22') (by decide) 1 ⟨"a\nb", some '\x22', .unknown⟩
      (List.mem_singleton.2 rfl)
    exact absurd (Except.ok.inj hname) (by decide +kernel)

end SqlTyping
