import SqlTyping.Proofs.Name.Unplaced
import SqlTyping.Proofs.Text.Wording

/-!
# Names and their texts

A name is **well-formed** if it has parts, each of which is a word or
stands in quotes of one of the four kinds. Names that are not `==` have
different texts as long as there are no brackets. A word ends where its
characters do. A quote that closes itself is doubled within the value, so
the first that is not doubled is the one that closes.

A closing bracket is not doubled. What looks like the seam between two
parts may be hidden in the value of one, as `[a].[b]` is both a name of two
parts and the single identifier with the value `a].[b`. Two names have the
same text exactly when they are `==` or one of them hides a seam of the
other in this way (`QualifiedName.text?_eq_iff`). Where every part marks its
end, by a quote that is doubled within or by being a word, no seam is hidden,
and the text of a name tells its parts (`QualifiedName.text?_tells_parts`).
-/

namespace SqlTyping

/-! ## Seams behind parts -/

/-- **What stands behind a part of a name**: nothing, or a dot. -/
def EndsPart (s : List Char) : Prop := ∀ c ∈ s.head?, c = '.'

@[simp] theorem endsPart_nil : EndsPart [] := by simp [EndsPart]

@[simp] theorem endsPart_cons {c : Char} {s : List Char} : EndsPart (c :: s) ↔ c = '.' := by
  simp [EndsPart]

/-- It ends every run without dots. -/
theorem EndsPart.endsRun {p : Char → Bool} {s : List Char} (h : EndsPart s)
    (hp : p '.' = false) : EndsRun p s := by
  intro c hc
  rw [h c hc, hp]

/-- Further parts, each with a dot before it, stand behind a part. -/
theorem endsPart_trailing (us : List (List Char)) : EndsPart (trailing ['.'] us) := by
  cases us <;> simp [trailing]

namespace Identifier

theorem doubled_cons (q c : Char) (cs : List Char) :
    doubled q (c :: cs) = (if c = q then [q, c] else [c]) ++ doubled q cs := rfl

/-- A quote that closes is not taken for one in the value. -/
theorem quote_cons_ne_doubled {q d : Char} {ds s t : List Char} (hs : EndsRun (· == q) s) :
    q :: s ≠ doubled q (d :: ds) ++ t := by
  intro h
  rw [doubled_cons] at h
  by_cases hd : d = q
  · -- the one in the value is doubled
    rw [if_pos hd, hd] at h
    rw [(List.cons.inj h).2] at hs
    simp at hs
  · rw [if_neg hd] at h
    exact hd (List.cons.inj h).1.symm

/-- **The seam behind a value with doubled quotes** is at the first quote
that is not doubled. -/
theorem doubled_append_inj {q : Char} {cs ds s t : List Char} (hs : EndsRun (· == q) s)
    (ht : EndsRun (· == q) t) (h : doubled q cs ++ q :: s = doubled q ds ++ q :: t) :
    cs = ds ∧ s = t := by
  induction cs generalizing ds with
  | nil =>
    cases ds with
    | nil => exact ⟨rfl, (List.cons.inj h).2⟩
    | cons d ds => exact absurd h (quote_cons_ne_doubled hs)
  | cons c cs ih =>
    cases ds with
    | nil => exact absurd h.symm (quote_cons_ne_doubled ht)
    | cons d ds =>
      have hcd : c = d ∧ doubled q cs ++ q :: s = doubled q ds ++ q :: t := by
        rw [doubled_cons, doubled_cons] at h
        by_cases hc : c = q <;> by_cases hd : d = q <;> simp_all
      obtain ⟨rfl, hrest⟩ := hcd
      obtain ⟨rfl, hst⟩ := ih hrest
      exact ⟨rfl, hst⟩

/-- A bracket that may close a value closes it, or is within it and has a
dot behind it. -/
theorem bracket_append_cases {a s t : List Char} (hs : EndsPart s)
    (h : ']' :: s = a ++ ']' :: t) :
    (a = [] ∧ s = t) ∨ ∃ u, a = ']' :: '.' :: u ∧ s = '.' :: (u ++ ']' :: t) := by
  cases a with
  | nil => exact .inl ⟨rfl, (List.cons.inj h).2⟩
  | cons c a =>
    obtain ⟨rfl, rfl⟩ := List.cons.inj h
    cases a with
    | nil => simp at hs
    | cons d u =>
      obtain rfl : d = '.' := endsPart_cons.1 hs
      exact .inr ⟨u, rfl, rfl⟩

/-- **The seam behind a value in brackets** is told unless it is within
another value. -/
theorem bracketed_append_cases {v w s t : List Char} (hs : EndsPart s) (ht : EndsPart t)
    (h : v ++ ']' :: s = w ++ ']' :: t) :
    (v = w ∧ s = t)
      ∨ (∃ u, w = v ++ ']' :: '.' :: u ∧ s = '.' :: (u ++ ']' :: t))
      ∨ ∃ u, v = w ++ ']' :: '.' :: u ∧ t = '.' :: (u ++ ']' :: s) := by
  -- one value is the beginning of the other
  rcases List.append_eq_append_iff.1 h with ⟨a, rfl, hrest⟩ | ⟨a, rfl, hrest⟩
  · rcases bracket_append_cases hs hrest with ⟨rfl, hst⟩ | ⟨u, rfl, hu⟩
    · exact .inl ⟨(List.append_nil v).symm, hst⟩
    · exact .inr (.inl ⟨u, rfl, hu⟩)
  · rcases bracket_append_cases ht hrest with ⟨rfl, hst⟩ | ⟨u, rfl, hu⟩
    · exact .inl ⟨List.append_nil w, hst.symm⟩
    · exact .inr (.inr ⟨u, rfl, hu⟩)

/-! ## Parts -/

/-- **Whether an identifier is well-formed**: a word, or anything in
quotes. -/
def isWellFormed (x : Identifier) : Bool :=
  match x.quote with
  | none => isWord x.value
  | some q => isQuote q

/-- The characters an identifier is written with. -/
def chars (x : Identifier) : List Char := x.pieces.chars

variable {x y : Identifier}

/-- **Whether an identifier marks its end**: a word, or anything in quotes that
are doubled within. -/
def marksEnd (x : Identifier) : Bool :=
  match x.quote with
  | none => isWord x.value
  | some q => selfClosingQuotes.contains q

theorem isWritable_of_isWellFormed (h : x.isWellFormed = true) : x.isWritable = true := by
  unfold isWellFormed at h
  unfold isWritable
  cases hx : x.quote with
  | none => rfl
  | some q => rwa [hx] at h

theorem chars_of_bare (h : x.quote = none) : x.chars = x.value.toList := by
  simp [chars, pieces, h]

theorem chars_of_doubling {q : Char} (h : x.quote = some q)
    (hq : selfClosingQuotes.contains q = true) :
    x.chars = q :: (doubled q x.value.toList ++ [q]) := by
  simp only [chars, pieces, h, if_pos hq]
  rw [Pieces.chars_ofChars, List.cons_append]

theorem chars_of_bracket (h : x.quote = some '[') :
    x.chars = '[' :: (x.value.toList ++ [']']) := by
  simp [chars, pieces, h, selfClosingQuotes]

/-- No word starts with a quote. -/
theorem isQuote_of_isWordStart {c : Char} (h : isWordStart c = true) : isQuote c = false := by
  rw [Bool.eq_false_iff]
  intro hq
  simp only [isQuote, selfClosingQuotes, List.contains_cons, List.contains_nil, Bool.or_false,
    Bool.or_eq_true, beq_iff_eq] at hq
  rcases hq with (rfl | rfl | rfl) | rfl <;> cases h

/-- A dot is no quote. -/
theorem dot_beq_of_doubling {q : Char} (hq : selfClosingQuotes.contains q = true) :
    ('.' == q) = false := by
  rw [Bool.eq_false_iff]
  intro hdot
  rw [← beq_iff_eq.1 hdot] at hq
  cases hq

/-- **The quotes of an identifier are told by its first character.** -/
theorem exists_chars_eq_cons (h : x.isWellFormed = true) :
    ∃ c u, x.chars = c :: u ∧ x.quote = if isQuote c then some c else none := by
  unfold isWellFormed at h
  cases hx : x.quote with
  | none =>
    rw [hx] at h
    obtain ⟨c, u, hc, hstart⟩ := exists_word_eq_cons h
    exact ⟨c, u, (chars_of_bare hx).trans hc, by rw [isQuote_of_isWordStart hstart]; rfl⟩
  | some q =>
    rw [hx] at h
    dsimp only at h
    rcases Bool.or_eq_true_iff.1 h with hq | hq
    · exact ⟨q, _, chars_of_doubling hx hq, by rw [h]; rfl⟩
    · cases beq_iff_eq.1 hq
      exact ⟨'[', _, chars_of_bracket hx, rfl⟩

theorem quote_eq_of_append {s t : List Char} (hx : x.isWellFormed = true)
    (hy : y.isWellFormed = true) (h : x.chars ++ s = y.chars ++ t) : x.quote = y.quote := by
  obtain ⟨c, u, hc, hqx⟩ := exists_chars_eq_cons hx
  obtain ⟨d, v, hd, hqy⟩ := exists_chars_eq_cons hy
  rw [hc, hd] at h
  rw [hqx, hqy, (List.cons.inj h).1]

/-- **A part `y` hides the seam behind a part `x`**: both stand in brackets,
and the value of `y` goes on behind that of `x` with a bracket, a dot and
more. What is more, its closing bracket and the text `t` behind `y` are the
text `s` behind `x`, after the dot. -/
def HidesSeam (y x : Identifier) (t s : List Char) : Prop :=
  y.quote = some '[' ∧ x.quote = some '['
    ∧ ∃ u, y.value.toList = x.value.toList ++ ']' :: '.' :: u ∧ s = '.' :: (u ++ ']' :: t)

/-- **A part is told from what stands behind it** unless it hides a seam or
its own seam is hidden. -/
theorem append_cases {s t : List Char} (hx : x.isWellFormed = true)
    (hy : y.isWellFormed = true) (hs : EndsPart s) (ht : EndsPart t)
    (h : x.chars ++ s = y.chars ++ t) :
    ((x == y) = true ∧ s = t) ∨ y.HidesSeam x t s ∨ x.HidesSeam y s t := by
  have hquote := quote_eq_of_append hx hy h
  unfold isWellFormed at hx hy
  cases hq : x.quote with
  | none =>
    have hq' : y.quote = none := hquote ▸ hq
    rw [hq] at hx
    rw [hq'] at hy
    rw [chars_of_bare hq, chars_of_bare hq'] at h
    obtain ⟨hvalue, hst⟩ := word_append_inj hx hy (hs.endsRun rfl) (ht.endsRun rfl) h
    exact .inl ⟨beq_iff.2 ⟨hvalue, hquote⟩, hst⟩
  | some q =>
    have hq' : y.quote = some q := hquote ▸ hq
    rw [hq] at hx
    rcases Bool.or_eq_true_iff.1 hx with hdouble | hbracket
    · have hdot := dot_beq_of_doubling hdouble
      rw [chars_of_doubling hq hdouble, chars_of_doubling hq' hdouble] at h
      simp only [List.cons_append, List.append_assoc, List.cons.injEq, true_and,
        List.nil_append] at h
      obtain ⟨hvalue, hst⟩ := doubled_append_inj (hs.endsRun hdot) (ht.endsRun hdot) h
      exact .inl ⟨beq_iff.2 ⟨String.toList_injective hvalue, hquote⟩, hst⟩
    · cases beq_iff_eq.1 hbracket
      rw [chars_of_bracket hq, chars_of_bracket hq'] at h
      simp only [List.cons_append, List.append_assoc, List.cons.injEq, true_and,
        List.nil_append] at h
      rcases bracketed_append_cases hs ht h with ⟨hvalue, hst⟩ | hhidden | hhidden
      · exact .inl ⟨beq_iff.2 ⟨String.toList_injective hvalue, hquote⟩, hst⟩
      · exact .inr (.inl ⟨hq', hq, hhidden⟩)
      · exact .inr (.inr ⟨hq, hq', hhidden⟩)

/-- A part that hides a seam reads on as the other does. -/
theorem HidesSeam.append_eq {s t : List Char} (h : y.HidesSeam x t s) :
    x.chars ++ s = y.chars ++ t := by
  obtain ⟨hy, hx, u, hvalue, rfl⟩ := h
  rw [chars_of_bracket hx, chars_of_bracket hy, hvalue]
  simp

/-- The parts of a name, each with a dot before it. -/
def dotted (xs : List Identifier) : List Char := trailing ['.'] (xs.map chars)

/-- **A name hides a seam of another**, by their parts: parts from the left
are `==`, and the next hides the seam behind the other's. -/
inductive HideSeam : List Identifier → List Identifier → Prop where
  /-- The first part hides the seam. -/
  | here {x y : Identifier} {xs ys : List Identifier}
      (h : y.HidesSeam x (dotted ys) (dotted xs)) : HideSeam (y :: ys) (x :: xs)
  /-- One of the other parts does. -/
  | there {x y : Identifier} {xs ys : List Identifier} (h : (x == y) = true)
      (hrest : HideSeam ys xs) : HideSeam (y :: ys) (x :: xs)

theorem dotted_cons (x : Identifier) (xs : List Identifier) :
    dotted (x :: xs) = '.' :: (x.chars ++ dotted xs) := rfl

/-- Parts that are `==` are written alike. -/
theorem chars_congr (h : (x == y) = true) : x.chars = y.chars := by
  obtain ⟨hvalue, hquote⟩ := beq_iff.1 h
  unfold chars pieces
  rw [hvalue, hquote]

/-- **Well-formed parts with the same text** are `==`, or one list of them
hides a seam of the other. -/
theorem dotted_cases {xs ys : List Identifier} (hx : ∀ x ∈ xs, x.isWellFormed = true)
    (hy : ∀ y ∈ ys, y.isWellFormed = true) (h : dotted xs = dotted ys) :
    (xs == ys) = true ∨ HideSeam ys xs ∨ HideSeam xs ys := by
  induction xs generalizing ys with
  | nil =>
    cases ys with
    | nil => exact .inl rfl
    | cons y ys => cases h
  | cons x xs ih =>
    cases ys with
    | nil => cases h
    | cons y ys =>
      obtain ⟨hx, hxs⟩ := List.forall_mem_cons.1 hx
      obtain ⟨hy, hys⟩ := List.forall_mem_cons.1 hy
      rw [dotted_cons, dotted_cons] at h
      rcases append_cases hx hy (endsPart_trailing _) (endsPart_trailing _)
        (List.cons.inj h).2 with ⟨hxy, hrest⟩ | hhidden | hhidden
      · have hyx : (y == x) = true := by
          obtain ⟨hvalue, hquote⟩ := beq_iff.1 hxy
          exact beq_iff.2 ⟨hvalue.symm, hquote.symm⟩
        rcases ih hxs hys hrest with hsame | hhidden | hhidden
        · refine .inl ?_
          rw [List.cons_beq_cons, hxy, hsame]
          rfl
        · exact .inr (.inl (.there hxy hhidden))
        · exact .inr (.inr (.there hyx hhidden))
      · exact .inr (.inl (.here hhidden))
      · exact .inr (.inr (.here hhidden))

/-- A list of parts that hides a seam of another is written as that is. -/
theorem HideSeam.dotted_eq {xs ys : List Identifier} (h : HideSeam ys xs) :
    dotted xs = dotted ys := by
  induction h with
  | here h => rw [dotted_cons, dotted_cons, h.append_eq]
  | there h _ ih => rw [dotted_cons, dotted_cons, chars_congr h, ih]

theorem isWellFormed_of_marksEnd (h : x.marksEnd = true) : x.isWellFormed = true := by
  unfold marksEnd at h
  unfold isWellFormed
  cases hx : x.quote with
  | none => rwa [hx] at h
  | some q =>
    rw [hx] at h
    exact Bool.or_eq_true_iff.2 (.inl h)

/-- What marks its end hides no seam, since it does not stand in brackets. -/
theorem not_hidesSeam_of_marksEnd {s t : List Char} (h : y.marksEnd = true) :
    ¬ y.HidesSeam x t s := by
  rintro ⟨hquote, -⟩
  unfold marksEnd at h
  rw [hquote] at h
  cases h

theorem not_hideSeam_of_marksEnd {xs ys : List Identifier}
    (h : ∀ y ∈ ys, y.marksEnd = true) : ¬ HideSeam ys xs := by
  intro hhide
  induction hhide with
  | here hseam => exact not_hidesSeam_of_marksEnd (h _ List.mem_cons_self) hseam
  | there _ _ ih => exact ih (List.forall_mem_cons.1 h).2

/-- **How an identifier is spelled**: its value and its quote. -/
def spelling (x : Identifier) : String × Option Char := (x.value, x.quote)

/-- Identifiers are the same without their places exactly when they are
spelled alike. -/
theorem map_unplaced_eq_iff {xs ys : List Identifier} :
    xs.map unplaced = ys.map unplaced ↔ xs.map spelling = ys.map spelling := by
  have hunplaced (zs : List Identifier) :
      zs.map unplaced = (zs.map spelling).map fun s => ⟨s.1, s.2, .unknown⟩ := by
    rw [List.map_map]
    rfl
  rw [hunplaced, hunplaced]
  refine List.map_inj_right fun s t h => ?_
  exact Prod.ext (congrArg value h) (congrArg quote h)

end Identifier

/-! ## Names -/

namespace QualifiedName

/-- **Whether a name is well-formed**: it has parts, and they all are. -/
def isWellFormed (n : QualifiedName) : Bool :=
  !n.parts.isEmpty && n.parts.all (·.isWellFormed)

/-- **A name hides a seam of another.** -/
def HidesSeam (n m : QualifiedName) : Prop := Identifier.HideSeam n.parts m.parts

variable {m n : QualifiedName}

theorem isWellFormed_iff :
    n.isWellFormed = true ↔ n.parts ≠ [] ∧ ∀ x ∈ n.parts, x.isWellFormed = true := by
  rw [isWellFormed, Bool.and_eq_true, List.all_eq_true]
  simp

theorem text?_of_isWellFormed (h : n.isWellFormed = true) : n.text? = .ok n.pieces.text := by
  have hparts := (isWellFormed_iff.1 h).2
  have hw : n.isWritable = true :=
    List.all_eq_true.2 fun x hx => Identifier.isWritable_of_isWellFormed (hparts x hx)
  rw [text?, if_pos hw]

/-- A name is written as its parts are with a dot before each, but for the
first dot. -/
theorem cons_chars_pieces (h : n.parts ≠ []) :
    '.' :: n.pieces.chars = Identifier.dotted n.parts := by
  obtain ⟨xs⟩ := n
  cases xs with
  | nil => exact absurd rfl h
  | cons x xs =>
    rw [pieces, Pieces.chars_separated, List.map_map]
    rfl

/-- Names are `==` exactly when their parts are. -/
theorem parts_beq : (m.parts == n.parts) = (m == n) := by
  rw [Bool.eq_iff_iff, beq_iff_unplaced, Identifier.list_beq_iff_unplaced]
  simp [unplaced]

/-- **Well-formed names have the same text exactly when they are `==` or
one hides a seam of the other.** -/
theorem text?_eq_iff (hm : m.isWellFormed = true) (hn : n.isWellFormed = true) :
    m.text? = n.text? ↔ (m == n) = true ∨ n.HidesSeam m ∨ m.HidesSeam n := by
  obtain ⟨hmne, hmparts⟩ := isWellFormed_iff.1 hm
  obtain ⟨hnne, hnparts⟩ := isWellFormed_iff.1 hn
  have hdotted : m.text? = n.text? ↔ Identifier.dotted m.parts = Identifier.dotted n.parts := by
    rw [text?_of_isWellFormed hm, text?_of_isWellFormed hn, ← cons_chars_pieces hmne,
      ← cons_chars_pieces hnne]
    constructor
    · intro h
      rw [String.ofList_injective (Except.ok.inj h)]
    · intro h
      rw [Pieces.text, (List.cons.inj h).2, ← Pieces.text]
  constructor
  · intro h
    rw [← parts_beq]
    exact Identifier.dotted_cases hmparts hnparts (hdotted.1 h)
  · rintro (h | h | h)
    · exact text?_congr h
    · exact hdotted.2 h.dotted_eq
    · exact hdotted.2 h.dotted_eq.symm

/-- **The text of a name tells its parts** where each of them marks its end:
names of such parts have texts, and these are the same exactly when the names
have as many parts, spelled alike in the same order. -/
theorem text?_tells_parts (hm : m.parts ≠ []) (hmparts : ∀ x ∈ m.parts, x.marksEnd = true)
    (hn : n.parts ≠ []) (hnparts : ∀ x ∈ n.parts, x.marksEnd = true) :
    ∃ a b, m.text? = .ok a ∧ n.text? = .ok b
      ∧ (a = b ↔ m.parts.map (·.spelling) = n.parts.map (·.spelling)) := by
  have hmwell : m.isWellFormed = true :=
    isWellFormed_iff.2 ⟨hm, fun x hx => Identifier.isWellFormed_of_marksEnd (hmparts x hx)⟩
  have hnwell : n.isWellFormed = true :=
    isWellFormed_iff.2 ⟨hn, fun x hx => Identifier.isWellFormed_of_marksEnd (hnparts x hx)⟩
  refine ⟨_, _, text?_of_isWellFormed hmwell, text?_of_isWellFormed hnwell, ?_⟩
  calc m.pieces.text = n.pieces.text
      ↔ m.text? = n.text? := by
        rw [text?_of_isWellFormed hmwell, text?_of_isWellFormed hnwell, Except.ok.injEq]
    _ ↔ (m == n) = true ∨ n.HidesSeam m ∨ m.HidesSeam n := text?_eq_iff hmwell hnwell
    _ ↔ (m == n) = true := by
        -- neither hides a seam
        have hnot : ¬ (n.HidesSeam m ∨ m.HidesSeam n) := by
          rintro (h | h)
          · exact Identifier.not_hideSeam_of_marksEnd hnparts h
          · exact Identifier.not_hideSeam_of_marksEnd hmparts h
        exact or_iff_left hnot
    _ ↔ m.parts.map (·.spelling) = n.parts.map (·.spelling) := by
        rw [← parts_beq, Identifier.list_beq_iff_unplaced, Identifier.map_unplaced_eq_iff]

/-- `a."b"".""c"` has two parts and `a."b"."c"` has three, and the texts
differ. -/
theorem text?_tells_parts_quoted :
    let m : QualifiedName := ⟨[.bare "a", ⟨"b\".\"c", some '\x22', .unknown⟩]⟩
    let n : QualifiedName := ⟨[.bare "a", ⟨"b", some '\x22', .unknown⟩,
      ⟨"c", some '\x22', .unknown⟩]⟩
    (∀ x ∈ m.parts, x.marksEnd = true) ∧ (∀ x ∈ n.parts, x.marksEnd = true)
      ∧ ∃ a b, m.text? = .ok a ∧ n.text? = .ok b ∧ a ≠ b := by
  intro m n
  have hm : ∀ x ∈ m.parts, x.marksEnd = true := by decide
  have hn : ∀ x ∈ n.parts, x.marksEnd = true := by decide
  obtain ⟨a, b, ha, hb, hab⟩ :=
    text?_tells_parts (m := m) (n := n) (by decide) hm (by decide) hn
  exact ⟨hm, hn, a, b, ha, hb, fun h => absurd (hab.1 h) (by decide)⟩

/-- A name of parts in brackets, with the given values. -/
def bracketed (values : List String) : QualifiedName :=
  ⟨values.map fun v => ⟨v, some '[', .unknown⟩⟩

example : (bracketed ["a].[b"]).text? = (bracketed ["a", "b"]).text? := rfl

end QualifiedName

end SqlTyping
