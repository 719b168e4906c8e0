import SqlTyping.Proofs.Text.Seam

/-!
# The wording of types

Declared and resolved types are written in one grammar. A type starts with
a built-in name and its facets, with the name of a user-defined type, or
with the fields of a row; behind that there are single words, which make
collections and say whether `NULL` is admitted. The **wording** of a type
is this and no more: what it starts with, its **lead**, and the words
behind, its **marks**. Keywords and collections that are nested in a
descriptor are told apart in a tree and not in a wording, where both are
marks.

A wording is **readable** if its names are words, those of user-defined
types without capital letters, and if no scale stands without a precision.
Readable wordings with the same text are the same (`Wording.eq_of_text`),
and so they are with more text behind them, as within a row. So whoever
shows that a type is told by its wording has shown that it is told by its
text.
-/

namespace SqlTyping

/-! ## Wordings -/

/-- **A word behind a type.** -/
inductive Mark where
  /-- The keyword of a collection. -/
  | collection (kind : Collection)
  /-- `NULL`. -/
  | null
  /-- `NOT NULL`. -/
  | notNull

namespace Mark

/-- The word itself. -/
def word : Mark → String
  | collection k => k.keyword
  | null => "NULL"
  | notNull => "NOT NULL"

/-- How marks are written: each with a blank before it. -/
def chars : List Mark → List Char
  | [] => []
  | m :: ms => ' ' :: (m.word.toList ++ chars ms)

@[simp] theorem chars_append (ms ns : List Mark) : chars (ms ++ ns) = chars ms ++ chars ns := by
  induction ms with
  | nil => rfl
  | cons m ms ih => simp [chars, ih]

end Mark

mutual

/-- **A type as it is worded.** -/
structure Wording where
  /-- What the type starts with. -/
  lead : Lead
  /-- The words behind, from left to right. -/
  marks : List Mark

/-- **What a type starts with.** -/
inductive Lead where
  /-- A built-in name with its facets. -/
  | builtIn (name : BuiltIn) (facets : Facets)
  /-- The name of a user-defined type, by its parts. -/
  | named (parts : List String)
  /-- The fields of a row. -/
  | row (fields : List WordedField)

/-- **A field of a row as it is worded.** -/
structure WordedField where
  /-- The name of the field. -/
  name : String
  /-- The wording of its type. -/
  type : Wording

end

/-- **The wording with more words behind it.** -/
def Wording.marked (w : Wording) (ms : List Mark) : Wording := ⟨w.lead, w.marks ++ ms⟩

@[simp] theorem Wording.marked_nil (w : Wording) : w.marked [] = w := by
  obtain ⟨l, ms⟩ := w
  rw [marked, List.append_nil]

/-! ## The text of wordings -/

/-- Texts one after the other, each with a separator before it. -/
def trailing (separator : List Char) : List (List Char) → List Char
  | [] => []
  | u :: us => separator ++ (u ++ trailing separator us)

/-- Texts one after the other, with a separator between each two. -/
def joined (separator : List Char) : List (List Char) → List Char
  | [] => []
  | u :: us => u ++ trailing separator us

/-- **Writing members with separators between them**, whatever becomes of
each piece. -/
theorem Pieces.flatMap_separated (write : String → List Char) (separator : Pieces)
    (ps : List Pieces) :
    (separated separator ps).flatMap write
      = joined (separator.flatMap write) (ps.map (·.flatMap write)) := by
  induction ps with
  | nil => rfl
  | cons p ps ih =>
    cases ps with
    | nil => simp [separated, joined, trailing]
    | cons q ps =>
      rw [separated, List.flatMap_append, List.flatMap_append, ih]
      simp [joined, trailing]

theorem Pieces.chars_separated (separator : Pieces) (ps : List Pieces) :
    (separated separator ps).chars = joined separator.chars (ps.map chars) :=
  flatMap_separated _ separator ps

/-- On one line, a list is its members with commas between them. -/
theorem Layout.chars_parenthesized_compact (members : List Pieces) :
    (compact.parenthesized members).chars
      = '(' :: (joined [',', ' '] (members.map Pieces.chars) ++ [')']) := by
  simp [parenthesized, edge, block, comma, Pieces.chars_separated]

mutual

/-- **The text of a wording.** -/
def Wording.chars : Wording → List Char
  | ⟨l, ms⟩ => l.chars ++ Mark.chars ms

/-- The text of a lead. -/
def Lead.chars : Lead → List Char
  | .builtIn n f => (n.pieces f).chars
  | .named parts => joined ['.'] (parts.map String.toList)
  | .row fs => 'R' :: 'O' :: 'W' :: '(' ::
      (joined [',', ' '] (WordedField.charsAll fs) ++ [')'])

/-- The text of each field of a row. -/
def WordedField.charsAll : List WordedField → List (List Char)
  | [] => []
  | ⟨x, w⟩ :: fs => (x.toList ++ ' ' :: w.chars) :: WordedField.charsAll fs

end

/-- More words are written behind the others. -/
@[simp] theorem Wording.chars_marked (w : Wording) (ms : List Mark) :
    (w.marked ms).chars = w.chars ++ Mark.chars ms := by
  obtain ⟨l, ms'⟩ := w
  simp [marked, chars]

mutual

/-- **Whether a wording is readable.** -/
def Wording.isReadable : Wording → Bool
  | ⟨l, _⟩ => l.isReadable

/-- Whether a lead is readable. -/
def Lead.isReadable : Lead → Bool
  | .builtIn _ f => f.areShown
  | .named parts => !parts.isEmpty && parts.all isLowerWord
  | .row fs => WordedField.areReadable fs

/-- Whether the fields of a row are readable. -/
def WordedField.areReadable : List WordedField → Bool
  | [] => true
  | ⟨x, w⟩ :: fs => isWord x && w.isReadable && WordedField.areReadable fs

end

@[simp] theorem Lead.isReadable_named {parts : List String} :
    (named parts).isReadable = true ↔ parts ≠ [] ∧ ∀ x ∈ parts, isLowerWord x = true := by
  rw [isReadable, Bool.and_eq_true, List.all_eq_true]
  simp

@[simp] theorem WordedField.areReadable_cons {x : String} {w : Wording}
    {fs : List WordedField} :
    areReadable (⟨x, w⟩ :: fs) = true
      ↔ isWord x = true ∧ w.isReadable = true ∧ areReadable fs = true := by
  rw [areReadable, Bool.and_eq_true, Bool.and_eq_true, and_assoc]

@[simp] theorem Wording.isReadable_marked (w : Wording) (ms : List Mark) :
    (w.marked ms).isReadable = w.isReadable := by
  obtain ⟨l, ms'⟩ := w
  rfl

/-! ## Seams behind marks and leads -/

/-- **The end of a type**: nothing, or what separates and closes the fields
of a row. -/
def EndsType (s : List Char) : Prop := ∀ c ∈ s.head?, c = ',' ∨ c = ')'

@[simp] theorem endsType_nil : EndsType [] := by simp [EndsType]

@[simp] theorem endsType_cons {c : Char} {s : List Char} :
    EndsType (c :: s) ↔ c = ',' ∨ c = ')' := by simp [EndsType]

theorem canFollow_of_endsType {s : List Char} (h : EndsType s) : canFollow s = true := by
  cases s with
  | nil => rfl
  | cons c s => rcases endsType_cons.1 h with rfl | rfl <;> rfl

/-- Words can stand behind a type, since none of them is `WITH`. -/
theorem canFollow_marks (ms : List Mark) {s : List Char} (h : EndsType s) :
    canFollow (Mark.chars ms ++ s) = true := by
  cases ms with
  | nil => exact canFollow_of_endsType h
  | cons m ms => rcases m with (_ | _) | _ | _ <;> rfl

/-- No word is the beginning of another. -/
theorem Mark.word_append_inj {m n : Mark} {s t : List Char}
    (h : m.word.toList ++ s = n.word.toList ++ t) : m = n ∧ s = t := by
  rcases m with (_ | _) | _ | _ <;> rcases n with (_ | _) | _ | _ <;>
    simp_all [word, Collection.keyword]

/-- **Marks are told from the end of their type.** -/
theorem Mark.append_inj {ms ns : List Mark} {s t : List Char} (hs : EndsType s)
    (ht : EndsType t) (h : Mark.chars ms ++ s = Mark.chars ns ++ t) :
    ms = ns ∧ s = t := by
  induction ms generalizing ns with
  | nil =>
    cases ns with
    | nil => exact ⟨rfl, h⟩
    | cons n ns =>
      rw [show s = _ from h] at hs
      simp [chars] at hs
  | cons m ms ih =>
    cases ns with
    | nil =>
      rw [show t = _ from h.symm] at ht
      simp [chars] at ht
    | cons n ns =>
      simp only [chars, List.cons_append, List.append_assoc, List.cons.injEq, true_and] at h
      obtain ⟨rfl, hrest⟩ := word_append_inj h
      obtain ⟨rfl, hst⟩ := ih hrest
      exact ⟨rfl, hst⟩

/-- What cannot go on a name with several parts: neither a dot nor a
character of a word. -/
def EndsName (s : List Char) : Prop := EndsRun (fun c => c == '.' || isWordChar c) s

theorem EndsName.isWordChar {s : List Char} (h : EndsName s) : EndsRun isWordChar s :=
  fun c hc => (Bool.or_eq_false_iff.1 (h c hc)).2

/-- The parts of a name, each with a dot before it, are told from what ends
the name. -/
theorem dotted_append_inj {xs ys : List String} {s t : List Char}
    (hx : ∀ x ∈ xs, isWord x = true) (hy : ∀ y ∈ ys, isWord y = true) (hs : EndsName s)
    (ht : EndsName t)
    (h : trailing ['.'] (xs.map String.toList) ++ s
      = trailing ['.'] (ys.map String.toList) ++ t) : xs = ys ∧ s = t := by
  -- what is behind a part ends it, be it a dot or what follows the name
  have ends : ∀ (zs : List String) {u : List Char}, EndsName u →
      EndsRun isWordChar (trailing ['.'] (zs.map String.toList) ++ u) := by
    intro zs u hu
    cases zs with
    | nil => exact hu.isWordChar
    | cons z zs => simp [trailing, isWordChar]
  induction xs generalizing ys with
  | nil =>
    cases ys with
    | nil => exact ⟨rfl, h⟩
    | cons y ys =>
      rw [show s = _ from h] at hs
      simp [EndsName, trailing] at hs
  | cons x xs ih =>
    cases ys with
    | nil =>
      rw [show t = _ from h.symm] at ht
      simp [EndsName, trailing] at ht
    | cons y ys =>
      simp only [List.map_cons, trailing, List.cons_append, List.nil_append,
        List.append_assoc, List.cons.injEq, true_and] at h
      obtain ⟨hx, hxs⟩ := List.forall_mem_cons.1 hx
      obtain ⟨hy, hys⟩ := List.forall_mem_cons.1 hy
      obtain ⟨rfl, hrest⟩ := word_append_inj hx hy (ends xs hs) (ends ys ht) h
      obtain ⟨rfl, hst⟩ := ih hxs hys hrest
      exact ⟨rfl, hst⟩

/-! ## Reading wordings -/

/-- What can stand behind a type ends its name. -/
theorem endsName_of_canFollow {s : List Char} (h : canFollow s = true) : EndsName s :=
  endsRun_of_canFollow h (by decide)

/-- Whether a type starts with the name of a user-defined type. -/
def Lead.isNamed : Lead → Bool
  | named _ => true
  | builtIn .. => false
  | row _ => false

/-- A readable lead starts with a capital letter unless it is a name. -/
theorem Lead.exists_chars_eq_cons {l : Lead} (h : l.isReadable = true) :
    ∃ c u, l.chars = c :: u ∧ c.isUpper = !l.isNamed := by
  cases l with
  | builtIn n f =>
    rw [chars, BuiltIn.chars_pieces]
    cases hs : n.stem.toList with
    | nil => cases n <;> cases hs
    | cons c u => exact ⟨c, _, rfl, n.isUpper_of_mem_stem c (by simp [hs])⟩
  | named parts =>
    obtain ⟨hne, hparts⟩ := isReadable_named.1 h
    cases parts with
    | nil => exact absurd rfl hne
    | cons x xs =>
      obtain ⟨c, u, hx, hc⟩ := exists_lowerWord_eq_cons (hparts x (by simp))
      exact ⟨c, _, by rw [chars, List.map_cons, joined, hx, List.cons_append], hc⟩
  | row fs => exact ⟨'R', _, by rw [chars], rfl⟩

/-- So names are not taken for anything else. -/
theorem Lead.isNamed_eq_of_append {l k : Lead} {s t : List Char} (hl : l.isReadable = true)
    (hk : k.isReadable = true) (h : l.chars ++ s = k.chars ++ t) : l.isNamed = k.isNamed := by
  obtain ⟨c, u, hc, hl⟩ := exists_chars_eq_cons hl
  obtain ⟨d, v, hd, hk⟩ := exists_chars_eq_cons hk
  rw [hc, hd, List.cons_append, List.cons_append] at h
  rw [(List.cons.inj h).1, hk] at hl
  exact (Bool.not_inj hl).symm

/-- **A name is told from what can stand behind it.** -/
theorem Lead.named_append_inj {xs ys : List String} {s t : List Char}
    (hx : (Lead.named xs).isReadable = true) (hy : (Lead.named ys).isReadable = true)
    (hs : canFollow s = true) (ht : canFollow t = true)
    (h : (Lead.named xs).chars ++ s = (Lead.named ys).chars ++ t) : xs = ys ∧ s = t := by
  obtain ⟨hxne, hxs⟩ := isReadable_named.1 hx
  obtain ⟨hyne, hys⟩ := isReadable_named.1 hy
  cases xs with
  | nil => exact absurd rfl hxne
  | cons x xs =>
    cases ys with
    | nil => exact absurd rfl hyne
    | cons y ys =>
      refine dotted_append_inj (fun z hz => isWord_of_isLowerWord (hxs z hz))
        (fun z hz => isWord_of_isLowerWord (hys z hz)) (endsName_of_canFollow hs)
        (endsName_of_canFollow ht) ?_
      rw [chars, chars, List.map_cons, List.map_cons, joined, joined, List.append_assoc,
        List.append_assoc] at h
      simp only [List.map_cons, trailing, List.append_assoc, h]

/-- The fields of a row start with a word, if there are any. -/
theorem WordedField.exists_joined_eq_cons {f : WordedField} {fs : List WordedField}
    (hf : WordedField.areReadable (f :: fs) = true) :
    ∃ c u, joined [',', ' '] (WordedField.charsAll (f :: fs)) = c :: u
      ∧ isWordStart c = true := by
  obtain ⟨x, w⟩ := f
  obtain ⟨hx, -, -⟩ := areReadable_cons.1 hf
  obtain ⟨c, u, hx, hc⟩ := exists_word_eq_cons hx
  exact ⟨c, _, by rw [charsAll, joined, hx, List.cons_append, List.cons_append], hc⟩

/-- With the parenthesis that closes the row, they start with no digit. -/
theorem WordedField.endsRun_joined {fs : List WordedField}
    (hf : WordedField.areReadable fs = true) (s : List Char) :
    EndsRun Char.isDigit (joined [',', ' '] (WordedField.charsAll fs) ++ ')' :: s) := by
  cases fs with
  | nil => simp [charsAll, joined]
  | cons f fs =>
    obtain ⟨c, u, hc, hw⟩ := exists_joined_eq_cons hf
    rw [hc, List.cons_append, endsRun_cons]
    exact isDigit_of_isWordStart hw

/-- A field's type ends where the next field or the end of the row is. -/
theorem WordedField.endsType_trailing (fs : List WordedField) (s : List Char) :
    EndsType (trailing [',', ' '] (WordedField.charsAll fs) ++ ')' :: s) := by
  match fs with
  | [] => simp [charsAll, trailing]
  | ⟨x, w⟩ :: fs => simp [charsAll, trailing]

/-- A row without fields is closed where the fields of another would start
with a word. -/
theorem WordedField.joined_append_ne {g : WordedField} {gs : List WordedField}
    (hg : WordedField.areReadable (g :: gs) = true) (s t : List Char) :
    ')' :: s ≠ joined [',', ' '] (WordedField.charsAll (g :: gs)) ++ t := by
  intro h
  obtain ⟨c, u, hc, hw⟩ := exists_joined_eq_cons hg
  rw [hc, List.cons_append] at h
  rw [← (List.cons.inj h).1] at hw
  cases hw

/-- Whether the first of the fields has a comma before it, too, makes no
difference. -/
theorem WordedField.trailing_eq_of_joined {fs gs : List WordedField} {s t : List Char}
    (hf : WordedField.areReadable fs = true) (hg : WordedField.areReadable gs = true)
    (h : joined [',', ' '] (WordedField.charsAll fs) ++ ')' :: s
      = joined [',', ' '] (WordedField.charsAll gs) ++ ')' :: t) :
    trailing [',', ' '] (WordedField.charsAll fs) ++ ')' :: s
      = trailing [',', ' '] (WordedField.charsAll gs) ++ ')' :: t := by
  match fs, gs with
  | [], [] => exact h
  | [], g :: gs => exact absurd h (joined_append_ne hg s _)
  | f :: fs, [] => exact absurd h.symm (joined_append_ne hf t _)
  | ⟨x, w⟩ :: fs, ⟨y, v⟩ :: gs => exact congrArg ([',', ' '] ++ ·) h

/-- **A built-in name is no row**: what its parenthesis holds starts with a
digit. -/
theorem Lead.builtIn_append_ne_row {n : BuiltIn} {f : Facets} {fs : List WordedField}
    {s t : List Char} (hf : WordedField.areReadable fs = true) (hs : canFollow s = true) :
    (Lead.builtIn n f).chars ++ s ≠ (Lead.row fs).chars ++ t := by
  intro h
  have hrow : ∀ c ∈ ['R', 'O', 'W'], Char.isUpper c = true := List.all_eq_true.1 rfl
  rw [chars, chars, BuiltIn.chars_pieces] at h
  simp only [List.cons_append, List.append_assoc, List.nil_append] at h
  obtain ⟨-, h⟩ := run_append_inj n.isUpper_of_mem_stem hrow (n.endsRun_facets f hs) (by simp) h
  cases hp : f.precision with
  | none =>
    have hend := n.endsRun_tail (p := (· == '(')) hs (by decide)
    rw [Facets.chars_pieces_of_none hp, List.nil_append] at h
    rw [h] at hend
    simp at hend
  | some p =>
    have hend := WordedField.endsRun_joined hf t
    obtain ⟨c, u, hc, hdigit⟩ := exists_numeral_eq_cons p
    rw [Facets.chars_pieces_of_some hp, hc] at h
    simp only [List.cons_append, List.cons.injEq, true_and] at h
    rw [← h, endsRun_cons, hdigit] at hend
    cases hend

mutual

/-- **Readable wordings with the same text are the same**, and so is what
follows them where their types have ended. -/
theorem Wording.append_inj : ∀ (w v : Wording) {s t : List Char}, w.isReadable = true →
    v.isReadable = true → EndsType s → EndsType t → w.chars ++ s = v.chars ++ t →
      w = v ∧ s = t
  | ⟨l, ms⟩, ⟨k, ns⟩, s, t, hw, hv, hs, ht, h => by
    rw [Wording.chars, Wording.chars, List.append_assoc, List.append_assoc] at h
    obtain ⟨rfl, hmarks⟩ :=
      l.append_inj k hw hv (canFollow_marks ms hs) (canFollow_marks ns ht) h
    obtain ⟨rfl, hst⟩ := Mark.append_inj hs ht hmarks
    exact ⟨rfl, hst⟩

/-- Readable leads are told from what can stand behind a type. -/
theorem Lead.append_inj : ∀ (l k : Lead) {s t : List Char}, l.isReadable = true →
    k.isReadable = true → canFollow s = true → canFollow t = true →
      l.chars ++ s = k.chars ++ t → l = k ∧ s = t
  | .builtIn n f, k, s, t, hl, hk, hs, ht, h => by
    cases k with
    | builtIn m g =>
      obtain ⟨rfl, rfl, hst⟩ := BuiltIn.append_inj hl hk hs ht h
      exact ⟨rfl, hst⟩
    | named ys => cases Lead.isNamed_eq_of_append hl hk h
    | row gs => exact absurd h (Lead.builtIn_append_ne_row hk hs)
  | .named xs, k, s, t, hl, hk, hs, ht, h => by
    cases k with
    | builtIn m g => cases Lead.isNamed_eq_of_append hl hk h
    | named ys =>
      obtain ⟨rfl, hst⟩ := Lead.named_append_inj hl hk hs ht h
      exact ⟨rfl, hst⟩
    | row gs => cases Lead.isNamed_eq_of_append hl hk h
  | .row fs, k, s, t, hl, hk, hs, ht, h => by
    cases k with
    | builtIn m g => exact absurd h.symm (Lead.builtIn_append_ne_row hl ht)
    | named ys => cases Lead.isNamed_eq_of_append hl hk h
    | row gs =>
      rw [Lead.chars, Lead.chars] at h
      simp only [List.cons_append, List.append_assoc, List.nil_append, List.cons.injEq,
        true_and] at h
      obtain ⟨rfl, hst⟩ :=
        WordedField.append_inj fs gs hl hk (WordedField.trailing_eq_of_joined hl hk h)
      exact ⟨rfl, hst⟩

/-- Readable fields of a row, each with a comma before it, are told from
what closes the row. -/
theorem WordedField.append_inj : ∀ (fs gs : List WordedField) {s t : List Char},
    WordedField.areReadable fs = true → WordedField.areReadable gs = true →
      trailing [',', ' '] (WordedField.charsAll fs) ++ ')' :: s
        = trailing [',', ' '] (WordedField.charsAll gs) ++ ')' :: t → fs = gs ∧ s = t
  | [], [], s, t, _, _, h => ⟨rfl, (List.cons.inj h).2⟩
  | [], ⟨y, v⟩ :: gs, s, t, _, _, h => by simp [WordedField.charsAll, trailing] at h
  | ⟨x, w⟩ :: fs, [], s, t, _, _, h => by simp [WordedField.charsAll, trailing] at h
  | ⟨x, w⟩ :: fs, ⟨y, v⟩ :: gs, s, t, hf, hg, h => by
    obtain ⟨hx, hw, hfs⟩ := WordedField.areReadable_cons.1 hf
    obtain ⟨hy, hv, hgs⟩ := WordedField.areReadable_cons.1 hg
    rw [WordedField.charsAll, WordedField.charsAll, trailing, trailing] at h
    simp only [List.cons_append, List.append_assoc, List.nil_append, List.cons.injEq,
      true_and] at h
    -- a name ends at the blank behind it, and its type where the next field is
    obtain ⟨rfl, htype⟩ := word_append_inj hx hy (by simp [isWordChar]) (by simp [isWordChar]) h
    obtain ⟨rfl, hrest⟩ := w.append_inj v hw hv (WordedField.endsType_trailing fs s)
      (WordedField.endsType_trailing gs t) (List.cons.inj htype).2
    obtain ⟨rfl, hst⟩ := WordedField.append_inj fs gs hfs hgs hrest
    exact ⟨rfl, hst⟩

end

/-- A wording as it is written down. -/
def Wording.text (w : Wording) : String := String.ofList w.chars

/-- **Readable wordings are told by their texts.** -/
theorem Wording.eq_of_text {w v : Wording} (hw : w.isReadable = true)
    (hv : v.isReadable = true) (h : w.text = v.text) : w = v := by
  have hchars : w.chars = v.chars := String.ofList_injective h
  have hnil : w.chars ++ [] = v.chars ++ [] := congrArg (· ++ []) hchars
  exact (w.append_inj v hw hv endsType_nil endsType_nil hnil).1

end SqlTyping
