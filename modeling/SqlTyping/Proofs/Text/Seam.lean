import SqlTyping.BuiltIn

/-!
# Seams in a text

A text is written by writing its parts one after the other, and it is read
by finding the **seams** between them again. Where a part is a run of
characters of one class, the seam is where the class ends, so it is found
when what follows does not start with a character of the class.

The statements here have one form. Two texts of the same kind, each with
something behind it that cannot continue it, are equal as a whole only if
the texts are equal and what follows is too. They hold of runs, of numerals
and words, of facets, and of built-in names with their facets
(`BuiltIn.append_inj`).
-/

namespace SqlTyping

/-! ## Runs -/

/-- **The end of a run**: a text that does not start with a character of
the class. -/
def EndsRun (p : Char → Bool) (s : List Char) : Prop := ∀ c ∈ s.head?, p c = false

@[simp] theorem endsRun_nil (p : Char → Bool) : EndsRun p [] := by simp [EndsRun]

@[simp] theorem endsRun_cons {p : Char → Bool} {c : Char} {s : List Char} :
    EndsRun p (c :: s) ↔ p c = false := by simp [EndsRun]

theorem takeWhile_append_of_endsRun {p : Char → Bool} {u s : List Char}
    (hu : ∀ c ∈ u, p c = true) (hs : EndsRun p s) : (u ++ s).takeWhile p = u := by
  rw [List.takeWhile_append_of_pos hu]
  cases s with
  | nil => simp
  | cons c s => simp [endsRun_cons.1 hs]

/-- **The seam behind a run** is where its class ends. -/
theorem run_append_inj {p : Char → Bool} {u v s t : List Char} (hu : ∀ c ∈ u, p c = true)
    (hv : ∀ c ∈ v, p c = true) (hs : EndsRun p s) (ht : EndsRun p t)
    (h : u ++ s = v ++ t) : u = v ∧ s = t := by
  have huv : u = v := by
    rw [← takeWhile_append_of_endsRun hu hs, h, takeWhile_append_of_endsRun hv ht]
  subst huv
  exact ⟨rfl, List.append_cancel_left h⟩

/-! ## Numerals and words -/

/-- A numeral is a run of digits. -/
theorem isDigit_of_mem_numeral (n : UInt64) :
    ∀ c ∈ (Nat.repr n.toNat).toList, c.isDigit = true := by
  intro c hc
  rw [Nat.toList_repr] at hc
  exact Nat.isDigit_of_mem_toDigits (by decide) (by decide) hc

/-- The seam behind a numeral, whose number can be read off its digits. -/
theorem numeral_append_inj {m n : UInt64} {s t : List Char} (hs : EndsRun Char.isDigit s)
    (ht : EndsRun Char.isDigit t)
    (h : (Nat.repr m.toNat).toList ++ s = (Nat.repr n.toNat).toList ++ t) :
    m = n ∧ s = t := by
  have number (k : UInt64) : Nat.ofDigitChars 10 (Nat.repr k.toNat).toList 0 = k.toNat := by
    rw [Nat.toList_repr, Nat.ofDigitChars_ten_toDigits]
  obtain ⟨hr, hst⟩ :=
    run_append_inj (isDigit_of_mem_numeral m) (isDigit_of_mem_numeral n) hs ht h
  refine ⟨UInt64.toNat_inj.1 ?_, hst⟩
  rw [← number m, hr, number n]

/-- A numeral has a first digit. -/
theorem exists_numeral_eq_cons (n : UInt64) :
    ∃ c u, (Nat.repr n.toNat).toList = c :: u ∧ c.isDigit = true := by
  cases h : (Nat.repr n.toNat).toList with
  | nil =>
    rw [Nat.toList_repr] at h
    exact absurd h Nat.toDigits_ne_nil
  | cons c u => exact ⟨c, u, rfl, isDigit_of_mem_numeral n c (h ▸ List.mem_cons_self)⟩

/-- What a word can start with: a letter or an underscore. -/
def isWordStart (c : Char) : Bool := c.isAlpha || c == '_'

/-- What a word can go on with: a letter, a digit or an underscore. -/
def isWordChar (c : Char) : Bool := c.isAlphanum || c == '_'

/-- No word starts with a digit, since all letters come behind the digits. -/
theorem isDigit_of_isWordStart {c : Char} (h : isWordStart c = true) : c.isDigit = false := by
  rw [Bool.eq_false_iff]
  intro hdigit
  have hlast : c.toNat ≤ 57 := (Char.isDigit_iff_toNat.1 hdigit).2
  unfold isWordStart at h
  rcases Bool.or_eq_true_iff.1 h with hletter | hscore
  · have hfirst : 65 ≤ c.toNat := by
      rcases Bool.or_eq_true_iff.1 hletter with hupper | hlower
      · exact UInt32.le_iff_toNat_le.1 (of_decide_eq_true hupper).1
      · have hle : 97 ≤ c.toNat :=
          UInt32.le_iff_toNat_le.1 (of_decide_eq_true (Bool.and_eq_true_iff.1 hlower).1)
        omega
    omega
  · rw [beq_iff_eq.1 hscore] at hdigit
    cases hdigit

/-- **Whether a text is a word**: a letter or an underscore, and then
letters, digits and underscores. -/
def isWord (s : String) : Bool :=
  s.toList.head?.any isWordStart && s.toList.all isWordChar

/-- **Whether a text is a word without capital letters.** -/
def isLowerWord (s : String) : Bool := isWord s && s.toList.all fun c => !c.isUpper

theorem isWord_of_isLowerWord {s : String} (h : isLowerWord s = true) : isWord s = true := by
  unfold isLowerWord at h
  exact (Bool.and_eq_true_iff.1 h).1

theorem isWordChar_of_isWord {s : String} (h : isWord s = true) :
    ∀ c ∈ s.toList, isWordChar c = true := by
  unfold isWord at h
  exact List.all_eq_true.1 (Bool.and_eq_true_iff.1 h).2

/-- A word has a first character. -/
theorem exists_word_eq_cons {s : String} (h : isWord s = true) :
    ∃ c u, s.toList = c :: u ∧ isWordStart c = true := by
  unfold isWord at h
  obtain ⟨hc, -⟩ := Bool.and_eq_true_iff.1 h
  cases hs : s.toList with
  | nil => rw [hs] at hc; cases hc
  | cons c u =>
    rw [hs] at hc
    exact ⟨c, u, rfl, hc⟩

/-- A word without capitals does not start with one. -/
theorem exists_lowerWord_eq_cons {s : String} (h : isLowerWord s = true) :
    ∃ c u, s.toList = c :: u ∧ c.isUpper = false := by
  obtain ⟨c, u, hs, -⟩ := exists_word_eq_cons (isWord_of_isLowerWord h)
  refine ⟨c, u, hs, ?_⟩
  unfold isLowerWord at h
  have hall := List.all_eq_true.1 (Bool.and_eq_true_iff.1 h).2
  simpa using hall c (by simp [hs])

/-- **A word is told from what follows it.** -/
theorem word_append_inj {x y : String} {s t : List Char} (hx : isWord x = true)
    (hy : isWord y = true) (hs : EndsRun isWordChar s) (ht : EndsRun isWordChar t)
    (h : x.toList ++ s = y.toList ++ t) : x = y ∧ s = t := by
  obtain ⟨hxy, hst⟩ :=
    run_append_inj (isWordChar_of_isWord hx) (isWordChar_of_isWord hy) hs ht h
  exact ⟨String.toList_injective hxy, hst⟩

/-! ## Facets -/

namespace Facets

/-- **Whether every facet shows** in the text: there is no scale without a
precision. -/
def areShown (f : Facets) : Bool := f.scale.isNone || f.precision.isSome

/-- What is written behind the precision. -/
def closing : Option UInt64 → List Char
  | some n => ',' :: ' ' :: (Nat.repr n.toNat).toList ++ [')']
  | .none => [')']

theorem chars_pieces_of_some {f : Facets} {p : UInt64} (h : f.precision = some p) :
    f.pieces.chars = '(' :: (Nat.repr p.toNat).toList ++ closing f.scale := by
  obtain ⟨q, s⟩ := f
  subst h
  cases s <;> simp [pieces, closing, Pieces.chars]

theorem chars_pieces_of_none {f : Facets} (h : f.precision = .none) : f.pieces.chars = [] := by
  obtain ⟨q, s⟩ := f
  subst h
  rfl

/-- Without a precision that shows, there are no facets. -/
theorem eq_none_of_areShown {f : Facets} (hf : f.areShown = true) (h : f.precision = .none) :
    f = none := by
  obtain ⟨q, s⟩ := f
  subst h
  cases s with
  | none => rfl
  | some n => cases hf

theorem endsRun_closing (q : Option UInt64) (s : List Char) :
    EndsRun Char.isDigit (closing q ++ s) := by
  cases q <;> simp [closing]

theorem closing_append_inj {q r : Option UInt64} {s t : List Char}
    (h : closing q ++ s = closing r ++ t) : q = r ∧ s = t := by
  match q, r with
  | .none, .none => simpa [closing] using h
  | .none, some n => simp [closing] at h
  | some m, .none => simp [closing] at h
  | some m, some n =>
    simp only [closing, List.cons_append, List.append_assoc, List.cons.injEq, true_and] at h
    obtain ⟨hmn, hst⟩ := numeral_append_inj (by simp) (by simp) h
    exact ⟨congrArg some hmn, by simpa using hst⟩

/-- **Facets that show are told from what follows them**, unless it opens a
parenthesis. -/
theorem append_inj {f g : Facets} {s t : List Char} (hf : f.areShown = true)
    (hg : g.areShown = true) (hs : EndsRun (· == '(') s) (ht : EndsRun (· == '(') t)
    (h : f.pieces.chars ++ s = g.pieces.chars ++ t) : f = g ∧ s = t := by
  cases hp : f.precision with
  | none =>
    rw [chars_pieces_of_none hp, List.nil_append] at h
    cases hq : g.precision with
    | none =>
      rw [chars_pieces_of_none hq, List.nil_append] at h
      exact ⟨(eq_none_of_areShown hf hp).trans (eq_none_of_areShown hg hq).symm, h⟩
    | some q =>
      rw [h, chars_pieces_of_some hq] at hs
      simp at hs
  | some p =>
    rw [chars_pieces_of_some hp] at h
    cases hq : g.precision with
    | none =>
      rw [chars_pieces_of_none hq, List.nil_append] at h
      rw [← h] at ht
      simp at ht
    | some q =>
      rw [chars_pieces_of_some hq] at h
      simp only [List.cons_append, List.append_assoc, List.cons.injEq, true_and] at h
      obtain ⟨rfl, hrest⟩ := numeral_append_inj (endsRun_closing _ s) (endsRun_closing _ t) h
      obtain ⟨hsc, hst⟩ := closing_append_inj hrest
      refine ⟨?_, hst⟩
      obtain ⟨p', s'⟩ := f
      obtain ⟨q', t'⟩ := g
      rw [show p' = q' from hp.trans hq.symm, show s' = t' from hsc]

end Facets

/-! ## Built-in names -/

/-- **What can stand behind a type**: nothing, the end of a field, or a
further word that is not `WITH`, which would go on with the type itself. -/
def canFollow : List Char → Bool
  | [] => true
  | ' ' :: s => s.head? != some 'W'
  | c :: _ => c == ',' || c == ')'

/-- What can stand behind a type ends any run of other characters than a
blank, a comma and a closing parenthesis. -/
theorem endsRun_of_canFollow {p : Char → Bool} {s : List Char} (h : canFollow s = true)
    (hp : p ' ' = false ∧ p ',' = false ∧ p ')' = false) : EndsRun p s := by
  match s with
  | [] => simp
  | c :: s =>
    rw [endsRun_cons]
    by_cases hc : c = ' '
    · rw [hc, hp.1]
    · rw [canFollow.eq_3 _ _ (by simpa using hc)] at h
      simp only [Bool.or_eq_true, beq_iff_eq] at h
      rcases h with rfl | rfl
      · exact hp.2.1
      · exact hp.2.2

namespace BuiltIn

theorem isUpper_of_mem_stem (n : BuiltIn) : ∀ c ∈ n.stem.toList, c.isUpper = true := by
  have h : n.stem.toList.all Char.isUpper = true := by cases n <;> decide
  exact List.all_eq_true.1 h

/-- A name is known by what stands before and behind its facets. -/
theorem eq_of_stem {m n : BuiltIn} (h : m.stem = n.stem)
    (ht : m.hasLocalTimeZone = n.hasLocalTimeZone) : m = n := by
  have key : ∀ m ∈ all, ∀ n ∈ all,
      m.stem = n.stem → m.hasLocalTimeZone = n.hasLocalTimeZone → m = n := by
    decide
  exact key m (mem_all m) n (mem_all n) h ht

theorem chars_pieces (n : BuiltIn) (f : Facets) :
    (n.pieces f).chars = n.stem.toList ++ (f.pieces.chars ++ n.tail.chars) := by
  simp [pieces]

/-- A time zone is told from what can stand behind it. -/
theorem tail_append_inj {m n : BuiltIn} {s t : List Char} (hs : canFollow s = true)
    (ht : canFollow t = true) (h : m.tail.chars ++ s = n.tail.chars ++ t) :
    m.hasLocalTimeZone = n.hasLocalTimeZone ∧ s = t := by
  cases hm : m.hasLocalTimeZone <;> cases hn : n.hasLocalTimeZone <;>
    simp only [tail, hm, hn, if_true, if_false, Bool.false_eq_true, Pieces.chars_nil,
      List.nil_append] at h
  · exact ⟨rfl, h⟩
  · simp [h, Pieces.chars, canFollow] at hs
  · simp [← h, Pieces.chars, canFollow] at ht
  · exact ⟨rfl, List.append_cancel_left h⟩

/-- What can stand behind the facets of a type ends the same runs as what
can stand behind the type. -/
theorem endsRun_tail {p : Char → Bool} (n : BuiltIn) {s : List Char} (hs : canFollow s = true)
    (hp : p ' ' = false ∧ p ',' = false ∧ p ')' = false) :
    EndsRun p (n.tail.chars ++ s) := by
  cases hn : n.hasLocalTimeZone with
  | false => simpa [tail, hn] using endsRun_of_canFollow hs hp
  | true => simp [tail, hn, Pieces.chars, hp.1]

theorem endsRun_facets (n : BuiltIn) (f : Facets) {s : List Char} (hs : canFollow s = true) :
    EndsRun Char.isUpper (f.pieces.chars ++ (n.tail.chars ++ s)) := by
  cases hp : f.precision with
  | none =>
    rw [Facets.chars_pieces_of_none hp]
    exact endsRun_tail n hs (by decide)
  | some p =>
    rw [Facets.chars_pieces_of_some hp]
    simp

/-- **A built-in name with its facets is told from what can stand behind
it.** -/
theorem append_inj {m n : BuiltIn} {f g : Facets} {s t : List Char}
    (hf : f.areShown = true) (hg : g.areShown = true) (hs : canFollow s = true)
    (ht : canFollow t = true)
    (h : (m.pieces f).chars ++ s = (n.pieces g).chars ++ t) : m = n ∧ f = g ∧ s = t := by
  rw [chars_pieces, chars_pieces] at h
  simp only [List.append_assoc] at h
  obtain ⟨hstem, h⟩ := run_append_inj m.isUpper_of_mem_stem n.isUpper_of_mem_stem
    (endsRun_facets m f hs) (endsRun_facets n g ht) h
  obtain ⟨hfg, h⟩ := Facets.append_inj hf hg (endsRun_tail m hs (by decide))
    (endsRun_tail n ht (by decide)) h
  obtain ⟨hzone, hst⟩ := tail_append_inj hs ht h
  exact ⟨eq_of_stem (String.toList_injective hstem) hzone, hfg, hst⟩

end BuiltIn

end SqlTyping
