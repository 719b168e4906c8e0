import SqlTyping.Environment
import SqlTyping.Proofs.Declared.Gist
import SqlTyping.Proofs.Name.Spelling

/-!
# Names without letter case

The **caseless** form of a name has `a`–`z` in its parts made capital, in
quotes or not, and its quotes and places as they are. Two names differ in
letter case alone exactly when their caseless forms are equal.

Quotes, brackets and dots have no letter case, and what is doubled within a
value is no letter. So the text of the caseless form is the caseless text
(`QualifiedName.text?_caseless`). The full capitals of a text, which make up
a key where letter case does not count, are those of the caseless text
(`inCapitals_asKeyword`).
-/

namespace SqlTyping

/-! ## Capitals of characters -/

/-- **The capital of a character is a quote only if the character is.** -/
theorem toUpper_eq_quote_iff {c q : Char} (hq : selfClosingQuotes.contains q = true) :
    c.toUpper = q ↔ c = q := by
  have hnat : q.toNat = 34 ∨ q.toNat = 39 ∨ q.toNat = 96 := by
    simp only [selfClosingQuotes, List.contains_cons, List.contains_nil, Bool.or_false,
      Bool.or_eq_true, beq_iff_eq] at hq
    rcases hq with rfl | rfl | rfl <;> decide
  rcases toUpper_cases c with hc | ⟨hle, hge, hc⟩
  · rw [hc]
  · constructor
    · rintro rfl
      omega
    · rintro rfl
      omega

/-- **A character has the full capitals of its capital.** -/
theorem capitalsOf_toUpper (c : Char) : capitalsOf c.toUpper = capitalsOf c := by
  rcases toUpper_cases c with hc | ⟨hle, hge, hc⟩
  · rw [hc]
  · rw [capitalsOf_ascii (by omega), capitalsOf_ascii (by omega), toUpper_toUpper]

theorem foldCase_cons (c : Char) (cs : List Char) :
    foldCase (c :: cs) = c.toUpper :: foldCase cs := rfl

theorem foldCase_append (cs ds : List Char) :
    foldCase (cs ++ ds) = foldCase cs ++ foldCase ds := List.map_append

theorem toList_asKeyword (s : String) : (asKeyword s).toList = foldCase s.toList := by
  rw [asKeyword, String.toList_ofList]

/-- **The full capitals of a text are those of its caseless form.** -/
theorem inCapitals_asKeyword (s : String) : inCapitals (asKeyword s) = inCapitals s := by
  rw [inCapitals, inCapitals, toList_asKeyword, foldCase, List.flatMap_map]
  simp only [capitalsOf_toUpper]

/-- So a text has the key of its caseless form where letter case does not
count. -/
theorem Dialect.key_asKeyword {d : Dialect} (h : d.caseSensitive = false) (s : String) :
    d.key (asKeyword s) = d.key s := by
  simp [key, h, inCapitals_asKeyword]

theorem foldCase_trailing (separator : List Char) (us : List (List Char)) :
    foldCase (trailing separator us) = trailing (foldCase separator) (us.map foldCase) := by
  induction us with
  | nil => rfl
  | cons u us ih => simp [trailing, foldCase_append, ih]

theorem foldCase_joined (separator : List Char) (us : List (List Char)) :
    foldCase (joined separator us) = joined (foldCase separator) (us.map foldCase) := by
  cases us with
  | nil => rfl
  | cons u us => simp [joined, foldCase_append, foldCase_trailing]

/-! ## Names -/

namespace Identifier

/-- **The identifier without letter case**: `a`–`z` are made capital. -/
def caseless (x : Identifier) : Identifier :=
  ⟨SqlTyping.asKeyword x.value, x.quote, x.span⟩

/-- What is doubled within a value is no letter. -/
theorem doubled_foldCase {q : Char} (hq : selfClosingQuotes.contains q = true)
    (cs : List Char) : doubled q (foldCase cs) = foldCase (doubled q cs) := by
  induction cs with
  | nil => rfl
  | cons c cs ih =>
    rw [foldCase_cons, doubled_cons, doubled_cons, foldCase_append, ih]
    by_cases hc : c = q
    · have hup : q.toUpper = q := (toUpper_eq_quote_iff hq).2 rfl
      simp [hc, hup, foldCase]
    · rw [if_neg hc, if_neg (hc ∘ (toUpper_eq_quote_iff hq).1)]
      rfl

/-- **The caseless form is written without letter case.** -/
theorem chars_caseless (x : Identifier) : x.caseless.chars = foldCase x.chars := by
  obtain ⟨v, quote, s⟩ := x
  cases quote with
  | none => rw [chars_of_bare rfl, chars_of_bare rfl, caseless, toList_asKeyword]
  | some q =>
    by_cases hq : selfClosingQuotes.contains q = true
    · have hup : q.toUpper = q := (toUpper_eq_quote_iff hq).2 rfl
      rw [chars_of_doubling rfl hq, chars_of_doubling rfl hq, caseless, toList_asKeyword,
        doubled_foldCase hq, foldCase_cons, foldCase_append, hup]
      simp [foldCase, hup]
    · by_cases hb : q = '['
      · subst hb
        rw [chars_of_bracket rfl, chars_of_bracket rfl, caseless, toList_asKeyword,
          foldCase_cons, foldCase_append]
        rfl
      · -- no other character quotes, and nothing is written
        simp only [chars, pieces, caseless, if_neg hq, if_neg hb]
        rfl

end Identifier

namespace QualifiedName

/-- **The name without letter case.** -/
def caseless (n : QualifiedName) : QualifiedName := ⟨n.parts.map (·.caseless)⟩

/-- A name stands where its caseless form does. -/
theorem span_caseless (n : QualifiedName) : n.caseless.span = n.span := by
  show Span.unionAll ((n.parts.map (·.caseless)).map (·.span)) = _
  rw [List.map_map]
  rfl

theorem isWritable_caseless (n : QualifiedName) : n.caseless.isWritable = n.isWritable := by
  show (n.parts.map (·.caseless)).all (·.isWritable) = _
  rw [List.all_map]
  rfl

/-- **The text of the caseless form is the caseless text.** -/
theorem text?_caseless (n : QualifiedName) : n.caseless.text? = asKeyword <$> n.text? := by
  have hparts : n.caseless.parts.map (·.chars) = (n.parts.map (·.chars)).map foldCase := by
    show (n.parts.map (·.caseless)).map _ = _
    rw [List.map_map, List.map_map]
    exact List.map_congr_left fun x _ => x.chars_caseless
  have hchars : n.caseless.pieces.chars = foldCase n.pieces.chars := by
    unfold pieces
    rw [Pieces.chars_separated, Pieces.chars_separated, List.map_map, List.map_map,
      foldCase_joined]
    exact congrArg (joined _) hparts
  rw [text?, text?, isWritable_caseless, Pieces.text, hchars]
  cases n.isWritable with
  | false => rfl
  | true => exact congrArg Except.ok (by rw [asKeyword, Pieces.toList_text])

end QualifiedName

end SqlTyping
