import SqlTyping.Proofs.Text.Seam

/-!
# Words are maximal runs

`words` finds the words of a text by cutting it at every separator and
dropping what is empty. Which words a text has can be said without cutting:
they are its **maximal runs** of characters that are no separators, from left
to right. `HasWords` says so, and it holds of the words that `words` finds and
of no others (`hasWords_iff`).

A separator that no word is next to, or one more where there is one already,
belongs to no run. So texts that differ in separators at such places only have
the same words.
-/

namespace SqlTyping

/-- **The words of a text**: its maximal runs of characters that are no
separators. -/
inductive HasWords (isSeparator : Char → Bool) : List Char → List (List Char) → Prop
  /-- Behind everything there are no words. -/
  | nil : HasWords isSeparator [] []
  /-- A separator is in no word. -/
  | separator {c : Char} {cs : List Char} {ws : List (List Char)} :
      isSeparator c = true → HasWords isSeparator cs ws → HasWords isSeparator (c :: cs) ws
  /-- A word has something in it, and what follows does not go on with it. -/
  | word {w cs : List Char} {ws : List (List Char)} :
      w ≠ [] → (∀ c ∈ w, isSeparator c = false) → EndsRun (fun c => !isSeparator c) cs →
        HasWords isSeparator cs ws → HasWords isSeparator (w ++ cs) (w :: ws)

variable {isSeparator : Char → Bool}

/-- A separator in front adds no word. -/
theorem words_cons_separator {c : Char} (hc : isSeparator c = true) (cs : List Char) :
    words isSeparator (c :: cs) = words isSeparator cs := by
  rw [words, splits, if_pos hc, List.filter_cons_of_neg (by simp)]
  rfl

/-- What is no separator goes on with the first stretch. -/
theorem splits_append {w : List Char} (hw : ∀ c ∈ w, isSeparator c = false) (cs : List Char) :
    splits isSeparator (w ++ cs) = (splits isSeparator cs).modifyHead (w ++ ·) := by
  induction w with
  | nil => exact (congrFun List.modifyHead_id _).symm
  | cons c w ih =>
    obtain ⟨hc, hw⟩ := List.forall_mem_cons.1 hw
    rw [List.cons_append, splits, if_neg (by simp [hc]), ih hw]
    cases splits isSeparator cs <;> rfl

/-- **A run up to a separator is the first word.** -/
theorem words_append {w cs : List Char} (hne : w ≠ []) (hw : ∀ c ∈ w, isSeparator c = false)
    (hcs : EndsRun (fun c => !isSeparator c) cs) :
    words isSeparator (w ++ cs) = w :: words isSeparator cs := by
  have hfilter (vs : List (List Char)) :
      List.filter (fun v => !v.isEmpty) (w :: vs) = w :: vs.filter fun v => !v.isEmpty :=
    List.filter_cons_of_pos (by simpa using hne)
  rw [words, splits_append hw]
  cases cs with
  | nil => simp [splits, words, hne]
  | cons c cs =>
    have hc : isSeparator c = true := by simpa using hcs
    rw [words_cons_separator hc, splits, if_pos hc, List.modifyHead_cons, List.append_nil, hfilter]
    rfl

/-- The words of a text are those that are found. -/
theorem HasWords.words_eq {cs : List Char} {ws : List (List Char)}
    (h : HasWords isSeparator cs ws) : words isSeparator cs = ws := by
  induction h with
  | nil => rfl
  | separator hc _ ih => rw [words_cons_separator hc, ih]
  | word hne hw hcs _ ih => rw [words_append hne hw hcs, ih]

/-- Every text has words, if only none. -/
theorem exists_hasWords (cs : List Char) : ∃ ws, HasWords isSeparator cs ws := by
  induction cs with
  | nil => exact ⟨[], .nil⟩
  | cons c cs ih =>
    obtain ⟨ws, h⟩ := ih
    cases hc : isSeparator c with
    | true => exact ⟨ws, .separator hc h⟩
    | false =>
      -- the character is a word of its own, unless the text goes on with a word
      have hself : ∀ d ∈ [c], isSeparator d = false := by simpa using hc
      cases h with
      | nil => exact ⟨_, .word (List.cons_ne_nil c []) hself (endsRun_nil _) .nil⟩
      | separator hd h =>
        exact ⟨_, .word (List.cons_ne_nil c []) hself (by simp [hd]) (.separator hd h)⟩
      | word hne hw hcs h =>
        exact ⟨_, .word (List.cons_ne_nil c _) (List.forall_mem_cons.2 ⟨hc, hw⟩) hcs h⟩

/-- **The words that are found are the maximal runs, and no others are.** -/
theorem hasWords_iff {cs : List Char} {ws : List (List Char)} :
    HasWords isSeparator cs ws ↔ words isSeparator cs = ws := by
  refine ⟨HasWords.words_eq, ?_⟩
  rintro rfl
  obtain ⟨ws, h⟩ : ∃ ws, HasWords isSeparator cs ws := exists_hasWords cs
  exact h.words_eq.symm ▸ h

/-- A text without separators is one word, if it is not empty. -/
theorem hasWords_singleton {w : List Char} (hne : w ≠ [])
    (hw : ∀ c ∈ w, isSeparator c = false) : HasWords isSeparator w [w] := by
  have h := HasWords.word hne hw (endsRun_nil _) .nil
  rwa [List.append_nil] at h

end SqlTyping
