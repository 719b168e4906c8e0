import Mathlib.Data.List.Forall2
import SqlTyping.BuiltIn
import SqlTyping.Proofs.Text.Words

/-!
# Which texts name a built-in type

A text names a built-in type when its words are, one for one and in whatever
case, those of the type's spelling or of one of its aliases
(`BuiltIn.IsNamedBy`). Some spellings begin with others, as `TIME WITH LOCAL
TIME ZONE` begins with `TIME`, so it matters that the words have to be all of
one entry of the vocabulary, and no two entries for different types have the
same words.

Reading a text finds the type that it names, if it names one, and it names no
other (`BuiltIn.ofText?_iff_isNamedBy`). What stands between the words and
around them does not matter, as long as it separates them.
-/

namespace SqlTyping

/-- Letters of the ASCII alphabet separate nothing. -/
theorem BuiltIn.isSeparator_of_letter {c : Char}
    (h : (65 ≤ c.toNat ∧ c.toNat ≤ 90) ∨ (97 ≤ c.toNat ∧ c.toNat ≤ 122)) :
    isSeparator c = false := by
  have hscore : c ≠ '_' := by
    rintro rfl
    exact absurd h (by decide)
  have hblank : c.toNat ∉ blankCodes := by
    simp only [blankCodes, List.mem_cons, List.not_mem_nil, or_false]
    omega
  simp [isSeparator, isBlank, hscore, hblank]

/-- **A character separates words exactly when its capital does.** -/
theorem BuiltIn.isSeparator_toUpper (c : Char) : isSeparator c.toUpper = isSeparator c := by
  rcases toUpper_cases c with hc | ⟨hle, hge, hc⟩
  · rw [hc]
  · rw [isSeparator_of_letter (.inl (by omega)), isSeparator_of_letter (.inr ⟨hle, hge⟩)]

/-- **A keyword that makes a collection is a single word.** -/
theorem Collection.hasWords_of_ofKeyword? {s : String} {k : Collection}
    (h : ofKeyword? s = some k) : HasWords BuiltIn.isSeparator s.toList [s.toList] := by
  have hfold : foldCase s.toList = k.keyword.toList := foldCase_of_ofKeyword? h
  have hkeyword : k.keyword.toList ≠ []
      ∧ (k.keyword.toList.all fun c => !BuiltIn.isSeparator c) = true := by
    cases k <;> decide
  refine hasWords_singleton ?_ fun c hc => ?_
  · intro hnil
    exact hkeyword.1 (hfold ▸ congrArg foldCase hnil)
  · rw [← BuiltIn.isSeparator_toUpper, ← Bool.not_eq_true']
    exact List.all_eq_true.1 hkeyword.2 _ (hfold ▸ List.mem_map_of_mem hc)

namespace BuiltIn

/-- **A text that names a type**: its words are, one for one and up to case,
those of the type's spelling or of one of its aliases. -/
def IsNamedBy (n : BuiltIn) (s : String) : Prop :=
  ∃ ws entry, HasWords isSeparator s.toList ws
    ∧ (entry = n.spelling ∨ (entry, n) ∈ aliases)
    ∧ List.Forall₂ (fun w v => foldCase w = foldCase v) ws (entryWords entry)

/-- The vocabulary has the spelling of every type, and the aliases. -/
theorem mem_vocabulary_iff {entry : String} {n : BuiltIn} :
    (entry, n) ∈ vocabulary ↔ entry = n.spelling ∨ (entry, n) ∈ aliases := by
  rw [vocabulary, List.mem_append, List.mem_map]
  refine or_congr_left ⟨?_, ?_⟩
  · rintro ⟨m, -, h⟩
    cases h
    rfl
  · rintro rfl
    exact ⟨n, mem_all n, rfl⟩

/-- A text has the words of an entry when they agree one for one. -/
theorem reads_iff {s entry : String} {ws : List (List Char)}
    (hs : HasWords isSeparator s.toList ws) :
    reads s entry = true
      ↔ List.Forall₂ (fun w v => foldCase w = foldCase v) ws (entryWords entry) := by
  rw [reads, hs.words_eq, beq_iff_eq, ← List.forall₂_eq_eq_eq, List.forall₂_map_left_iff,
    List.forall₂_map_right_iff]

/-- So the type is named by the text when an entry for it has the words. -/
theorem isNamedBy_iff {s : String} {n : BuiltIn} :
    n.IsNamedBy s ↔ ∃ entry, (entry, n) ∈ vocabulary ∧ reads s entry = true := by
  constructor
  · rintro ⟨ws, entry, hs, hentry, hws⟩
    exact ⟨entry, mem_vocabulary_iff.2 hentry, (reads_iff hs).2 hws⟩
  · rintro ⟨entry, hentry, hreads⟩
    obtain ⟨ws, hs⟩ : ∃ ws, HasWords isSeparator s.toList ws := exists_hasWords s.toList
    exact ⟨ws, entry, hs, mem_vocabulary_iff.1 hentry, (reads_iff hs).1 hreads⟩

/-- **Entries of the vocabulary with the same words are for one type.** -/
theorem eq_of_entryWords {e f : String × BuiltIn} (he : e ∈ vocabulary) (hf : f ∈ vocabulary)
    (h : (entryWords e.1).map foldCase = (entryWords f.1).map foldCase) : e.2 = f.2 := by
  have key : ∀ e ∈ vocabulary, ∀ f ∈ vocabulary,
      (entryWords e.1).map foldCase = (entryWords f.1).map foldCase → e.2 = f.2 := by
    decide +kernel
  exact key e he f hf h

/-- **A text names one type at most.** -/
theorem IsNamedBy.unique {s : String} {m n : BuiltIn} (hm : m.IsNamedBy s) (hn : n.IsNamedBy s) :
    m = n := by
  obtain ⟨e, he, hse⟩ := isNamedBy_iff.1 hm
  obtain ⟨f, hf, hsf⟩ := isNamedBy_iff.1 hn
  exact eq_of_entryWords he hf ((beq_iff_eq.1 hse).symm.trans (beq_iff_eq.1 hsf))

/-- **The type that is read is the one that is named.** -/
theorem ofText?_eq_some_iff {s : String} {n : BuiltIn} : ofText? s = some n ↔ n.IsNamedBy s := by
  constructor
  · intro h
    obtain ⟨⟨entry, m⟩, hfind, rfl⟩ := Option.map_eq_some_iff.1 h
    exact isNamedBy_iff.2 ⟨entry, List.mem_of_find?_eq_some hfind,
      List.find?_some (p := fun e : String × BuiltIn => reads s e.1) hfind⟩
  · intro h
    obtain ⟨entry, hentry, hreads⟩ := isNamedBy_iff.1 h
    cases hfind : vocabulary.find? fun e => reads s e.1 with
    | none => exact absurd hreads (List.find?_eq_none.1 hfind _ hentry)
    | some e =>
      -- the first entry with the words need not be this one, but it is for the same type
      have he : e.2.IsNamedBy s := isNamedBy_iff.2 ⟨e.1, List.mem_of_find?_eq_some hfind,
        List.find?_some (p := fun e : String × BuiltIn => reads s e.1) hfind⟩
      rw [ofText?, hfind, Option.map_some, he.unique h]

/-- A keyword that makes a collection names the type of that collection. -/
theorem isNamedBy_of_ofKeyword? {s : String} {k : Collection}
    (h : Collection.ofKeyword? s = some k) : k.builtIn.IsNamedBy s := by
  refine ⟨_, k.keyword, Collection.hasWords_of_ofKeyword? h, .inl k.spelling_builtIn.symm, ?_⟩
  have hwords : entryWords k.keyword = [k.keyword.toList] := by cases k <;> decide
  have hkeyword : foldCase k.keyword.toList = k.keyword.toList := by cases k <;> decide
  rw [hwords]
  exact .cons (by rw [Collection.foldCase_of_ofKeyword? h, hkeyword]) .nil

/-- **A built-in name is read from exactly the texts that name it.**

* A text is read as a type when its words are, one for one and up to case,
  those of the type's spelling or of one of its aliases, and as none when they
  are those of no type.
* No text names two types.
* Texts with the same words are read alike, whatever separates the words and
  stands around them.
* A text that makes a collection as a keyword is read as the type of that
  collection. -/
theorem ofText?_iff_isNamedBy :
    (∀ (s : String) (n : BuiltIn), ofText? s = some n ↔ n.IsNamedBy s)
      ∧ (∀ s : String, ofText? s = none ↔ ∀ n : BuiltIn, ¬ n.IsNamedBy s)
      ∧ (∀ (s : String) (m n : BuiltIn), m.IsNamedBy s → n.IsNamedBy s → m = n)
      ∧ (∀ (s t : String) (ws : List (List Char)), HasWords isSeparator s.toList ws →
        HasWords isSeparator t.toList ws → ofText? s = ofText? t)
      ∧ ∀ (s : String) (k : Collection),
        Collection.ofKeyword? s = some k → ofText? s = some k.builtIn := by
  refine ⟨fun _ _ => ofText?_eq_some_iff, fun s => ?_, fun _ _ _ => IsNamedBy.unique,
    fun s t ws hs ht => ?_, fun s k h => ?_⟩
  · rw [Option.eq_none_iff_forall_ne_some]
    exact forall_congr' fun n => not_congr ofText?_eq_some_iff
  · have hreads (entry : String) : reads s entry = reads t entry := by
      rw [reads, reads, hs.words_eq, ht.words_eq]
    simp only [ofText?, hreads]
  · exact ofText?_eq_some_iff.2 (isNamedBy_of_ofKeyword? h)

/-- Underscores and a no-break space separate words as well as blanks do, and
the words of a time zone are not left over. -/
theorem ofText?_localTimestamp :
    HasWords isSeparator "__timestamp With\u00a0LOCAL_\ttime zone ".toList
        ["timestamp".toList, "With".toList, "LOCAL".toList, "time".toList, "zone".toList]
      ∧ ofText? "__timestamp With\u00a0LOCAL_\ttime zone " = some timestampWithLocalTimeZone
      ∧ ¬ time.IsNamedBy "TIME WITH" ∧ ofText? "mulTIset" = some multiset := by
  obtain ⟨hread, hunread, hone, hwords, hkeyword⟩ := ofText?_iff_isNamedBy
  have hs : HasWords isSeparator "__timestamp With\u00a0LOCAL_\ttime zone ".toList
      ["timestamp".toList, "With".toList, "LOCAL".toList, "time".toList, "zone".toList] :=
    hasWords_iff.2 (by decide +kernel)
  have ht : HasWords isSeparator "timestamp With LOCAL time zone".toList
      ["timestamp".toList, "With".toList, "LOCAL".toList, "time".toList, "zone".toList] :=
    hasWords_iff.2 (by decide +kernel)
  refine ⟨hs, ?_, ?_, hkeyword _ .multiset (by decide +kernel)⟩
  · rw [hwords _ _ _ hs ht]
    decide +kernel
  · exact (hunread "TIME WITH").1 (by decide +kernel) time

end BuiltIn

end SqlTyping
