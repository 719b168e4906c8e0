import SqlTyping.Text.Casing

/-!
# Collections

A type can be turned into a collection of its values by a keyword behind
it: `INTEGER ARRAY`, `VARCHAR(10) MULTISET`.
-/

namespace SqlTyping

/-- **The two kinds of collection.** -/
inductive Collection where
  /-- Ordered: `ARRAY`. -/
  | array
  /-- Unordered: `MULTISET`. -/
  | multiset
deriving DecidableEq, Ord

namespace Collection

/-- The keyword that makes a collection. -/
def keyword : Collection → String
  | array => "ARRAY"
  | multiset => "MULTISET"

/-- **The collection a keyword makes**, in whatever case it is written. -/
def ofKeyword? (s : String) : Option Collection :=
  if sameKeyword s "ARRAY" then some array
  else if sameKeyword s "MULTISET" then some multiset
  else none

/-- Reading back a written keyword. -/
@[simp] theorem ofKeyword?_keyword (k : Collection) :
    ofKeyword? k.keyword = some k := by
  cases k <;> decide

/-- A keyword makes a collection exactly when it is that collection's own
keyword, up to case. -/
theorem ofKeyword?_eq_some_iff {s : String} {k : Collection} :
    ofKeyword? s = some k ↔ sameKeyword s k.keyword = true := by
  have apart : foldCase "ARRAY".toList ≠ foldCase "MULTISET".toList := by decide
  have h : sameKeyword s "ARRAY" = true → ¬ sameKeyword s "MULTISET" = true := by
    simp only [sameKeyword_iff]
    intro h h'
    exact apart (h.symm.trans h')
  cases k <;> by_cases ha : sameKeyword s "ARRAY" = true <;>
    simp_all [ofKeyword?, keyword]

/-- The same keyword makes the same collection. -/
theorem ofKeyword?_congr {s t : String} (h : sameKeyword s t = true) :
    ofKeyword? s = ofKeyword? t := by
  rw [sameKeyword_iff] at h
  unfold ofKeyword? sameKeyword
  rw [h]

/-- In capitals, a keyword that makes a collection is that collection's
own. -/
theorem foldCase_of_ofKeyword? {s : String} {k : Collection} (h : ofKeyword? s = some k) :
    foldCase s.toList = k.keyword.toList := by
  rw [sameKeyword_iff.1 (ofKeyword?_eq_some_iff.1 h)]
  cases k <;> decide

end Collection

end SqlTyping
