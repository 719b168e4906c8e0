/-!
# Splitting text

`splits` cuts a text at every separator and keeps what is empty between
two of them, as the parts of a dotted path are kept. `words` keeps only
the runs with something in them, as the words of a type name are.
-/

namespace SqlTyping

/-- **The stretches between separators**, empty ones included: one more
than there are separators. -/
def splits (isSeparator : Char → Bool) : List Char → List (List Char)
  | [] => [[]]
  | c :: cs =>
    if isSeparator c then [] :: splits isSeparator cs
    else (splits isSeparator cs).modifyHead (c :: ·)

/-- **The words of a text**: the longest runs without a separator. -/
def words (isSeparator : Char → Bool) (cs : List Char) : List (List Char) :=
  (splits isSeparator cs).filter (fun w => !w.isEmpty)

end SqlTyping
