/-!
# Text in pieces

A type is written out piece by piece, and the **pieces** are kept until
the end: what indentation does depends on them. An indented block starts
with two blanks, and has two more after every piece that is a line break
and nothing else. A line break inside a longer piece is part of a name and
stays as it is; one that is a piece of its own is taken for layout,
whoever wrote it.

Every text exists in two layouts. The `compact` one is a single line; the
`pretty` one puts each member of a parenthesised list on a line of its
own, two blanks further in.

Statements about texts go through `chars`, the characters the pieces make
up: `chars_append` and `chars_ofChars` say how it sees what is written.
-/

namespace SqlTyping

/-- **How a text is laid out.** -/
inductive Layout where
  /-- On one line. -/
  | compact
  /-- Each member of a parenthesised list on its own line. -/
  | pretty
deriving DecidableEq

/-- **Text as it is written**, one entry a piece. -/
abbrev Pieces := List String

namespace Pieces

/-- The characters of the pieces, in order. -/
def chars (ps : Pieces) : List Char := ps.flatMap String.toList

/-- **The text the pieces make up.** -/
def text (ps : Pieces) : String := String.ofList ps.chars

/-- **Text written a character at a time.** -/
def ofChars (cs : List Char) : Pieces := cs.map String.singleton

/-- What one piece becomes inside an indented block: a line break of its
own is followed by the indentation. -/
def indentPiece (p : String) : Pieces := if p = "\n" then [p, "  "] else [p]

/-- **An indented block.** -/
def indent (ps : Pieces) : Pieces := "  " :: ps.flatMap indentPiece

/-- Members one after the other, with a separator between each two. -/
def separated (separator : Pieces) : List Pieces → Pieces
  | [] => []
  | [p] => p
  | p :: q :: rest => p ++ separator ++ separated separator (q :: rest)

/-- The characters of no pieces. -/
@[simp] theorem chars_nil : chars [] = [] := rfl

/-- The characters of a piece and what follows it. -/
@[simp] theorem chars_cons (p : String) (ps : Pieces) :
    chars (p :: ps) = p.toList ++ chars ps := rfl

/-- Writing one text after another. -/
@[simp] theorem chars_append (ps qs : Pieces) :
    chars (ps ++ qs) = chars ps ++ chars qs := by
  simp [chars]

/-- Writing character by character writes the same characters. -/
@[simp] theorem chars_ofChars (cs : List Char) : chars (ofChars cs) = cs := by
  induction cs with
  | nil => rfl
  | cons c cs ih => simpa [ofChars, chars] using ih

/-- The text's characters are the pieces' characters. -/
@[simp] theorem toList_text (ps : Pieces) : ps.text.toList = ps.chars := by
  simp [text]

end Pieces

namespace Layout

/-- What stands after an opening and before a closing parenthesis. -/
def edge : Layout → Pieces
  | compact => []
  | pretty => ["\n"]

/-- What stands between two members of a list. -/
def comma : Layout → Pieces
  | compact => [",", " "]
  | pretty => [",", "\n"]

/-- The members of a list, set off from what surrounds it. -/
def block : Layout → Pieces → Pieces
  | compact, ps => ps
  | pretty, ps => ps.indent

/-- **A parenthesised list.** An empty list has its lines too. -/
def parenthesized (layout : Layout) (members : List Pieces) : Pieces :=
  "(" :: layout.edge
    ++ layout.block (Pieces.separated layout.comma members)
    ++ layout.edge ++ [")"]

end Layout

end SqlTyping
