import SqlTyping.Name.Identifier
import SqlTyping.Text.Words

/-!
# Qualified names

The name of a user-defined type is a list of identifiers, such as
`my_schema.my_type`, written with a dot between each two. An empty list
has the empty text.
-/

namespace SqlTyping

/-- **A name of one or more parts**, outermost first. -/
structure QualifiedName where
  /-- The parts of the name. -/
  parts : List Identifier
deriving DecidableEq, BEq

namespace QualifiedName

/-- The name of a single part. -/
def ofIdentifier (x : Identifier) : QualifiedName := ⟨[x]⟩

/-- **The name a dotted path spells**: bare identifiers, one for each
stretch between dots. -/
def ofPath (path : String) : QualifiedName :=
  ⟨(splits (· == '.') path.toList).map fun part => .bare (String.ofList part)⟩

/-- The last part, which names the type within its schema. -/
def last? (n : QualifiedName) : Option Identifier := n.parts.getLast?

/-- **Where the name stands**: around all of its parts. -/
def span (n : QualifiedName) : Span := .unionAll (n.parts.map (·.span))

/-- Whether every part can be written. -/
def isWritable (n : QualifiedName) : Bool := n.parts.all (·.isWritable)

/-- How a name is written. -/
def pieces (n : QualifiedName) : Pieces :=
  Pieces.separated ["."] (n.parts.map (·.pieces))

/-- **The text of a name**, if every part can be written. -/
def text? (n : QualifiedName) : Except Misuse String :=
  if n.isWritable then .ok n.pieces.text else .error .unwritableQuote

/-- A name of one part is written as that part. -/
@[simp] theorem pieces_ofIdentifier (x : Identifier) :
    (ofIdentifier x).pieces = x.pieces := rfl

/-- A name of one part stands where that part does. -/
@[simp] theorem span_ofIdentifier (x : Identifier) :
    (ofIdentifier x).span = x.span := rfl

end QualifiedName

end SqlTyping
