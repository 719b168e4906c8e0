/-!
# Positions in SQL text

A declared type remembers where it was read, and a rejection says where
the fault is. A **position** is a line and a column, both counted from
one; a zero in either is how an unknown position is stored, so no
separate "unknown" value is needed.

Positions are ordered as they are read: by line, then by column. The
order is total on all stored pairs, unknown ones included, which is what
`Span.union` relies on.
-/

namespace SqlTyping

/-- **A place in the text**: a line and a column, counted from one. A zero
stands for a coordinate that is not known. -/
structure Position where
  /-- The line, or zero. -/
  line : UInt64
  /-- The column, or zero. -/
  column : UInt64
deriving DecidableEq

namespace Position

/-- The position of syntax that was never read from a text. -/
def unknown : Position := ⟨0, 0⟩

/-- Whether both coordinates are known. -/
def isKnown (p : Position) : Bool := decide (0 < p.line) && decide (0 < p.column)

/-- **Reading order**: by line, and within a line by column. -/
protected def compare (p q : Position) : Ordering :=
  (compare p.line q.line).then (compare p.column q.column)

instance : Ord Position := ⟨Position.compare⟩

/-- The earlier of two positions. -/
def earlier (p q : Position) : Position := if p.compare q = .gt then q else p

/-- The later of two positions. -/
def later (p q : Position) : Position := if p.compare q = .gt then p else q

/-- **How a message ends**: the position with a leading blank, or nothing
when the line is unknown. An unknown column is written as it is stored. -/
def suffix (p : Position) : String :=
  if p.line = 0 then ""
  else " at Line: " ++ Nat.repr p.line.toNat ++ ", Column: " ++ Nat.repr p.column.toNat

/-- An unknown position adds nothing to a message. -/
@[simp] theorem suffix_unknown : unknown.suffix = "" := rfl

/-- The unknown position is not known. -/
@[simp] theorem isKnown_unknown : unknown.isKnown = false := rfl

end Position

end SqlTyping
