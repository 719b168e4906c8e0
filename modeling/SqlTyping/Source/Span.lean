import SqlTyping.Source.Position

/-!
# Spans of SQL text

A **span** is the stretch of text a piece of syntax was read from. The
span of compound syntax is the union of the spans of its parts, and a part
of unknown origin contributes nothing to it.

## Equality

Two pieces of syntax are the same when their contents are, wherever they
were written, so `==` on spans is always true and every `==` above it
looks past positions. Where the positions themselves matter, `=` compares
them.
-/

namespace SqlTyping

/-- **A stretch of text**, from `start` up to `stop`. -/
structure Span where
  /-- Where the text starts. -/
  start : Position
  /-- Where the text has ended. -/
  stop : Position
deriving DecidableEq

namespace Span

/-- **Positions do not tell syntax apart**: any two spans are `==`. -/
instance : BEq Span := ⟨fun _ _ => true⟩

/-- Any two spans are `==`. -/
@[simp] theorem beq_eq_true (s t : Span) : (s == t) = true := rfl

/-- The span of syntax of unknown origin. -/
def unknown : Span := ⟨.unknown, .unknown⟩

/-- Whether nothing is known of the span: neither end is a known
position. -/
def isUnknown (s : Span) : Bool := !s.start.isKnown && !s.stop.isKnown

/-- **The smallest span around two**, where an unknown span adds
nothing. -/
def union (s t : Span) : Span :=
  if s.isUnknown then t
  else if t.isUnknown then s
  else ⟨s.start.earlier t.start, s.stop.later t.stop⟩

/-- **The smallest span around all of a list**, unknown for the empty
list. -/
def unionAll : List Span → Span
  | [] => unknown
  | s :: rest => rest.foldl union s

/-- The unknown span is unknown. -/
@[simp] theorem isUnknown_unknown : unknown.isUnknown = true := rfl

/-- An unknown span adds nothing on the left. -/
@[simp] theorem unknown_union (s : Span) : unknown.union s = s := rfl

/-- Nothing is around nothing. -/
@[simp] theorem unionAll_nil : unionAll [] = unknown := rfl

/-- One span is around itself. -/
@[simp] theorem unionAll_singleton (s : Span) : unionAll [s] = s := rfl

end Span

end SqlTyping
