import SqlTyping.BuiltIn

/-!
# Dialects

Dialects of SQL disagree on details: how long a `VARCHAR` may be, how many
digits a `DECIMAL` has when none are given, whether the names of
user-defined types tell letter cases apart. A **dialect** collects what
the rest of the library asks of one.

## Standard rules

Most dialects differ in a few numbers only, and some of the standard rules
lean on others: a `DECIMAL` without a precision has the greatest one, and
its scale may be as great as its precision. Every field of `Dialect` but
the first has the standard rule for a default, stated by the greatest
precisions, so a dialect that changes those and nothing else changes the
rest along. `Dialect.adjusted` gives single types other values than the
rules do.
-/

namespace SqlTyping

/-- A number for some of the built-in types. -/
abbrev FacetRule := BuiltIn → Option UInt64

namespace FacetRule

/-- The standard greatest precisions. -/
def greatestPrecision : FacetRule
  | .decimal => some 19
  | .char | .varchar | .binary | .varbinary => some 65536
  | .time | .timeWithLocalTimeZone | .timestamp | .timestampWithLocalTimeZone =>
    some 3
  | _ => none

/-- **The rule with other values for listed types.** The last entry for a
type is the one that counts. -/
def adjusted (rule : FacetRule) (entries : List (BuiltIn × Option UInt64)) :
    FacetRule :=
  fun n => (entries.reverse.lookup n).getD (rule n)

/-- Without entries the rule stays as it is. -/
@[simp] theorem adjusted_nil (rule : FacetRule) : rule.adjusted [] = rule := rfl

end FacetRule

/-- **What one dialect of SQL lays down about types.** -/
structure Dialect where
  /-- The greatest precision; a greater one is cut down to it. -/
  maxPrecision : FacetRule := FacetRule.greatestPrecision
  /-- The greatest scale; a greater one is cut down to it. -/
  maxScale : FacetRule := fun
    | .decimal => maxPrecision .decimal
    | _ => none
  /-- The precision of a type that is given none. -/
  defaultPrecision : FacetRule := fun
    | .char | .binary => some 1
    | .decimal => maxPrecision .decimal
    | .time | .timeWithLocalTimeZone | .timestamp
    | .timestampWithLocalTimeZone => some 0
    | _ => none
  /-- The scale of a type that is given none. -/
  defaultScale : FacetRule := fun
    | .decimal => some 0
    | _ => none
  /-- Whether names of user-defined types that differ in the case of
  letters are different names. -/
  caseSensitive : Bool := false

/-- **Values for single types** that take the place of what the rules
give. -/
structure Adjustments where
  /-- Greatest precisions. -/
  maxPrecision : List (BuiltIn × Option UInt64) := []
  /-- Greatest scales. -/
  maxScale : List (BuiltIn × Option UInt64) := []
  /-- Default precisions. -/
  defaultPrecision : List (BuiltIn × Option UInt64) := []
  /-- Default scales. -/
  defaultScale : List (BuiltIn × Option UInt64) := []
  /-- Whether letter case counts in names. -/
  caseSensitive : Bool := false

namespace Dialect

/-- **The standard dialect.** -/
def standard : Dialect := {}

/-- **The standard dialect with adjustments.** Adjusted greatest
precisions are seen by the standard rules for the other facets; all other
adjustments change themselves alone. -/
def adjusted (a : Adjustments) : Dialect :=
  let rules : Dialect :=
    { maxPrecision := FacetRule.greatestPrecision.adjusted a.maxPrecision
      caseSensitive := a.caseSensitive }
  { rules with
    maxScale := rules.maxScale.adjusted a.maxScale
    defaultPrecision := rules.defaultPrecision.adjusted a.defaultPrecision
    defaultScale := rules.defaultScale.adjusted a.defaultScale }

/-- The facets of a type that is given none. -/
def defaults (d : Dialect) (n : BuiltIn) : Facets :=
  ⟨d.defaultPrecision n, d.defaultScale n⟩

/-- The greatest facets of a type. -/
def limits (d : Dialect) (n : BuiltIn) : Facets := ⟨d.maxPrecision n, d.maxScale n⟩

/-- Adjusting nothing gives the standard dialect. -/
theorem adjusted_none : adjusted {} = standard := rfl

end Dialect

end SqlTyping
