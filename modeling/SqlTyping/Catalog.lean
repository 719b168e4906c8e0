import SqlTyping.Dialect
import SqlTyping.Resolved.Basic

/-!
# Catalogs of built-in types

A **catalog** says which built-in scalar types there are. Asked for a name
with facets, it gives the resolved type or nothing.

The catalog of a dialect has every scalar type, but not with every facet:
`INTEGER(5)` is nothing, since an `INTEGER` takes no precision. Facets
that are not given are the dialect's defaults, and given or not, no facet
exceeds the dialect's limits. A narrower catalog leaves out some types
altogether.

Scalar types are all that is up to a catalog. Collections, rows and types
with another nullability are made in one way, whatever the catalog.
-/

namespace SqlTyping

/-- **The built-in scalar types on offer.** -/
structure Catalog where
  /-- The dialect the types belong to. -/
  dialect : Dialect
  /-- The type that a name with facets stands for, if it is on offer. -/
  scalar? : BuiltIn → Facets → Option ResolvedType

/-- **A dialect's scalar type with given facets**, which does not admit
`NULL`. There is none when the name is no scalar type, or when it is given
a facet that it does not take. -/
def Dialect.scalar? (d : Dialect) (n : BuiltIn) (f : Facets) :
    Option ResolvedType :=
  if n.isScalar && n.admits f then
    some ⟨.scalar n ((f.orElse (d.defaults n)).capped (d.limits n)), false⟩
  else none

namespace Catalog

/-- **All scalar types of a dialect.** -/
def ofDialect (d : Dialect) : Catalog := ⟨d, d.scalar?⟩

/-- The scalar types of the standard dialect. -/
def standard : Catalog := ofDialect .standard

/-- **A catalog without some names.** -/
def without (c : Catalog) (names : List BuiltIn) : Catalog :=
  { c with scalar? := fun n f => if names.contains n then none else c.scalar? n f }

/-- Leaving out nothing changes nothing. -/
@[simp] theorem without_nil (c : Catalog) : c.without [] = c := rfl

end Catalog

/-- A dialect has a scalar type exactly when the name is scalar and takes
the facets. -/
theorem Dialect.isSome_scalar? (d : Dialect) (n : BuiltIn) (f : Facets) :
    (d.scalar? n f).isSome = (n.isScalar && n.admits f) := by
  by_cases h : (n.isScalar && n.admits f) = true <;> simp [scalar?, h]

end SqlTyping
