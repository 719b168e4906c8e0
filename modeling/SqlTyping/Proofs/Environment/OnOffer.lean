import SqlTyping.Proofs.Environment.Session
import SqlTyping.Proofs.Resolution.OnePass

/-!
# Types on offer

A declared type that the catalog has an answer for is **on offer**. It
names no user-defined type and none of its keywords is stray, so the check
of the keywords lets it pass and the catalog's answer is taken before the
scope is asked for anything.

No registration can change that answer or take it away, then, not even one
under a built-in name: `INTEGER` means the integers wherever a type of that
name is registered (`DeclaredType.resolve_of_inCatalog?`).
-/

namespace SqlTyping

/-- **The answer of the catalog is taken without asking.** -/
theorem DeclaredType.resolve_of_inCatalog {s : Scope} {t : DeclaredType} {made : ResolvedType}
    (h : t.inCatalog s.catalog false = .ok made) : t.resolve s = pure made := by
  -- a stray keyword would turn the type down before the catalog is tried
  rw [resolve_eq_orElse (keywordsKnown_of_inCatalog h), h]
  rfl

namespace Environment

/-- Whatever happened to an environment, it resolves what its catalog
offers. -/
theorem resolve_after_of_inCatalog {env : Environment} {t : DeclaredType}
    {made : ResolvedType} (h : t.inCatalog env.catalog false = .ok made) (steps : List Step) :
    (env.after steps).resolve t = .ok made := by
  rw [← catalog_after env steps] at h
  unfold resolve
  rw [DeclaredType.resolve_of_inCatalog (s := (env.after steps).scope) h]
  rfl

end Environment

/-- **A type on offer is what it is in every context.** If a catalog gives a
type for a declared type,

* every scope over the catalog resolves the declared type to that very
  type, asking for nothing, whatever its names mean and whether or not they
  can be looked up;
* so does every session in an environment over the catalog, whatever was
  registered before, under whatever names. -/
theorem DeclaredType.resolve_of_inCatalog? {c : Catalog} {t : DeclaredType}
    {made : ResolvedType} (h : t.inCatalog? c false = .ok (some made)) :
    (∀ lookup : QualifiedName → Except Failure ResolvedType,
      t.resolve ⟨c, lookup⟩ = pure made)
    ∧ ∀ (env : Environment) (steps : List Step) (i : Nat), env.catalog = c →
      steps[i]? = some (.resolve t) →
        (env.answers steps)[i]? = some (.ok (some made)) := by
  have hmade : t.inCatalog c false = .ok made := Shortfall.tolerate_eq_some_iff.1 h
  refine ⟨fun lookup => resolve_of_inCatalog hmade, ?_⟩
  rintro env steps i rfl hi
  rw [Environment.getElem?_answers, hi, Option.map_some, Environment.step,
    Environment.resolve_after_of_inCatalog hmade]
  rfl

/-- The declaration `ROW(n INTEGER array, d DECIMAL(5, 2) NULL) MULTISET
NULL`, of built-in types. -/
def DeclaredType.priceLists : DeclaredType :=
  of (some (.bare "MULTISET")) (.row [⟨.bare "n", collectionOf (.bare "array")
      (.ofBuiltIn .integer) .unknown⟩,
    ⟨.bare "d", ofNullability (.builtIn .decimal ⟨some 5, some 2⟩ .unknown) .nullable⟩] .unknown)
    none none .nullable .unknown

/-- The declaration stands for the same type where no name can be looked
up, and where user-defined types are registered as `INTEGER`, `ROW` and
`ARRAY`. -/
theorem DeclaredType.resolve_priceLists :
    ∃ made : ResolvedType, made.nullable = true
      ∧ priceLists.resolve ⟨.standard, fun _ => .error (.misused .unwritableQuote)⟩ = pure made
      ∧ (Environment.standard.answers
          [.register (.ofPath "INTEGER") ⟨.scalar .date .none, false⟩,
            .register (.ofPath "row") ⟨.scalar .double .none, true⟩,
            .register (.ofPath "ARRAY") ⟨.scalar .date .none, false⟩,
            .resolve priceLists])[3]? = some (.ok (some made)) := by
  let price : ResolvedType := ⟨.scalar .decimal ⟨some 5, some 2⟩, true⟩
  let numbers : ResolvedType := .collectionOf .array ⟨.scalar .integer .none, false⟩ unboundedSize
  let row : ResolvedType := .rowOf [⟨"n", numbers⟩, ⟨"d", price⟩]
  have h : priceLists.inCatalog? .standard false
      = .ok (some ((ResolvedType.collectionOf .multiset row unboundedSize).withNullable true)) :=
    rfl
  obtain ⟨hscope, hsession⟩ := resolve_of_inCatalog? h
  exact ⟨_, rfl, hscope _, hsession .standard _ 3 rfl rfl⟩

end SqlTyping
