import SqlTyping.Proofs.Environment.Session
import SqlTyping.Proofs.Name.Spelling

/-!
# Names that share a binding

Where letter case counts, the key of a name is its text, so that names
share a binding when they have the same text. Registering a well-formed
name leaves alone what all others are bound to that are not `==` to it,
except for those of which it hides a seam and those that hide one of its
own (`Environment.lookup_register_iff`).
-/

namespace SqlTyping

namespace Environment

open QualifiedName (bracketed)

variable {env : Environment} {m n : QualifiedName}

/-- **What a name is bound to after a registration**: the type registered
if the names share a key, and what it was bound to before if not. -/
theorem lookup_of_register {a b : String} (hm : m.text? = .ok a) (hn : n.text? = .ok b)
    {t : ResolvedType} {env' : Environment} {old : Option ResolvedType}
    (h : env.register m t = .ok (env', old)) :
    env'.lookup n
      = if env.catalog.dialect.key b = env.catalog.dialect.key a then .ok t
        else env.lookup n := by
  rw [register_of_text? hm] at h
  cases h
  rw [lookup_of_text? hn, lookup_of_text? hn]
  dsimp only
  rw [Registry.find?_insert]
  by_cases hk : env.catalog.dialect.key b = env.catalog.dialect.key a
  · rw [if_pos hk, if_pos hk]
  · rw [if_neg hk, if_neg hk]

/-- **Registrations leave other names alone unless a seam is hidden.** Where
letter case counts, a well-formed name can be registered with any type
without a change to what another is bound to, exactly when neither hides a
seam of the other. -/
theorem lookup_register_iff (hc : env.catalog.dialect.caseSensitive = true)
    (hm : m.isWellFormed = true) (hn : n.isWellFormed = true) (hne : (m == n) = false) :
    (∀ t, ∃ env' old, env.register m t = .ok (env', old) ∧ env'.lookup n = env.lookup n)
      ↔ ¬ (n.HidesSeam m ∨ m.HidesSeam n) := by
  have htm := QualifiedName.text?_of_isWellFormed hm
  have htn := QualifiedName.text?_of_isWellFormed hn
  have hkey (text : String) : env.catalog.dialect.key text = text := if_pos hc
  have hhides : m.text? = n.text? ↔ n.HidesSeam m ∨ m.HidesSeam n := by
    rw [QualifiedName.text?_eq_iff hm hn, hne]
    simp
  rw [← hhides, htm, htn, Except.ok.injEq]
  constructor
  · intro h htext
    -- no type is both of two that differ, and the name would be bound to both
    have bound (t : ResolvedType) : env.lookup n = .ok t := by
      obtain ⟨env', old, hreg, hsame⟩ := h t
      rw [← hsame, lookup_of_register htm htn hreg, htext, if_pos rfl]
    have htwice := (bound ⟨.scalar .integer .none, false⟩).symm.trans
      (bound ⟨.scalar .integer .none, true⟩)
    cases htwice
  · intro htext t
    refine ⟨_, _, register_of_text? htm env t, ?_⟩
    rw [lookup_of_register htm htn (register_of_text? htm env t), hkey, hkey,
      if_neg (Ne.symm htext)]

/-- A dialect in which letter case counts in names. -/
def literal : Dialect := .adjusted { caseSensitive := true }

/-- The value `a].b` in brackets does not hide the seam of `[a].[b]`, so the
one is registered without a change to what the other is bound to. -/
theorem lookup_register_bracketed :
    (bracketed ["a].b"]).isWellFormed = true
      ∧ (bracketed ["a", "b"]).isWellFormed = true
      ∧ ∀ (steps : List Step) (t : ResolvedType), ∃ env' old,
        ((ofCatalog (.ofDialect literal)).after steps).register (bracketed ["a].b"]) t
            = .ok (env', old)
          ∧ env'.lookup (bracketed ["a", "b"])
            = ((ofCatalog (.ofDialect literal)).after steps).lookup (bracketed ["a", "b"]) := by
  have hm : (bracketed ["a].b"]).isWellFormed = true := by decide
  have hn : (bracketed ["a", "b"]).isWellFormed = true := by decide
  refine ⟨hm, hn, fun steps => ?_⟩
  have hc : ((ofCatalog (.ofDialect literal)).after steps).catalog.dialect.caseSensitive
      = true := by
    rw [catalog_after]
    rfl
  refine (lookup_register_iff hc hm hn (by decide)).2 fun h => ?_
  have htext := (QualifiedName.text?_eq_iff hm hn).2 (.inr h)
  exact absurd (congrArg Except.toOption htext) (by decide)

/-- **The value `a].[b` in brackets has the key of `[a].[b]`**, so not every
registration leaves other names alone. -/
theorem not_lookup_register_bracketed :
    ¬ ∀ (c : Catalog) (steps : List Step) (m n : QualifiedName) (t : ResolvedType),
      c.dialect.caseSensitive = true → m.isWellFormed = true → n.isWellFormed = true →
        (m == n) = false → ∃ env' old,
          ((ofCatalog c).after steps).register m t = .ok (env', old)
            ∧ env'.lookup n = ((ofCatalog c).after steps).lookup n := by
  intro h
  obtain ⟨env', old, hreg, hsame⟩ := h (.ofDialect literal) [] (bracketed ["a].[b"])
    (bracketed ["a", "b"]) ⟨.scalar .integer .none, false⟩ rfl (by decide) (by decide) (by decide)
  have hbound : env'.lookup (bracketed ["a", "b"]) = .ok ⟨.scalar .integer .none, false⟩ :=
    lookup_of_register (a := "[a].[b]") (b := "[a].[b]") rfl rfl hreg
  rw [hsame] at hbound
  cases hbound

end Environment

end SqlTyping
