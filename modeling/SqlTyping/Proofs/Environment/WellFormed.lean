import SqlTyping.Proofs.Environment.Session
import SqlTyping.Proofs.Resolution.WellFormed

/-!
# Sessions of well-formed types

A session may register types of its own making only: user-defined types
over the scalar types of the catalog, and over the types that earlier steps
were answered with. All types it gets to see are well-formed then, for any
dialect and however often an answer is registered and resolved into a
further one (`Environment.wellFormed_of_homemade`).

The invariant of a step is that the registry holds well-formed types. That
of a session is that the answers so far are well-formed as well, since they
are what the next registration may be made of.
-/

namespace SqlTyping

/-- **A registry of well-formed types.** -/
def Registry.WellFormed (d : Dialect) (r : Registry) : Prop :=
  ∀ key t, r.find? key = some t → t.WellFormed d

theorem Registry.wellFormed_empty (d : Dialect) : Registry.empty.WellFormed d :=
  fun _ _ h => by cases h

theorem Registry.WellFormed.insert {d : Dialect} {r : Registry} (h : r.WellFormed d)
    {t : ResolvedType} (ht : t.WellFormed d) (key : String) :
    (r.insert key t).WellFormed d := by
  intro key' u hu
  rw [find?_insert] at hu
  split at hu
  · cases hu; exact ht
  · exact h key' u hu

namespace Environment

/-- **A session that registers types of its own making**: each is a
user-defined type, over a scalar type of the catalog or over a type that an
earlier step was answered with. -/
def Homemade (c : Catalog) (steps : List Step) : Prop :=
  ∀ (i : Nat) (m : QualifiedName) (u : ResolvedType), steps[i]? = some (.register m u) →
    ∃ n t, u = .defined n t
      ∧ ((∃ b f, c.scalar? b f = some t)
        ∨ ∃ j < i, ((ofCatalog c).answers steps)[j]? = some (.ok (some t)))

/-! ## One step -/

section Steps

variable {d : Dialect} {env : Environment}

/-- A name is bound to what the registry holds. -/
theorem exists_find?_of_lookup {n : QualifiedName} {t : ResolvedType}
    (h : env.lookup n = .ok t) : ∃ key, env.registry.find? key = some t := by
  cases hn : n.text? with
  | error m =>
    rw [lookup, hn] at h
    cases h
  | ok text =>
    rw [lookup_of_text? hn] at h
    cases hb : env.registry.find? (env.catalog.dialect.key text) with
    | none => rw [hb] at h; cases h
    | some u => rw [hb] at h; cases h; exact ⟨_, hb⟩

/-- A type that is all of an answer. -/
theorem eq_ok_of_map_some {x : Except Failure ResolvedType} {t : ResolvedType}
    (h : some <$> x = .ok (some t)) : x = .ok t := by
  cases x with
  | error e => cases h
  | ok u => cases h; rfl

/-- The scope of an environment with well-formed types. -/
theorem wellFormed_scope (hc : env.catalog = .ofDialect d) (hr : env.registry.WellFormed d) :
    env.scope.WellFormed d where
  scalar {n f t} h := by
    have h : env.catalog.scalar? n f = some t := h
    rw [hc] at h
    exact Dialect.wellFormed_of_scalar? h
  lookup {n t} h := by
    obtain ⟨key, hk⟩ := exists_find?_of_lookup h
    exact hr key t hk

/-- **What a step leaves behind is well-formed** when it registers nothing
else. -/
theorem wellFormed_registry_step (hr : env.registry.WellFormed d) {s : Step}
    (hs : ∀ m u, s = .register m u → u.WellFormed d) : (env.step s).1.registry.WellFormed d := by
  obtain ⟨he, -⟩ | ⟨m, u, key, rfl, -, he⟩ := step_cases env s
  · rwa [he]
  · rw [he]
    exact hr.insert (hs m u rfl) key

/-- **What a step is answered with is well-formed.** -/
theorem wellFormed_answer_step (hc : env.catalog = .ofDialect d)
    (hr : env.registry.WellFormed d) {s : Step} {t : ResolvedType}
    (h : (env.step s).2 = .ok (some t)) : t.WellFormed d := by
  have hscope := wellFormed_scope hc hr
  cases s with
  | register m u =>
    cases hk : env.catalog.dialect.key? m with
    | none =>
      obtain ⟨_, he⟩ := step_register_of_key?_eq_none hk u
      rw [he] at h
      cases h
    | some key =>
      rw [step_register_of_key? hk] at h
      exact hr key t (Except.ok.inj h)
  | lookup n => exact hscope.lookup (eq_ok_of_map_some h)
  | resolve u => exact u.wellFormed_resolve hscope t (eq_ok_of_map_some h)
  | offer u =>
    cases ho : u.inCatalog? env.catalog false with
    | error m => simp only [step, ho] at h; cases h
    | ok offered =>
      simp only [step, ho] at h
      cases h
      exact u.wellFormed_of_inCatalog? hscope ho

end Steps

/-! ## Whole sessions -/

section Sessions

variable {d : Dialect} {steps : List Step}

/-- A type of a session's own making is well-formed when the answers before
are. -/
theorem Homemade.wellFormed (h : Homemade (.ofDialect d) steps) {i : Nat} {m : QualifiedName}
    {u : ResolvedType} (hi : steps[i]? = some (.register m u))
    (hanswers : ∀ j < i, ∀ t,
      ((ofCatalog (.ofDialect d)).answers steps)[j]? = some (.ok (some t)) → t.WellFormed d) :
    u.WellFormed d := by
  obtain ⟨n, t, rfl, ⟨b, f, ht⟩ | ⟨j, hj, ht⟩⟩ := h i m u hi
  · exact (Dialect.wellFormed_of_scalar? ht).defined n
  · exact (hanswers j hj t ht).defined n

/-- **The invariant of a session**: after any number of steps the registry
and all answers so far are well-formed. -/
theorem Homemade.wellFormed_before (h : Homemade (.ofDialect d) steps) (i : Nat) :
    ((ofCatalog (.ofDialect d)).after (steps.take i)).registry.WellFormed d
      ∧ ∀ j < i, ∀ t,
        ((ofCatalog (.ofDialect d)).answers steps)[j]? = some (.ok (some t))
          → t.WellFormed d := by
  induction i with
  | zero => exact ⟨Registry.wellFormed_empty d, fun j hj => absurd hj (Nat.not_lt_zero j)⟩
  | succ i ih =>
    obtain ⟨hr, hanswers⟩ := ih
    have hc := catalog_after (ofCatalog (.ofDialect d)) (steps.take i)
    refine ⟨?_, fun j hj t ht => ?_⟩
    · rw [List.take_add_one]
      cases hs : steps[i]? with
      | none => simpa using hr
      | some s =>
        rw [after_append]
        refine wellFormed_registry_step hr fun m u hmu => ?_
        exact h.wellFormed (hmu ▸ hs) hanswers
    · obtain hj | rfl := Nat.lt_succ_iff_lt_or_eq.1 hj
      · exact hanswers j hj t ht
      · rw [getElem?_answers] at ht
        obtain ⟨s, -, ht⟩ := Option.map_eq_some_iff.1 ht
        exact wellFormed_answer_step hc hr ht

/-- **Sessions of their own making see well-formed types only.** For every
dialect and every session over its scalar types that starts without
user-defined types and registers none but of its own making, all types that
it registers, that are registered in the end, and that its steps are
answered with are well-formed. -/
theorem wellFormed_of_homemade (h : Homemade (.ofDialect d) steps) :
    (∀ m u, Step.register m u ∈ steps → u.WellFormed d)
    ∧ ((ofCatalog (.ofDialect d)).after steps).registry.WellFormed d
    ∧ ∀ t, (.ok (some t) : Answer) ∈ (ofCatalog (.ofDialect d)).answers steps
        → t.WellFormed d := by
  refine ⟨fun m u hu => ?_, ?_, fun t ht => ?_⟩
  · obtain ⟨i, hi⟩ := List.mem_iff_getElem?.1 hu
    exact h.wellFormed hi (h.wellFormed_before i).2
  · have hr := (h.wellFormed_before steps.length).1
    rwa [List.take_length] at hr
  · obtain ⟨j, hj⟩ := List.mem_iff_getElem?.1 ht
    exact (h.wellFormed_before (j + 1)).2 j (Nat.lt_succ_self j) t hj

end Sessions

/-! ## A default above its limit -/

/-- A dialect with a default precision above the greatest. -/
def tight : Dialect :=
  .adjusted { maxPrecision := [(.char, some 10)], defaultPrecision := [(.char, some 50)] }

/-- The arrays of `CHAR`, which has the greatest precision. -/
def charArray : ResolvedType :=
  .collectionOf .array ⟨.scalar .char ⟨some 10, none⟩, false⟩ unboundedSize

/-- The user-defined type `CODES` over the arrays of `CHAR`. -/
def codes : ResolvedType := .defined (.ofPath "CODES") charArray

/-- The user-defined type `LISTS` over `CODES`. -/
def lists : ResolvedType := .defined (.ofPath "LISTS") codes

/-- A session that makes `CODES` from a type it has resolved, and `LISTS`
from `CODES`, which it has looked up. -/
def listSession : List Step :=
  [.resolve (.ofKind .array (.ofBuiltIn .char)),
    .register (.ofPath "codes") codes,
    .lookup (.ofPath "Codes"),
    .register (.ofPath "lists") lists]

/-- The type `CODES` is looked up with the key it was registered under. -/
theorem answers_listSession :
    ((ofCatalog (.ofDialect tight)).answers listSession)[2]? = some (.ok (some codes)) := by
  have hkey : (Catalog.ofDialect tight).dialect.key? (.ofPath "codes") = some "CODES" := rfl
  have hkey' : (Catalog.ofDialect tight).dialect.key "Codes" = "CODES" := rfl
  have htext : (QualifiedName.ofPath "Codes").text? = .ok "Codes" := rfl
  rw [answer_lookup (.ofDialect tight) htext rfl, hkey']
  simp [listSession, lastBound, Step.binding?, hkey]

/-- The session makes its own types, and so those it looks up and those it
registers are well-formed. -/
theorem wellFormed_lists :
    Homemade (.ofDialect tight) listSession
      ∧ (.ok (some codes) : Answer) ∈ (ofCatalog (.ofDialect tight)).answers listSession
      ∧ codes.WellFormed tight
      ∧ lists.WellFormed tight := by
  have hmade : Homemade (.ofDialect tight) listSession := by
    rintro (_ | _ | _ | _ | i) m u hi
    · cases hi
    · cases hi
      exact ⟨_, charArray, rfl, .inr ⟨0, by decide, rfl⟩⟩
    · cases hi
    · cases hi
      exact ⟨_, codes, rfl, .inr ⟨2, by decide, answers_listSession⟩⟩
    · cases hi
  have hmem := List.mem_of_getElem? answers_listSession
  obtain ⟨hregistered, -, hanswers⟩ := wellFormed_of_homemade hmade
  refine ⟨hmade, hmem, hanswers codes hmem, hregistered (.ofPath "lists") lists ?_⟩
  simp [listSession]

end Environment

end SqlTyping
