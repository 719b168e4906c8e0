import SqlTyping.Proofs.Environment.Session
import SqlTyping.Proofs.Resolution.Names

/-!
# Answers depend on bindings alone

A session that starts without user-defined types answers by what was last
registered, and by nothing else. Registering a name gives the type last
registered under its key, and so does looking it up. What was only asked
changes no later answer. And what a declared type stands for depends on
the last registrations under the keys of its own names, whatever the order,
the number and the names of the others
(`Environment.answers_by_bindings`).
-/

namespace SqlTyping

namespace Environment

/-- **Related bindings of one name are looked up alike**: in two
environments over one catalog, a name is bound to related types, or to
none in either and then turned down in the same way. -/
theorem alike_lookup {R : ResolvedType → ResolvedType → Prop} {env env' : Environment}
    (hc : env.catalog = env'.catalog) {n : QualifiedName}
    (h : ∀ key, env.catalog.dialect.key? n = some key →
      Option.Rel R (env.registry.find? key) (env'.registry.find? key)) :
    Alike Eq R (env.lookup n) (env'.lookup n) := by
  cases hn : n.text? with
  | error m =>
    rw [lookup, lookup, hn]
    rfl
  | ok text =>
    have hr := h _ (Dialect.key?_of_text? hn _)
    rw [lookup_of_text? hn, lookup_of_text? hn, ← hc]
    generalize env.registry.find? (env.catalog.dialect.key text) = bound at hr ⊢
    generalize env'.registry.find? (env.catalog.dialect.key text) = bound' at hr ⊢
    cases hr with
    | some hr => exact hr
    | none => rfl

/-! ## Sessions over a catalog -/

section Sessions

variable (c : Catalog)

/-- **Sessions with related bindings resolve alike.** -/
theorem resolve_after_congr {R : ResolvedType → ResolvedType → Prop}
    (hR : ResolvedType.Congruence R) {t : DeclaredType} {p q : List Step}
    (h : ∀ n ∈ t.names, ∀ key, c.dialect.key? n = some key →
      Option.Rel R (lastBound c.dialect p key) (lastBound c.dialect q key)) :
    Alike Eq R (((ofCatalog c).after p).resolve t) (((ofCatalog c).after q).resolve t) := by
  have hc : ((ofCatalog c).after p).catalog = ((ofCatalog c).after q).catalog := by
    rw [catalog_after_ofCatalog, catalog_after_ofCatalog]
  refine DeclaredType.resolve_congr hR hc fun n hn => alike_lookup hc fun key hk => ?_
  rw [catalog_after_ofCatalog] at hk
  rw [find?_after_ofCatalog, find?_after_ofCatalog]
  exact h n hn key hk

end Sessions

/-- **A session answers by the last registrations.** Whatever the catalog,
in a session that starts without user-defined types

* registering a name gives the type last registered under its key before,
  if any, and looking it up gives the same or turns the name down;
* steps that only ask, whether answered or not, change no later answer;
* two sessions after which the names in a declared type are bound to the
  same types, or not at all in either, resolve it to the same type or turn
  it down in the same way and place; and if the bindings are only `==`, so
  is the outcome. -/
theorem answers_by_bindings (c : Catalog) :
    (∀ (steps : List Step) (i : Nat) (n : QualifiedName) (text : String), n.text? = .ok text →
      (∀ t, steps[i]? = some (.register n t) →
        ((ofCatalog c).answers steps)[i]?
          = some (.ok (lastBound c.dialect (steps.take i) (c.dialect.key text))))
      ∧ (steps[i]? = some (.lookup n) →
        ((ofCatalog c).answers steps)[i]? = some
          (match lastBound c.dialect (steps.take i) (c.dialect.key text) with
          | some t => .ok (some t)
          | none => .error (.rejected ⟨n.span, .unknownType text⟩))))
    ∧ (∀ before asked later : List Step, (∀ s ∈ asked, s.isRegistration = false) →
      ((ofCatalog c).answers (before ++ asked ++ later)).drop (before.length + asked.length)
        = ((ofCatalog c).answers (before ++ later)).drop before.length)
    ∧ ∀ (t : DeclaredType) (p q : List Step),
      ((∀ n ∈ t.names, ∀ key, c.dialect.key? n = some key →
          lastBound c.dialect p key = lastBound c.dialect q key) →
        ((ofCatalog c).after p).resolve t = ((ofCatalog c).after q).resolve t)
      ∧ ((∀ n ∈ t.names, ∀ key, c.dialect.key? n = some key →
          Option.Rel (· == ·) (lastBound c.dialect p key) (lastBound c.dialect q key)) →
        Alike Eq (· == ·) (((ofCatalog c).after p).resolve t)
          (((ofCatalog c).after q).resolve t)) := by
  refine ⟨fun steps i n text hn => ⟨?_, ?_⟩, fun before asked later h => ?_,
    fun t p q => ⟨?_, ?_⟩⟩
  · exact fun t h => answer_register c hn h
  · exact fun h => answer_lookup c hn h
  · exact drop_answers_append h (ofCatalog c) before later
  · intro h
    refine alike_eq_iff.1 (resolve_after_congr c ResolvedType.congruence_eq fun n hn key hk => ?_)
    rw [h n hn key hk]
    cases lastBound c.dialect q key with
    | none => exact .none
    | some t => exact .some rfl
  · exact resolve_after_congr c ResolvedType.congruence_beq

/-- Binding a name to a distinct type over a scalar type. The name of the
distinct type stands at a place. -/
def binding (name : String) (n : BuiltIn) (span : Span) : Step :=
  .register (.ofPath name)
    (.defined (.ofIdentifier (.bareAt span "T")) ⟨.scalar n .none, false⟩)

/-- A session that binds `MYUDT` twice, in between resolves a type with that
name, and in the end looks it up. -/
def rebinding : List Step :=
  [binding "other" .date .unknown, binding "MYUDT" .double .unknown] ++ [.resolve .rowArray]
    ++ [binding "MyUdt" .integer .unknown, .lookup (.ofPath "myudt")]

/-- Binding `MYUDT` a second time gives the type of the first, whatever was
resolved in between, and looking it up gives that of the second. Then
`ROW(i MYUDT ARRAY NULL) ARRAY NULL` stands for the type it stands for when
`myudt` is bound like that once, and nothing else is bound; with the name
of the distinct type in another place, it is the type up to `==`. -/
theorem resolve_rowArray_rebinding :
    (∃ double, ((ofCatalog .standard).answers rebinding)[3]? = some (.ok (some double))
      ∧ double.builtIn = .double)
    ∧ (∃ integer, ((ofCatalog .standard).answers rebinding)[4]? = some (.ok (some integer))
      ∧ integer.builtIn = .integer)
    ∧ ((ofCatalog .standard).answers rebinding).drop 3
      = ((ofCatalog .standard).answers [binding "other" .date .unknown,
          binding "MYUDT" .double .unknown, binding "MyUdt" .integer .unknown,
          .lookup (.ofPath "myudt")]).drop 2
    ∧ (((ofCatalog .standard).after rebinding).resolve .rowArray).toOption.isSome = true
    ∧ ((ofCatalog .standard).after rebinding).resolve .rowArray
      = ((ofCatalog .standard).after [binding "myudt" .integer .unknown]).resolve .rowArray
    ∧ Alike Eq (· == ·) (((ofCatalog .standard).after rebinding).resolve .rowArray)
        (((ofCatalog .standard).after [binding "myudt" .integer ⟨⟨1, 1⟩, ⟨1, 1⟩⟩]).resolve
          .rowArray) := by
  obtain ⟨hbound, hasked, hresolved⟩ := answers_by_bindings .standard
  -- the last registration of either session is for the key of the one name
  have hlower : Catalog.standard.dialect.key? (.ofPath "myudt") = some "MYUDT" := rfl
  have hmixed : Catalog.standard.dialect.key? (.ofPath "MyUdt") = some "MYUDT" := rfl
  have hkey : ∀ n ∈ DeclaredType.rowArray.names, ∀ key,
      Catalog.standard.dialect.key? n = some key → key = "MYUDT" := by
    intro n hn key hk
    cases List.mem_singleton.1 hn
    exact Option.some.inj (hk.symm.trans rfl)
  have hrel : ∀ n ∈ DeclaredType.rowArray.names, ∀ key,
      Catalog.standard.dialect.key? n = some key →
        Option.Rel (· == ·) (lastBound Catalog.standard.dialect rebinding key)
          (lastBound Catalog.standard.dialect [binding "myudt" .integer ⟨⟨1, 1⟩, ⟨1, 1⟩⟩] key) := by
    intro n hn key hk
    rw [hkey n hn key hk, lastBound, lastBound, rebinding, List.reverse_append]
    simp only [binding, Step.binding?, hlower, hmixed, List.reverse_cons, List.reverse_nil,
      List.nil_append, List.cons_append, List.findSome?_cons, if_true]
    exact .some rfl
  refine ⟨⟨_, (hbound rebinding 3 (.ofPath "MyUdt") "MyUdt" rfl).1 _ rfl, rfl⟩,
    ⟨_, (hbound rebinding 4 (.ofPath "myudt") "myudt" rfl).2 rfl, rfl⟩, ?_,
    by decide +kernel, ?_, ?_⟩
  · refine hasked [_, _] [_] [_, _] fun s hs => ?_
    rw [List.mem_singleton.1 hs]
    rfl
  · refine (hresolved .rowArray rebinding _).1 fun n hn key hk => ?_
    rw [hkey n hn key hk, lastBound, lastBound, rebinding, List.reverse_append]
    simp [binding, Step.binding?, hlower, hmixed]
  · have h := hresolved .rowArray rebinding [binding "myudt" .integer ⟨⟨1, 1⟩, ⟨1, 1⟩⟩]
    -- nothing here needs either outcome evaluated
    generalize ((ofCatalog .standard).after rebinding).resolve .rowArray = outcome at h ⊢
    generalize ((ofCatalog .standard).after [binding _ _ _]).resolve .rowArray = outcome' at h ⊢
    exact h.2 hrel

end Environment

end SqlTyping
