import SqlTyping.Proofs.Environment.Bindings
import SqlTyping.Proofs.Name.LetterCase
import SqlTyping.Proofs.Resolution.Checkpoints

/-!
# Sessions without letter case

Where letter case does not count, the letter case of names makes no
difference to a session. Two sessions with the same caseless form leave
behind the same environment, since a name is registered under the key of its
caseless form. And in one environment a declared type resolves as its
caseless form does, to the same type or to the same rejection in the same
place, in which at most the letter case of the name is another
(`Environment.answers_by_caseless`).
-/

namespace SqlTyping

/-! ## Caseless forms -/

/-- **The declared type without letter case in its names.** -/
def DeclaredType.caseless (t : DeclaredType) : DeclaredType := t.renamed (·.caseless)

/-- **The step without letter case in its names.** -/
def Step.caseless : Step → Step
  | register n t => register n.caseless t
  | lookup n => lookup n.caseless
  | resolve t => resolve t.caseless
  | offer t => offer t.caseless

/-- **The cause without letter case.** -/
def Cause.caseless : Cause → Cause
  | unknownDatatype k => unknownDatatype (asKeyword k)
  | unknownType n => unknownType (asKeyword n)

/-- **The failure without letter case**, where it is. -/
def Failure.caseless : Failure → Failure
  | rejected r => rejected ⟨r.span, r.cause.caseless⟩
  | misused m => misused m

/-- **Failures that differ in letter case at most.** -/
def Failure.SameButCase (e f : Failure) : Prop := e.caseless = f.caseless

theorem Cause.caseless_eq_iff {c d : Cause} :
    c.caseless = d.caseless ↔ c.key = d.key ∧ sameKeyword c.name d.name = true := by
  cases c <;> cases d <;> simp [caseless, key, name, sameKeyword_iff_asKeyword]

/-- **Alike outcomes that are no misuse**: the same type, or rejections of
one kind and in one place. -/
theorem Alike.cases_of_sameButCase {x y : Except Failure ResolvedType}
    (h : Alike Failure.SameButCase Eq x y) (hx : ∀ m, x ≠ .error (.misused m)) :
    (∃ type, x = .ok type ∧ y = .ok type)
      ∨ ∃ r r', x = .error (.rejected r) ∧ y = .error (.rejected r')
        ∧ r.span = r'.span ∧ r.cause.key = r'.cause.key
        ∧ sameKeyword r.cause.name r'.cause.name = true := by
  match x, y with
  | .ok type, .ok type' =>
    obtain rfl : type = type' := h
    exact .inl ⟨type, rfl, rfl⟩
  | .error (.misused m), _ => exact absurd rfl (hx m)
  | .error (.rejected r), .error (.rejected r') =>
    have hspan := congrArg Rejection.span (Failure.rejected.inj h)
    have hcause := congrArg Rejection.cause (Failure.rejected.inj h)
    exact .inr ⟨r, r', rfl, rfl, hspan, Cause.caseless_eq_iff.1 hcause⟩
  | .error (.rejected r), .error (.misused m) => cases h

namespace Environment

/-! ## Sessions -/

section Sessions

variable {env : Environment} (hc : env.catalog.dialect.caseSensitive = false)
include hc

/-- **A name is registered under the key of its caseless form.** -/
theorem register_caseless (n : QualifiedName) (t : ResolvedType) :
    env.register n.caseless t = env.register n t := by
  have hcase := n.text?_caseless
  cases hn : n.text? with
  | error m =>
    rw [hn] at hcase
    rw [register, register, hcase, hn]
    rfl
  | ok text =>
    rw [hn] at hcase
    rw [register_of_text? hn, register_of_text? hcase, Dialect.key_asKeyword hc]

theorem step_register_of_caseless {m n : QualifiedName} (h : m.caseless = n.caseless)
    (t : ResolvedType) : env.step (.register m t) = env.step (.register n t) := by
  rw [step, step, ← register_caseless hc m, h, register_caseless hc n]

/-- **A step leaves behind what its caseless form does.** -/
theorem step_caseless (s : Step) : (env.step s.caseless).1 = (env.step s).1 := by
  cases s with
  | register n t => rw [Step.caseless, step, step, register_caseless hc]
  | lookup n => rfl
  | resolve t => rfl
  | offer t => rfl

/-- **A session leaves behind what its caseless form does.** -/
theorem after_caseless (steps : List Step) :
    env.after (steps.map (·.caseless)) = env.after steps := by
  induction steps generalizing env with
  | nil => rfl
  | cons s steps ih =>
    rw [List.map_cons, after_cons, after_cons, step_caseless hc]
    exact ih (by rwa [catalog_step])

theorem after_eq_of_caseless {p q : List Step}
    (h : p.map (·.caseless) = q.map (·.caseless)) : env.after p = env.after q := by
  rw [← after_caseless hc, h, after_caseless hc]

/-- A name is bound to what its caseless form is bound to. -/
theorem alike_lookup_caseless (n : QualifiedName) :
    Alike Failure.SameButCase Eq (env.lookup n) (env.lookup n.caseless) := by
  have hcase := n.text?_caseless
  cases hn : n.text? with
  | error m =>
    rw [hn] at hcase
    rw [lookup, lookup, hcase, hn]
    rfl
  | ok text =>
    rw [hn] at hcase
    rw [lookup_of_text? hn, lookup_of_text? hcase, Dialect.key_asKeyword hc, n.span_caseless]
    cases env.registry.find? (env.catalog.dialect.key text) with
    | some t => rfl
    | none =>
      show Failure.caseless _ = Failure.caseless _
      simp [Failure.caseless, Cause.caseless]

/-- **A declared type resolves as its caseless form does.** -/
theorem alike_resolve_caseless (t : DeclaredType) :
    Alike Failure.SameButCase Eq (env.resolve t) (env.resolve t.caseless) := by
  show Alike _ _ (t.resolve env.scope).result ((t.renamed _).resolve env.scope).result
  refine DeclaredType.resolve_renamed ?_ ResolvedType.congruence_eq ?_ fun n _ => ?_
  · exact fun _ => rfl
  · rfl
  · exact alike_lookup_caseless hc n

/-- Declared types with the same caseless form resolve alike. -/
theorem alike_resolve_of_caseless {t u : DeclaredType} (h : t.caseless = u.caseless) :
    Alike Failure.SameButCase Eq (env.resolve t) (env.resolve u) := by
  have ht := alike_resolve_caseless hc t
  rw [h] at ht
  exact ht.join (fun _ _ _ he hf => he.trans hf.symm) (fun _ _ _ ha hb => ha.trans hb.symm)
    (alike_resolve_caseless hc u)

/-- **Registrations without letter case are answered alike.** -/
theorem answer_register_of_caseless {p q : List Step}
    (h : p.map (·.caseless) = q.map (·.caseless)) {i : Nat} {n : QualifiedName}
    {t : ResolvedType} (hi : p[i]? = some (.register n t)) :
    (env.answers p)[i]? = (env.answers q)[i]? := by
  -- the other session registers a name with the same caseless form
  have hmap := congrArg (·[i]?) h
  simp only [List.getElem?_map, hi, Option.map_some] at hmap
  obtain ⟨s, hs, hcase⟩ := Option.map_eq_some_iff.1 hmap.symm
  have hbefore : env.after (p.take i) = env.after (q.take i) :=
    after_eq_of_caseless hc (by rw [List.map_take, List.map_take, h])
  cases s with
  | register m u =>
    obtain ⟨hname, rfl⟩ := Step.register.inj hcase
    have hcase : (env.after (q.take i)).catalog.dialect.caseSensitive = false := by
      rwa [catalog_after]
    rw [getElem?_answers, getElem?_answers, hi, hs, Option.map_some, Option.map_some, hbefore,
      step_register_of_caseless hcase hname]
  | lookup _ => cases hcase
  | resolve _ => cases hcase
  | offer _ => cases hcase

end Sessions

/-! ## Names that can be written -/

/-- Looking up a name that can be written is no misuse. -/
theorem lookup_ne_misused {n : QualifiedName} (h : n.isWritable = true) (env : Environment)
    (m : Misuse) : env.lookup n ≠ .error (.misused m) := by
  have hn : n.text? = .ok n.pieces.text := if_pos h
  rw [lookup_of_text? hn]
  cases env.registry.find? (env.catalog.dialect.key n.pieces.text) <;> simp

/-- **Resolving is no misuse when all names can be written.** -/
theorem resolve_ne_misused {t : DeclaredType} (h : ∀ n ∈ t.names, n.isWritable = true)
    (env : Environment) (m : Misuse) : env.resolve t ≠ .error (.misused m) := by
  -- a scope that turns all other names down is safe, and answers alike for these
  let s : Scope := ⟨env.catalog, fun n =>
    if n.isWritable then env.lookup n else .error (.rejected ⟨n.span, .unknownType ""⟩)⟩
  have hs : s.Safe := by
    intro n m
    by_cases hn : n.isWritable = true
    · rw [show s.lookup n = env.lookup n from if_pos hn]
      exact lookup_ne_misused hn env m
    · rw [show s.lookup n = _ from if_neg hn]
      simp
  have halike : Alike Eq Eq (t.resolve env.scope).result (t.resolve s).result := by
    have hcatalog : env.scope.catalog = s.catalog := rfl
    refine DeclaredType.resolve_congr ResolvedType.congruence_eq hcatalog fun n hn => ?_
    rw [show s.lookup n = env.scope.lookup n from if_pos (h n hn)]
    exact alike_eq_iff.2 rfl
  rw [resolve, alike_eq_iff.1 halike]
  exact t.safe_resolve hs m

/-- **Letter case does not matter where it does not count.** Two sessions
that start without user-defined types and differ only in the letter case of
names

* answer each registration by the same type, or by none in either;
* and after them, two declared types that differ only in the letter case of
  names stand for the same type, or are turned down for the same kind of
  cause in the same place, naming what differs in letter case at most. -/
theorem answers_by_caseless {c : Catalog} (hc : c.dialect.caseSensitive = false)
    {p q : List Step} (hpq : p.map (·.caseless) = q.map (·.caseless)) :
    (∀ (i : Nat) (n : QualifiedName) (t : ResolvedType),
      p[i]? = some (.register n t) → n.isWritable = true →
        ∃ old, ((ofCatalog c).answers p)[i]? = some (.ok old)
          ∧ ((ofCatalog c).answers q)[i]? = some (.ok old))
    ∧ ∀ t u : DeclaredType, t.caseless = u.caseless →
      (∀ n ∈ t.names, n.isWritable = true) →
        (∃ type, ((ofCatalog c).after p).resolve t = .ok type
          ∧ ((ofCatalog c).after q).resolve u = .ok type)
        ∨ ∃ r r', ((ofCatalog c).after p).resolve t = .error (.rejected r)
          ∧ ((ofCatalog c).after q).resolve u = .error (.rejected r')
          ∧ r.span = r'.span ∧ r.cause.key = r'.cause.key
          ∧ sameKeyword r.cause.name r'.cause.name = true := by
  have hstart : (ofCatalog c).catalog.dialect.caseSensitive = false := hc
  refine ⟨fun i n t hi hn => ?_, fun t u htu ht => ?_⟩
  · have hanswer := answer_register c (if_pos hn) hi
    refine ⟨_, hanswer, ?_⟩
    rw [← hanswer, answer_register_of_caseless hstart hpq hi]
  · have hcase : ((ofCatalog c).after q).catalog.dialect.caseSensitive = false := by
      rwa [catalog_after_ofCatalog]
    rw [after_eq_of_caseless hstart hpq]
    exact Alike.cases_of_sameButCase (alike_resolve_of_caseless hcase htu)
      (resolve_ne_misused ht _)

/-- The name `schema."name"`. -/
def quotedIn (schema name : String) : QualifiedName :=
  ⟨[.bare schema, ⟨name, some '\x22', .unknown⟩]⟩

/-- A session that binds one name to the `DOUBLE`s and then another to the
integers. -/
def bindsBoth (m n : QualifiedName) : List Step :=
  [.register m ⟨.scalar .double .none, false⟩, .register n ⟨.scalar .integer .none, false⟩]

/-- The declaration `ROW(i n ARRAY) MULTISET`. -/
def listsOf (n : QualifiedName) : DeclaredType :=
  .ofKind .multiset (.row [⟨.bare "i", .ofKind .array (.ofName n)⟩] .unknown)

theorem caseless_quotedIn {x x' y y' : String} (hx : sameKeyword x x' = true)
    (hy : sameKeyword y y' = true) : (quotedIn x y).caseless = (quotedIn x' y').caseless := by
  have hcase (u v : String) : (quotedIn u v).caseless = quotedIn (asKeyword u) (asKeyword v) := rfl
  rw [hcase, hcase, sameKeyword_iff_asKeyword.1 hx, sameKeyword_iff_asKeyword.1 hy]

theorem caseless_bindsBoth (m n : QualifiedName) :
    (bindsBoth m n).map (·.caseless) = bindsBoth m.caseless n.caseless := rfl

theorem caseless_listsOf (n : QualifiedName) : (listsOf n).caseless = listsOf n.caseless := by
  unfold listsOf Descriptor.ofName
  rw [n.span_caseless]
  rfl

/-- In whatever letter case `s."a\x22b"` is bound twice and used, the second
registration is answered alike, the declaration stands for the same type,
and with the name `s."c"` it is turned down alike. -/
theorem answers_quotedIn :
    let p := bindsBoth (quotedIn "s" "a\x22b") (quotedIn "S" "A\x22b")
    let q := bindsBoth (quotedIn "S" "a\x22B") (quotedIn "s" "A\x22B")
    (∃ old, ((ofCatalog .standard).answers p)[1]? = some (.ok old)
        ∧ ((ofCatalog .standard).answers q)[1]? = some (.ok old))
      ∧ (∃ type, ((ofCatalog .standard).after p).resolve (listsOf (quotedIn "s" "A\x22b"))
          = .ok type
        ∧ ((ofCatalog .standard).after q).resolve (listsOf (quotedIn "S" "a\x22b")) = .ok type)
      ∧ ∃ r r', ((ofCatalog .standard).after p).resolve (listsOf (quotedIn "s" "c"))
          = .error (.rejected r)
        ∧ ((ofCatalog .standard).after q).resolve (listsOf (quotedIn "s" "C"))
          = .error (.rejected r')
        ∧ r.span = r'.span ∧ r.cause.key = r'.cause.key
        ∧ sameKeyword r.cause.name r'.cause.name = true := by
  intro p q
  have hpq : p.map (·.caseless) = q.map (·.caseless) := by
    have hfirst : (quotedIn "s" "a\x22b").caseless = (quotedIn "S" "a\x22B").caseless :=
      caseless_quotedIn (by decide) (by decide)
    have hsecond : (quotedIn "S" "A\x22b").caseless = (quotedIn "s" "A\x22B").caseless :=
      caseless_quotedIn (by decide) (by decide)
    rw [caseless_bindsBoth, caseless_bindsBoth, hfirst, hsecond]
  have hbound : (listsOf (quotedIn "s" "A\x22b")).caseless
      = (listsOf (quotedIn "S" "a\x22b")).caseless := by
    rw [caseless_listsOf, caseless_listsOf]
    exact congrArg listsOf (caseless_quotedIn (by decide) (by decide))
  have hunbound : (listsOf (quotedIn "s" "c")).caseless
      = (listsOf (quotedIn "s" "C")).caseless := by
    rw [caseless_listsOf, caseless_listsOf]
    exact congrArg listsOf (caseless_quotedIn (by decide) (by decide))
  have hfound : (((ofCatalog .standard).after p).resolve
      (listsOf (quotedIn "s" "A\x22b"))).toOption.isSome = true := by decide +kernel
  have hmissing : (((ofCatalog .standard).after p).resolve
      (listsOf (quotedIn "s" "c"))).toOption.isSome = false := by decide +kernel
  obtain ⟨hregister, hresolve⟩ := answers_by_caseless (c := .standard) rfl hpq
  refine ⟨hregister 1 _ _ rfl rfl, ?_, ?_⟩
  · refine (hresolve _ _ hbound (by decide)).resolve_right ?_
    rintro ⟨r, r', hr, -⟩
    rw [hr] at hfound
    cases hfound
  · refine (hresolve _ _ hunbound (by decide)).resolve_left ?_
    rintro ⟨type, htype, -⟩
    rw [htype] at hmissing
    cases hmissing

end Environment

end SqlTyping
