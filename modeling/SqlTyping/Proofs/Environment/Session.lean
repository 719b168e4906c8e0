import SqlTyping.Environment

/-!
# Sessions

An environment is used step by step: names are registered and looked up,
and declared types are resolved, against the whole environment or the
catalog alone. A **session** is a list of such steps, taken one after the
other, and each step has its answer.

All that a session leaves behind are the bindings of names. Under each key
there is the type that was last registered under it, and what the
environment held before if none was (`Environment.find?_after`).
-/

namespace SqlTyping

/-- **A step of a session.** -/
inductive Step where
  /-- Binding a name to a type. -/
  | register (name : QualifiedName) (type : ResolvedType)
  /-- Asking for the type of a name. -/
  | lookup (name : QualifiedName)
  /-- Asking for the type that a declared type stands for. -/
  | resolve (type : DeclaredType)
  /-- Asking for the built-in type that is declared. -/
  | offer (type : DeclaredType)

/-- Whether a step registers a name. All other steps ask for something. -/
def Step.isRegistration : Step → Bool
  | register .. => true
  | lookup _ => false
  | resolve _ => false
  | offer _ => false

/-- **The answer to a step**: a failure, or a type. There may be none to
give, when a name was not bound before or a built-in type is not on
offer. -/
abbrev Answer := Except Failure (Option ResolvedType)

namespace Environment

/-- **What a step leaves behind, and its answer.** A registration is
answered by the type that the name was bound to. -/
def step (env : Environment) : Step → Environment × Answer
  | .register n t =>
    match env.register n t with
    | .ok (env', old) => (env', .ok old)
    | .error m => (env, .error (.misused m))
  | .lookup n => (env, some <$> env.lookup n)
  | .resolve t => (env, some <$> env.resolve t)
  | .offer t => (env, (t.inCatalog? env.catalog false).mapError .misused)

/-- **What a session leaves behind.** -/
def after (env : Environment) (steps : List Step) : Environment :=
  steps.foldl (fun env s => (env.step s).1) env

/-- **The answers of a session**, one for each step. -/
def answers (env : Environment) : List Step → List Answer
  | [] => []
  | s :: steps => (env.step s).2 :: (env.step s).1.answers steps

/-! ## Taking steps one after the other -/

section Sessions

variable (env : Environment) (p q steps : List Step)

@[simp] theorem after_nil : env.after [] = env := rfl

@[simp] theorem after_cons (s : Step) :
    env.after (s :: steps) = (env.step s).1.after steps := rfl

theorem after_append : env.after (p ++ q) = (env.after p).after q := List.foldl_append

/-- The answers of a session go on from what its first part leaves
behind. -/
theorem answers_append :
    env.answers (p ++ q) = env.answers p ++ (env.after p).answers q := by
  induction p generalizing env with
  | nil => rfl
  | cons s p ih =>
    show (env.step s).2 :: (env.step s).1.answers (p ++ q) = _
    rw [ih]
    rfl

@[simp] theorem length_answers : (env.answers steps).length = steps.length := by
  induction steps generalizing env with
  | nil => rfl
  | cons s steps ih => exact congrArg (· + 1) (ih _)

/-- **An answer is given in view of the steps before it.** -/
theorem getElem?_answers (i : Nat) :
    (env.answers steps)[i]?
      = steps[i]?.map fun s => ((env.after (steps.take i)).step s).2 := by
  induction steps generalizing env i with
  | nil => rfl
  | cons s steps ih =>
    cases i with
    | zero => rfl
    | succ i => exact ih _ i

end Sessions

end Environment

/-! ## The bindings of a session -/

/-- **The key of a name**, if it can be written. -/
def Dialect.key? (d : Dialect) (n : QualifiedName) : Option String :=
  n.text?.toOption.map d.key

theorem Dialect.key?_of_text? {n : QualifiedName} {text : String} (h : n.text? = .ok text)
    (d : Dialect) : d.key? n = some (d.key text) := by
  rw [key?, h]
  rfl

/-- The type that a step binds the names with a key to, if it does. -/
def Step.binding? (d : Dialect) (key : String) : Step → Option ResolvedType
  | register n t => if d.key? n = some key then some t else none
  | lookup _ => none
  | resolve _ => none
  | offer _ => none

/-- **The type last registered under a key** in a session. -/
def lastBound (d : Dialect) (steps : List Step) (key : String) : Option ResolvedType :=
  steps.reverse.findSome? (·.binding? d key)

/-- The first step counts when no later one does. -/
theorem lastBound_cons (d : Dialect) (s : Step) (steps : List Step) (key : String) :
    lastBound d (s :: steps) key = (lastBound d steps key).or (s.binding? d key) := by
  simp only [lastBound, List.reverse_cons, List.findSome?_append, List.findSome?_cons,
    List.findSome?_nil]
  cases s.binding? d key <;> rfl

namespace Environment

variable {env : Environment} {n : QualifiedName}

/-- Registering a name goes by its text. -/
theorem register_of_text? {n : QualifiedName} {text : String} (h : n.text? = .ok text)
    (env : Environment) (t : ResolvedType) :
    env.register n t = .ok
      ({ env with registry := env.registry.insert (env.catalog.dialect.key text) t },
        env.registry.find? (env.catalog.dialect.key text)) := by
  rw [register, h]
  rfl

/-- Registering a name that has a key. -/
theorem step_register_of_key? {key : String} (h : env.catalog.dialect.key? n = some key)
    (t : ResolvedType) :
    env.step (.register n t)
      = ({ env with registry := env.registry.insert key t },
        .ok (env.registry.find? key)) := by
  unfold Dialect.key? at h
  cases hn : n.text? with
  | error m => rw [hn] at h; cases h
  | ok text =>
    rw [hn] at h
    cases h
    rw [step, register_of_text? hn]

/-- A name without a key cannot be registered. -/
theorem step_register_of_key?_eq_none (h : env.catalog.dialect.key? n = none)
    (t : ResolvedType) : ∃ m, env.step (.register n t) = (env, .error (.misused m)) := by
  unfold Dialect.key? at h
  cases hn : n.text? with
  | error m =>
    refine ⟨m, ?_⟩
    simp only [step, register, hn]
    rfl
  | ok text => rw [hn] at h; cases h

/-- **What a step can do**: leave everything as it was and bind nothing, or
register a type under the key of a name, and answer by the type before. -/
theorem step_cases (env : Environment) (s : Step) :
    ((env.step s).1 = env ∧ ∀ key, s.binding? env.catalog.dialect key = none)
    ∨ ∃ n t key, s = .register n t ∧ env.catalog.dialect.key? n = some key
      ∧ env.step s = ({ env with registry := env.registry.insert key t },
        .ok (env.registry.find? key)) := by
  cases s with
  | register n t =>
    cases h : env.catalog.dialect.key? n with
    | none =>
      obtain ⟨m, hm⟩ := step_register_of_key?_eq_none h t
      refine .inl ⟨congrArg Prod.fst hm, fun key => ?_⟩
      rw [Step.binding?, h]
      rfl
    | some key => exact .inr ⟨n, t, key, rfl, h, step_register_of_key? h t⟩
  | lookup n => exact .inl ⟨rfl, fun _ => rfl⟩
  | resolve t => exact .inl ⟨rfl, fun _ => rfl⟩
  | offer t => exact .inl ⟨rfl, fun _ => rfl⟩

/-- **Asking leaves nothing behind.** -/
theorem step_of_not_isRegistration {s : Step} (h : s.isRegistration = false)
    (env : Environment) : (env.step s).1 = env := by
  obtain ⟨hs, -⟩ | ⟨n, t, key, rfl, -, -⟩ := step_cases env s
  · exact hs
  · cases h

/-- No step changes the built-in types. -/
theorem catalog_step (env : Environment) (s : Step) :
    (env.step s).1.catalog = env.catalog := by
  obtain ⟨hs, -⟩ | ⟨n, t, key, -, -, hs⟩ := step_cases env s <;> rw [hs]

theorem catalog_after (env : Environment) (steps : List Step) :
    (env.after steps).catalog = env.catalog := by
  induction steps generalizing env with
  | nil => rfl
  | cons s steps ih => rw [after_cons, ih, catalog_step]

/-- A step binds what it registers and leaves the other bindings alone. -/
theorem find?_step (env : Environment) (s : Step) (key : String) :
    (env.step s).1.registry.find? key
      = (s.binding? env.catalog.dialect key).or (env.registry.find? key) := by
  obtain ⟨hs, hb⟩ | ⟨n, t, key', rfl, hk, hs⟩ := step_cases env s
  · rw [hs, hb]
    rfl
  · rw [hs, Step.binding?, hk, Registry.find?_insert]
    by_cases h : key = key'
    · simp [h]
    · simp [h, Ne.symm h]

/-- **A session leaves behind the type last registered** under each key,
and else what was there before. -/
theorem find?_after (env : Environment) (steps : List Step) (key : String) :
    (env.after steps).registry.find? key
      = (lastBound env.catalog.dialect steps key).or (env.registry.find? key) := by
  induction steps generalizing env with
  | nil => rfl
  | cons s steps ih =>
    rw [after_cons, ih, catalog_step, find?_step, lastBound_cons, Option.or_assoc]

/-! ## Answers

Steps that only ask leave everything as it was, so they change no later
answer. A session over a catalog starts without user-defined types, and
its answers to registrations and look-ups are what was last registered. -/

/-- Steps that only ask leave everything as it was. -/
theorem after_of_forall_not_isRegistration {asked : List Step}
    (h : ∀ s ∈ asked, s.isRegistration = false) (env : Environment) :
    env.after asked = env := by
  induction asked with
  | nil => rfl
  | cons s asked ih =>
    obtain ⟨hs, h⟩ := List.forall_mem_cons.1 h
    rw [after_cons, step_of_not_isRegistration hs, ih h]

/-- **What was only asked changes no later answer.** -/
theorem drop_answers_append {asked : List Step} (h : ∀ s ∈ asked, s.isRegistration = false)
    (env : Environment) (before later : List Step) :
    (env.answers (before ++ asked ++ later)).drop (before.length + asked.length)
      = (env.answers (before ++ later)).drop before.length := by
  have hl : (env.answers before).length = before.length := length_answers env before
  have hl' : (env.answers (before ++ asked)).length = before.length + asked.length := by
    rw [length_answers, List.length_append]
  rw [answers_append env (before ++ asked), answers_append env before later,
    List.drop_left' hl, List.drop_left' hl', after_append,
    after_of_forall_not_isRegistration h]

/-- Looking up a name goes by its text. -/
theorem lookup_of_text? {n : QualifiedName} {text : String} (h : n.text? = .ok text)
    (env : Environment) :
    env.lookup n = match env.registry.find? (env.catalog.dialect.key text) with
      | some t => .ok t
      | none => .error (.rejected ⟨n.span, .unknownType text⟩) := by
  cases hb : env.registry.find? (env.catalog.dialect.key text) <;> simp only [lookup, h, hb]

section OfCatalog

variable (c : Catalog)

/-- A session over a catalog leaves behind what was last registered. -/
theorem find?_after_ofCatalog (steps : List Step) (key : String) :
    ((ofCatalog c).after steps).registry.find? key = lastBound c.dialect steps key := by
  rw [find?_after]
  exact Option.or_none

theorem catalog_after_ofCatalog (steps : List Step) :
    ((ofCatalog c).after steps).catalog = c := catalog_after _ steps

/-- A registration is answered by what was last registered before it. -/
theorem answer_register {steps : List Step} {i : Nat} {n : QualifiedName} {text : String}
    {t : ResolvedType} (hn : n.text? = .ok text) (h : steps[i]? = some (.register n t)) :
    ((ofCatalog c).answers steps)[i]?
      = some (.ok (lastBound c.dialect (steps.take i) (c.dialect.key text))) := by
  have hk := Dialect.key?_of_text? hn ((ofCatalog c).after (steps.take i)).catalog.dialect
  rw [getElem?_answers, h, Option.map_some, step_register_of_key? hk, find?_after_ofCatalog,
    catalog_after_ofCatalog]

/-- Looking up a name gives what was last registered, or turns it down. -/
theorem answer_lookup {steps : List Step} {i : Nat} {n : QualifiedName} {text : String}
    (hn : n.text? = .ok text) (h : steps[i]? = some (.lookup n)) :
    ((ofCatalog c).answers steps)[i]? = some
      (match lastBound c.dialect (steps.take i) (c.dialect.key text) with
      | some t => .ok (some t)
      | none => .error (.rejected ⟨n.span, .unknownType text⟩)) := by
  rw [getElem?_answers, h, Option.map_some, step, lookup_of_text? hn, find?_after_ofCatalog,
    catalog_after_ofCatalog]
  cases lastBound c.dialect (steps.take i) (c.dialect.key text) <;> rfl

end OfCatalog

end Environment

end SqlTyping
