import SqlTyping.Resolution.Declared
import SqlTyping.Text.Uppercase

/-!
# Environments

An **environment** is a catalog of built-in types and a registry of
user-defined ones, and so a scope. A name is registered and found by its
**key**, which is its text, in capitals unless the dialect tells letter
cases apart. Names with the same key are one name here: `s.t` and the
single identifier `s.t` written without quotes, but not `t` and `"t"`.

Registering a name again replaces its type (`Registry.find?_insert`).
-/

namespace SqlTyping

/-- **The types of user-defined names**, by key, latest first. -/
structure Registry where
  /-- What was registered. -/
  entries : List (String × ResolvedType)

namespace Registry

/-- The registry without any names. -/
def empty : Registry := ⟨[]⟩

/-- **The type last registered under a key.** -/
def find? (r : Registry) (key : String) : Option ResolvedType := r.entries.lookup key

/-- **The registry with a type under a key**, in place of any that was. -/
def insert (r : Registry) (key : String) (t : ResolvedType) : Registry :=
  ⟨(key, t) :: r.entries⟩

/-- Nothing is found in the empty registry. -/
@[simp] theorem find?_empty (key : String) : empty.find? key = none := rfl

/-- **The last registration counts**, and counts for its key alone. -/
theorem find?_insert (r : Registry) (key key' : String) (t : ResolvedType) :
    (r.insert key t).find? key' = if key' = key then some t else r.find? key' := by
  by_cases h : key' = key
  · simp [find?, insert, h]
  · have h' : (key' == key) = false := by simpa using h
    simp [find?, insert, List.lookup_cons, h, h']

end Registry

/-- **The key of a name's text**: the text, in capitals unless the dialect
tells letter cases apart. -/
def Dialect.key (d : Dialect) (text : String) : String :=
  if d.caseSensitive then text else inCapitals text

/-- **Built-in and user-defined types together.** -/
structure Environment where
  /-- The built-in types. -/
  catalog : Catalog
  /-- The user-defined types. -/
  registry : Registry

namespace Environment

/-- A catalog's environment, without user-defined types. -/
def ofCatalog (c : Catalog) : Environment := ⟨c, .empty⟩

/-- The standard environment, without user-defined types. -/
def standard : Environment := ofCatalog .standard

/-- **The environment with a name bound to a type**, and the type the name
was bound to before. A name that cannot be written has no key. -/
def register (env : Environment) (n : QualifiedName) (t : ResolvedType) :
    Except Misuse (Environment × Option ResolvedType) := do
  let key := env.catalog.dialect.key (← n.text?)
  return ({ env with registry := env.registry.insert key t },
    env.registry.find? key)

/-- **The type a name is bound to.** A name without a type is rejected
where it stands. -/
def lookup (env : Environment) (n : QualifiedName) :
    Except Failure ResolvedType :=
  match n.text? with
  | .error m => .error (.misused m)
  | .ok text =>
    match env.registry.find? (env.catalog.dialect.key text) with
    | some t => .ok t
    | none => .error (.rejected ⟨n.span, .unknownType text⟩)

/-- The scope of the environment's names. -/
def scope (env : Environment) : Scope := ⟨env.catalog, env.lookup⟩

/-- **The type a declared type stands for.** -/
def resolve (env : Environment) (t : DeclaredType) :
    Except Failure ResolvedType :=
  (t.resolve env.scope).result

/-- **The environment with a distinct type** over a built-in scalar type
without facets; the name of the distinct type is one bare identifier. -/
def withDistinct (env : Environment) (name : String) (n : BuiltIn) :
    Except Misuse Environment := do
  match env.catalog.scalar? n .none with
  | none => .error (.notScalar n.spelling)
  | some t =>
    let id : QualifiedName := .ofIdentifier (.bare name)
    let (env, _) ← env.register id (.defined id t)
    return env

/-- **The standard environment with distinct types**, registered in
order. -/
def ofDistinct (types : List (String × BuiltIn)) : Except Misuse Environment :=
  types.foldlM (fun env entry => env.withDistinct entry.1 entry.2) standard

end Environment

end SqlTyping
