import SqlTyping.Proofs.Resolution.OnePass

/-!
# Where resolving stops

A catalog goes through a declared type in the order in which its parts are
built, and stops at the first that it cannot build. `checkpoints` lists the
parts at which it can stop: built-in names, names of user-defined types,
and collection keywords, each keyword after the descriptor before it. What
the catalog answers is settled by the first checkpoint that stops it
(`DeclaredType.failure?_inCatalog`).

A keyword that makes no collection is misuse when it is the catalog that is
asked. A scope looks at every keyword beforehand and turns the type down,
so that resolving is misuse only where looking up a name is
(`DeclaredType.safe_resolve`).
-/

namespace SqlTyping

/-- **A part of a declared type at which a catalog can stop.** -/
inductive Checkpoint where
  /-- A built-in name with its facets. -/
  | builtIn (name : BuiltIn) (facets : Facets)
  /-- The name of a user-defined type. -/
  | named (name : QualifiedName)
  /-- A collection keyword. -/
  | keyword (text : String)

namespace Checkpoint

/-- **Whether a catalog stops here.** -/
def stops (c : Catalog) : Checkpoint → Bool
  | builtIn n f => (c.scalar? n f).isNone
  | named _ => true
  | keyword k => (Collection.ofKeyword? k).isNone

/-- How a catalog that stops here falls short. -/
def shortfall : Checkpoint → Shortfall
  | builtIn _ _ => .notOffered
  | named _ => .notOffered
  | keyword k => .unknownKeyword k

end Checkpoint

mutual

/-- The checkpoints of a descriptor. -/
def Descriptor.checkpoints : Descriptor → List Checkpoint
  | .builtIn n f _ => [.builtIn n f]
  | .collection e _ _ => e.checkpoints
  | .row fs _ => DeclaredField.checkpoints fs
  | .named n _ => [.named n]

/-- **The checkpoints of a declared type**: those of its descriptor, then
its keyword. -/
def DeclaredType.checkpoints : DeclaredType → List Checkpoint
  | ⟨k, d, _, _, _, _⟩ => d.checkpoints ++ (k.map fun k => .keyword k.value).toList

/-- The checkpoints of the fields of a row, from left to right. -/
def DeclaredField.checkpoints : List DeclaredField → List Checkpoint
  | [] => []
  | ⟨_, t⟩ :: fs => t.checkpoints ++ DeclaredField.checkpoints fs

end

/-- **Where a catalog stops first** on the way through checkpoints. -/
def firstStop? (c : Catalog) (ps : List Checkpoint) : Option Checkpoint :=
  ps.find? (·.stops c)

/-- On the way through two lists, the first is gone through first. -/
theorem firstStop?_append (c : Catalog) (ps qs : List Checkpoint) :
    firstStop? c (ps ++ qs) = (firstStop? c ps).or (firstStop? c qs) :=
  List.find?_append

section Failures

variable {ε α β : Type}

/-- Why there is no answer, if there is none. -/
def failure? : Except ε α → Option ε
  | .ok _ => none
  | .error e => some e

/-- Of two steps the first to fail is the failure. -/
theorem failure?_bind {x : Except ε α} {f : α → Except ε β} {r : Option ε}
    (h : ∀ a, failure? (f a) = r) : failure? (x >>= f) = (failure? x).or r := by
  cases x with
  | ok a => exact h a
  | error e => rfl

/-- A step that cannot fail adds no failure. -/
theorem failure?_bind_pure (x : Except ε α) (f : α → β) :
    failure? (do let a ← x; return f a) = failure? x := by
  cases x <;> rfl

theorem failure?_eq_none_iff {x : Except ε α} :
    failure? x = none ↔ ∃ a, x = .ok a := by
  cases x <;> simp [failure?]

theorem failure?_eq_some_iff {x : Except ε α} {e : ε} :
    failure? x = some e ↔ x = .error e := by
  cases x <;> simp [failure?]

end Failures

section Stopping

variable (c : Catalog)

/-- A keyword falls short when a catalog stops at it. -/
theorem failure?_collectBy (k : Option Identifier) (t : ResolvedType) :
    failure? (collectBy k t)
      = (firstStop? c (k.map fun k => .keyword k.value).toList).map Checkpoint.shortfall := by
  cases k with
  | none => rfl
  | some k =>
    rw [collectBy]
    cases h : Collection.ofKeyword? k.value <;>
      simp [firstStop?, Checkpoint.stops, Checkpoint.shortfall, failure?, h]

mutual

/-- A catalog falls short of a descriptor where it stops first. -/
theorem Descriptor.failure?_inCatalog : ∀ d : Descriptor,
    failure? (d.inCatalog c) = (firstStop? c d.checkpoints).map Checkpoint.shortfall
  | .builtIn n f _ => by
    rw [Descriptor.inCatalog]
    cases h : c.scalar? n f <;>
      simp [Descriptor.checkpoints, firstStop?, Checkpoint.stops, Checkpoint.shortfall,
        failure?, h]
  | .collection e _ _ => (failure?_bind_pure _ _).trans e.failure?_inCatalog
  | .row fs _ => (failure?_bind_pure _ _).trans (DeclaredField.failure?_inCatalog fs)
  | .named _ _ => rfl

/-- **A catalog falls short of a declared type where it stops first.** -/
theorem DeclaredType.failure?_inCatalog : ∀ (t : DeclaredType) (context : Bool),
    failure? (t.inCatalog c context)
      = (firstStop? c t.checkpoints).map Checkpoint.shortfall
  | ⟨k, d, b, z, n, s⟩, context => by
    rw [DeclaredType.inCatalog, DeclaredType.checkpoints, firstStop?_append, Option.map_or,
      ← d.failure?_inCatalog]
    -- the keyword comes after the descriptor, and nullability is no stop
    refine failure?_bind fun named => ?_
    rw [failure?_bind_pure]
    exact failure?_collectBy c k named

theorem DeclaredField.failure?_inCatalog : ∀ fs : List DeclaredField,
    failure? (DeclaredField.inCatalog c fs)
      = (firstStop? c (DeclaredField.checkpoints fs)).map Checkpoint.shortfall
  | [] => rfl
  | ⟨_, t⟩ :: fs => by
    rw [DeclaredField.inCatalog, DeclaredField.checkpoints, firstStop?_append, Option.map_or,
      ← t.failure?_inCatalog false]
    refine failure?_bind fun type => ?_
    rw [failure?_bind_pure]
    exact DeclaredField.failure?_inCatalog fs

end

end Stopping

/-! ## Misuse -/

/-- **An inquiry that is no misuse**, whatever comes of it. -/
def Inquiry.Safe {α : Type} (x : Inquiry α) : Prop :=
  ∀ m, x.result ≠ .error (.misused m)

namespace Inquiry.Safe

variable {α β : Type}

theorem pure (a : α) : Safe (Pure.pure a) := fun _ h => by cases h

theorem reject (span : Span) (cause : Cause) : Safe (reject span cause : Inquiry α) :=
  fun _ h => by cases h

/-- One inquiry after another is misuse only if one of the two is. -/
theorem bind {x : Inquiry α} {f : α → Inquiry β} (h : Safe x) (hf : ∀ a, Safe (f a)) :
    Safe (x >>= f) := by
  intro m hm
  rw [result_bind] at hm
  cases hx : x.result with
  | ok a => rw [hx] at hm; exact hf a m hm
  | error e =>
    rw [hx] at hm
    cases hm
    exact h m hx

end Inquiry.Safe

/-- **A scope in which looking up a name is never misuse.** -/
def Scope.Safe (s : Scope) : Prop := ∀ n m, s.lookup n ≠ .error (.misused m)

section Safety

variable {s : Scope}

mutual

/-- The pass over a descriptor is no misuse in a safe scope. -/
theorem Descriptor.safe_onePass (h : s.Safe) : ∀ d : Descriptor, (d.onePass s).Safe
  | .builtIn n f span => by
    rw [Descriptor.onePass]
    cases s.catalog.scalar? n f with
    | none => exact .reject span _
    | some t => exact .pure t
  | .collection e k _ => by
    refine (e.safe_onePass h).bind fun element => ?_
    exact .pure _
  | .row fs _ => by
    refine (DeclaredField.safe_onePass h fs).bind fun fields => ?_
    exact .pure _
  | .named n _ => h n

/-- The pass over a field's type is no misuse in a safe scope. -/
theorem DeclaredType.safe_onePass (h : s.Safe) : ∀ t : DeclaredType, (t.onePass s).Safe
  | ⟨_, d, _, _, _, _⟩ => by
    refine (d.safe_onePass h).bind fun named => ?_
    exact .pure _

theorem DeclaredField.safe_onePass (h : s.Safe) :
    ∀ fs : List DeclaredField, (DeclaredField.onePass s fs).Safe
  | [] => .pure []
  | ⟨_, t⟩ :: fs => by
    refine (t.safe_onePass h).bind fun type => ?_
    refine (DeclaredField.safe_onePass h fs).bind fun rest => ?_
    exact .pure _

end

/-- **Resolving is no misuse in a safe scope**, however deep a stray
keyword is. -/
theorem DeclaredType.safe_resolve (h : s.Safe) (t : DeclaredType) :
    (t.resolve s).Safe := by
  rw [t.resolve_eq s]
  cases t.unknownKeyword? with
  | some u => exact .reject u.2 _
  | none =>
    refine (t.descriptor.safe_onePass h).bind fun named => ?_
    exact .pure _

end Safety

/-- **A catalog answers by its first stop, and a scope is never misused.**
A catalog is misused exactly when it stops first at a keyword, has nothing
exactly when it stops first at a name, and has a type exactly when it does
not stop. Resolving in a safe scope is never misuse. -/
theorem DeclaredType.answers_by_firstStop? :
    (∀ (c : Catalog) (context : Bool) (t : DeclaredType),
      (∀ m, t.inCatalog? c context = .error m
        ↔ ∃ k, firstStop? c t.checkpoints = some (.keyword k)
          ∧ m = .unknownCollection k)
      ∧ (t.inCatalog? c context = .ok none
        ↔ (∃ n, firstStop? c t.checkpoints = some (.named n))
          ∨ ∃ n f, firstStop? c t.checkpoints = some (.builtIn n f))
      ∧ ((∃ type, t.inCatalog? c context = .ok (some type))
        ↔ firstStop? c t.checkpoints = none))
    ∧ ∀ s : Scope, s.Safe → ∀ (t : DeclaredType) (m : Misuse),
      (t.resolve s).result ≠ .error (.misused m) := by
  refine ⟨fun c context t => ?_, fun s h t => t.safe_resolve h⟩
  have hf := t.failure?_inCatalog c context
  unfold inCatalog?
  cases hp : firstStop? c t.checkpoints with
  | none =>
    rw [hp] at hf
    obtain ⟨type, ht⟩ := failure?_eq_none_iff.1 hf
    simp [ht, Shortfall.tolerate]
  | some p =>
    rw [hp] at hf
    have ht := failure?_eq_some_iff.1 hf
    cases p with
    | builtIn n f => simp [ht, Shortfall.tolerate, Checkpoint.shortfall]
    | named n => simp [ht, Shortfall.tolerate, Checkpoint.shortfall]
    | keyword k => simp [ht, Shortfall.tolerate, Checkpoint.shortfall, eq_comm]

/-- The field `l INTEGER LIST`, whose keyword is stray. -/
def listField : DeclaredField :=
  ⟨.bare "l", .collectionOf (.bare "LIST") (.ofBuiltIn .integer) .unknown⟩

/-- The field `i MYUDT`. -/
def nameField : DeclaredField := ⟨.bare "i", .ofName (.ofPath "MYUDT")⟩

/-- A stray keyword before a name is misuse of a catalog, one behind a name
is not, and neither is misuse of a scope. -/
theorem DeclaredType.answers_listField_nameField :
    (plain (.row [listField, nameField] .unknown) .unknown).inCatalog? .standard false
        = .error (.unknownCollection "LIST")
      ∧ (plain (.row [nameField, listField] .unknown) .unknown).inCatalog? .standard false
        = .ok none
      ∧ Scope.integers.Safe
      ∧ ∀ m, ((plain (.row [nameField, listField] .unknown) .unknown).resolve
          Scope.integers).result ≠ .error (.misused m) := by
  have hs : Scope.integers.Safe := fun n m h => by cases h
  refine ⟨?_, ?_, hs, answers_by_firstStop?.2 Scope.integers hs _⟩
  · exact ((answers_by_firstStop?.1 _ _ _).1 _).2 ⟨"LIST", rfl, rfl⟩
  · exact (answers_by_firstStop?.1 _ _ _).2.1.2 (.inl ⟨.ofPath "MYUDT", rfl⟩)

end SqlTyping
