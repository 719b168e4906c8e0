import SqlTyping.Proofs.Resolution.Checkpoints

/-!
# What resolving asks for

Looking up a name may be costly or have effects, so it matters what a scope
is asked for, how often and in which order. That cannot be read off the way
a declared type is resolved: fields of rows are tried in the catalog again
and again, and every one of them is checked for stray keywords anew.

The requests are those of the one pass, though. They go through the
**leaves** of the declared type, the built-in and user-defined names in it
from left to right, whatever rows and collections these are in. Each name
of a user-defined type is looked up once where it stands, and the pass ends
right after the first leaf without a type
(`DeclaredType.requests_resolve`).
-/

namespace SqlTyping

/-- **A name at the bottom of a declared type.** -/
inductive Leaf where
  /-- A built-in name with its facets, at a place. -/
  | builtIn (name : BuiltIn) (facets : Facets) (span : Span)
  /-- The name of a user-defined type. -/
  | named (name : QualifiedName)

namespace Leaf

/-- The name to look up, if the leaf is that of a user-defined type. -/
def name? : Leaf → Option QualifiedName
  | builtIn _ _ _ => none
  | named n => some n

/-- **Why a leaf has no type**, if it has none: the catalog does not offer
it, or the scope has nothing under its name. -/
def failure? (s : Scope) : Leaf → Option Failure
  | builtIn n f span =>
    match s.catalog.scalar? n f with
    | some _ => none
    | none => some (.rejected ⟨span, .unknownType (n.text f)⟩)
  | named n => SqlTyping.failure? (s.lookup n)

/-- Whether a leaf has a type. -/
def isFound (s : Scope) (l : Leaf) : Bool := (l.failure? s).isNone

/-- **What is asked for at a leaf without a type**: to turn down a built-in
name, and the type of any other. -/
def lastRequest : Leaf → Request
  | builtIn n f _ => .rejection (.unknownType (n.text f))
  | named n => .lookup n

end Leaf

mutual

/-- The leaves of a descriptor. -/
def Descriptor.leaves : Descriptor → List Leaf
  | .builtIn n f s => [.builtIn n f s]
  | .collection e _ _ => e.leaves
  | .row fs _ => DeclaredField.leaves fs
  | .named n _ => [.named n]

/-- **The leaves of a declared type**, from left to right. -/
def DeclaredType.leaves : DeclaredType → List Leaf
  | ⟨_, d, _, _, _, _⟩ => d.leaves

/-- The leaves of the fields of a row. -/
def DeclaredField.leaves : List DeclaredField → List Leaf
  | [] => []
  | ⟨_, t⟩ :: fs => t.leaves ++ DeclaredField.leaves fs

end

/-! ## Inquiries without their answers -/

namespace Inquiry

variable {α β : Type}

/-- **An inquiry without its answer**: what it asks for, and whether it
fails. -/
def outline (x : Inquiry α) : Inquiry Unit := do
  let _ ← x
  return ()

theorem requests_outline (x : Inquiry α) : x.outline.requests = x.requests := by
  obtain ⟨q, r⟩ := x
  cases r with
  | ok a => exact List.append_nil q
  | error e => rfl

theorem failure?_outline (x : Inquiry α) : failure? x.outline.result = failure? x.result := by
  unfold outline
  rw [result_bind]
  exact failure?_bind_pure _ _

/-- What is made of the answer does not show. -/
theorem outline_bind_pure (x : Inquiry α) (f : α → β) :
    outline (do let a ← x; return f a) = x.outline := by
  unfold outline
  rw [bind_assoc]
  simp only [pure_bind]

/-- **Ways on that look the same**, whatever the answer, do so behind the
inquiry too. -/
theorem outline_bind (x : Inquiry α) {f : α → Inquiry β} {y : Inquiry Unit}
    (h : ∀ a, (f a).outline = y) : (x >>= f).outline = (x.outline >>= fun _ => y) := by
  have hy : (fun a => (f a).outline) = fun _ => y := funext h
  show ((x >>= f) >>= fun _ => pure ()) = ((x >>= fun _ => pure ()) >>= fun _ => y)
  rw [bind_assoc, bind_assoc]
  simp only [pure_bind]
  exact congrArg (x >>= ·) hy

end Inquiry

/-! ## From leaf to leaf -/

namespace Leaf

/-- **Asking for the type of a leaf**, whatever it is. -/
def ask (s : Scope) : Leaf → Inquiry Unit
  | builtIn n f span =>
    match s.catalog.scalar? n f with
    | some _ => pure ()
    | none => .reject span (.unknownType (n.text f))
  | named n => (Inquiry.lookup s n).outline

variable {s : Scope} {l : Leaf}

/-- At a leaf that has a type, its name is looked up if it is to be. -/
theorem ask_of_failure?_eq_none (h : l.failure? s = none) :
    l.ask s = ⟨(l.name?.map .lookup).toList, .ok ()⟩ := by
  cases l with
  | builtIn n f span =>
    rw [failure?] at h
    rw [ask]
    cases hn : s.catalog.scalar? n f with
    | some t => rfl
    | none => rw [hn] at h; cases h
  | named n =>
    obtain ⟨t, ht⟩ := failure?_eq_none_iff.1 h
    show Inquiry.outline ⟨[.lookup n], s.lookup n⟩ = _
    rw [ht]
    rfl

/-- At a leaf without one, there is the last request and the failure. -/
theorem ask_of_failure?_eq_some {e : Failure} (h : l.failure? s = some e) :
    l.ask s = ⟨[l.lastRequest], .error e⟩ := by
  cases l with
  | builtIn n f span =>
    rw [failure?] at h
    rw [ask]
    cases hn : s.catalog.scalar? n f with
    | some t => rw [hn] at h; cases h
    | none => rw [hn] at h; cases h; rfl
  | named n =>
    have hn := failure?_eq_some_iff.1 h
    show Inquiry.outline ⟨[.lookup n], s.lookup n⟩ = _
    rw [hn]
    rfl

end Leaf

section Asking

variable (s : Scope)

mutual

/-- **The pass over a descriptor asks from leaf to leaf.** -/
theorem Descriptor.outline_onePass :
    ∀ d : Descriptor, (d.onePass s).outline = forM d.leaves (Leaf.ask s)
  | .builtIn n f span => by
    rw [Descriptor.onePass, Descriptor.leaves]
    show _ = (do Leaf.ask s (.builtIn n f span); pure ())
    rw [Leaf.ask]
    cases s.catalog.scalar? n f <;> rfl
  | .collection e k _ => (Inquiry.outline_bind_pure _ _).trans (e.outline_onePass)
  | .row fs _ => (Inquiry.outline_bind_pure _ _).trans (DeclaredField.outline_onePass fs)
  | .named n _ => (bind_pure (Inquiry.lookup s n).outline).symm

/-- The pass over a field's type does. -/
theorem DeclaredType.outline_onePass :
    ∀ t : DeclaredType, (t.onePass s).outline = forM t.leaves (Leaf.ask s)
  | ⟨_, d, _, _, _, _⟩ => (Inquiry.outline_bind_pure _ _).trans (d.outline_onePass)

/-- The pass over the fields of a row does, from left to right. -/
theorem DeclaredField.outline_onePass :
    ∀ fs : List DeclaredField,
      (DeclaredField.onePass s fs).outline = forM (DeclaredField.leaves fs) (Leaf.ask s)
  | [] => rfl
  | ⟨_, t⟩ :: fs => by
    rw [DeclaredField.leaves, List.forM_append, ← t.outline_onePass]
    refine Inquiry.outline_bind _ fun type => ?_
    rw [Inquiry.outline_bind_pure]
    exact DeclaredField.outline_onePass fs

end

end Asking

/-- **Asking from leaf to leaf** looks up the names up to the first leaf
without a type, and ends with the request made there. -/
theorem Leaf.requests_forM_ask (s : Scope) (ls : List Leaf) :
    (forM ls (Leaf.ask s)).requests
      = ((ls.takeWhile (·.isFound s)).filterMap Leaf.name?).map .lookup
        ++ ((ls.find? (!·.isFound s)).map Leaf.lastRequest).toList := by
  induction ls with
  | nil => rfl
  | cons l ls ih =>
    show (Leaf.ask s l >>= fun _ => forM ls (Leaf.ask s)).requests = _
    cases h : l.failure? s with
    | none =>
      have hl : l.isFound s = true := by rw [isFound, h]; rfl
      rw [ask_of_failure?_eq_none h, Inquiry.requests_bind_of_ok rfl, ih]
      rw [List.takeWhile_cons_of_pos hl, List.find?_cons_of_neg (by simp [hl])]
      cases l <;> rfl
    | some e =>
      have hl : l.isFound s = false := by rw [isFound, h]; rfl
      rw [ask_of_failure?_eq_some h, Inquiry.requests_bind_of_error rfl]
      simp [hl]

/-- It fails where the first leaf without a type does. -/
theorem Leaf.failure?_forM_ask (s : Scope) (ls : List Leaf) :
    SqlTyping.failure? (forM ls (Leaf.ask s)).result = ls.findSome? (·.failure? s) := by
  induction ls with
  | nil => rfl
  | cons l ls ih =>
    show SqlTyping.failure? (Leaf.ask s l >>= fun _ => forM ls (Leaf.ask s)).result = _
    rw [Inquiry.result_bind, List.findSome?_cons]
    cases h : l.failure? s with
    | none => rw [ask_of_failure?_eq_none h]; exact ih
    | some e => rw [ask_of_failure?_eq_some h]; rfl

/-- **What resolving asks for, and in which order.** With a stray keyword,
resolving looks up no name: all it asks for is to turn down the first of
the parts that has one, where that part stands. Otherwise it looks up each
name of a user-defined type, from left to right, up to the first leaf
without a type. If this is a name, it is the last that is looked up; if it
is a built-in name, the one other request is to turn it down where it
stands. With a type for every leaf, resolving ends with an answer. -/
theorem DeclaredType.requests_resolve (s : Scope) (t : DeclaredType) :
    match t.parts.find? (·.hasStrayKeyword) with
    | some u =>
      (t.resolve s).requests = [.rejection (.unknownDatatype u.keywordText)]
        ∧ failure? (t.resolve s).result
          = some (.rejected ⟨u.span, .unknownDatatype u.keywordText⟩)
    | none =>
      (t.resolve s).requests
          = ((t.leaves.takeWhile (·.isFound s)).filterMap Leaf.name?).map .lookup
            ++ ((t.leaves.find? (!·.isFound s)).map Leaf.lastRequest).toList
        ∧ failure? (t.resolve s).result = t.leaves.findSome? (·.failure? s) := by
  rw [t.resolve_eq s, t.unknownKeyword?_eq]
  cases t.parts.find? (·.hasStrayKeyword) with
  | some u => exact ⟨rfl, rfl⟩
  | none =>
    have hl : t.leaves = t.descriptor.leaves := by cases t; rfl
    -- the answer is finished without asking, so the pass over the descriptor is all there is
    have ho : Inquiry.outline (do let named ← t.descriptor.onePass s; return t.finished named)
        = forM t.leaves (Leaf.ask s) := by
      rw [Inquiry.outline_bind_pure, t.descriptor.outline_onePass s, hl]
    dsimp only
    rw [← Inquiry.requests_outline, ← Inquiry.failure?_outline]
    constructor
    · exact (congrArg Inquiry.requests ho).trans (Leaf.requests_forM_ask s _)
    · exact (congrArg (fun x => failure? x.result) ho).trans (Leaf.failure?_forM_ask s _)

/-- The names before a built-in one with facets it does not take are looked
up, and those behind it are not. -/
example :
    ((DeclaredType.plain (.row [⟨.bare "i", .ofName (.ofPath "MYUDT")⟩,
        ⟨.bare "n", .plain (.builtIn .integer ⟨some 5, none⟩ .unknown) .unknown⟩,
        ⟨.bare "j", .ofName (.ofPath "OTHER")⟩] .unknown) .unknown).resolve
          Scope.integers).requests
      = [.lookup (.ofPath "MYUDT"), .rejection (.unknownType "INTEGER(5)")] := rfl

end SqlTyping
