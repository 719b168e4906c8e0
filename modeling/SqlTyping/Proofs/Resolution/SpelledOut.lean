import SqlTyping.Proofs.Resolution.Requests
import SqlTyping.Resolution.FromCatalog

/-!
# Facets spelled out

The facets of a built-in name need not be those of its type: the dialect fills
in what is not given and cuts down what is too great. A declared type can be
**spelled out**, so that every built-in name in it is given the facets that
its type has in a catalog (`DeclaredType.spelledOut`).

Spelling out changes nothing, as long as the catalog makes the same type of the
facets that it has made (`Catalog.KeepsFacets`). A dialect does, if it has
defaults only for facets that the type in question takes; otherwise a default
that was filled in is a facet that may not be given
(`DeclaredType.inCatalog?_spelledOut`).
-/

namespace SqlTyping

/-! ## Facets -/

namespace Facets

/-- Cutting down a value does not take it away. -/
theorem isSome_cap (value limit : Option UInt64) : (cap value limit).isSome = value.isSome := by
  match value, limit with
  | .none, _ => rfl
  | some _, .none => rfl
  | some v, some m => by_cases h : m < v <;> simp [cap, h]

/-- **What was filled in and cut down is kept** when that is done again. -/
theorem cap_orElse_cap (value default limit : Option UInt64) :
    cap (cap (value <|> default) limit <|> default) limit = cap (value <|> default) limit := by
  cases h : cap (value <|> default) limit with
  | some v => exact (congrArg (cap · limit) h.symm).trans ((cap_cap _ limit).trans h)
  | none =>
    -- without a value there was no default either
    have hnone : (value <|> default) = .none := by
      rw [← Option.isNone_iff_eq_none, ← Option.not_isSome, ← isSome_cap _ limit, h]
      rfl
    have hdefault : default = .none := by
      cases value with
      | none => exact hnone
      | some v => cases hnone
    rw [hdefault]
    rfl

/-- So are both facets. -/
theorem capped_orElse_capped (given defaults limits : Facets) :
    (((given.orElse defaults).capped limits).orElse defaults).capped limits
      = (given.orElse defaults).capped limits := by
  rw [capped, capped, orElse, orElse, cap_orElse_cap, cap_orElse_cap]

end Facets

/-! ## Dialects -/

/-- **A dialect with defaults only for what is taken**: where a type has a
default for a facet, it takes that facet. -/
structure Dialect.DefaultsTaken (d : Dialect) : Prop where
  /-- A default precision is that of a type that takes one. -/
  precision : ∀ n, (d.defaultPrecision n).isSome = true → n.takesPrecision = true
  /-- A default scale is that of a type that takes one. -/
  scale : ∀ n, (d.defaultScale n).isSome = true → n.takesScale = true

/-- **A catalog that keeps facets**: given the facets of one of its types, a
name stands for that type again. -/
def Catalog.KeepsFacets (c : Catalog) : Prop :=
  ∀ (n : BuiltIn) (f : Facets) (t : ResolvedType),
    c.scalar? n f = some t → c.scalar? n t.facets = some t

/-- The facets of a type are taken if those that are given are. -/
theorem Dialect.DefaultsTaken.admits {d : Dialect} (hd : d.DefaultsTaken) {n : BuiltIn}
    {f : Facets} (h : n.admits f = true) :
    n.admits ((f.orElse (d.defaults n)).capped (d.limits n)) = true := by
  have taken {value default limit : Option UInt64} {takes : Bool}
      (hvalue : (value.isNone || takes) = true) (hdefault : default.isSome = true → takes = true) :
      ((Facets.cap (value <|> default) limit).isNone || takes) = true := by
    cases takes with
    | true => exact Bool.or_true _
    | false =>
      rw [Bool.or_false, Option.isNone_iff_eq_none] at hvalue
      cases default with
      | none => rw [hvalue]; rfl
      | some v => cases hdefault rfl
  rw [BuiltIn.admits, Bool.and_eq_true] at h
  rw [BuiltIn.admits, Bool.and_eq_true]
  exact ⟨taken h.1 (hd.precision n), taken h.2 (hd.scale n)⟩

/-- **A dialect keeps facets** when its defaults are taken, whatever its
defaults and limits are. -/
theorem Dialect.DefaultsTaken.keepsFacets {d : Dialect} (hd : d.DefaultsTaken) :
    (Catalog.ofDialect d).KeepsFacets := by
  intro n f t h
  have h : d.scalar? n f = some t := h
  show d.scalar? n t.facets = some t
  unfold Dialect.scalar? at h
  split at h
  case isFalse => cases h
  case isTrue hn =>
    cases h
    rw [Bool.and_eq_true] at hn
    show d.scalar? n ((f.orElse (d.defaults n)).capped (d.limits n)) = _
    rw [Dialect.scalar?, hn.1, hd.admits hn.2, Facets.capped_orElse_capped]
    rfl

/-! ## Declared types -/

/-- **The facets that a built-in name has in a catalog**: those of its type,
and those that are given where there is no type. -/
def Catalog.facets (c : Catalog) (n : BuiltIn) (f : Facets) : Facets :=
  match c.scalar? n f with
  | some t => t.facets
  | none => f

mutual

/-- The descriptor with the facets of every type in it. -/
def Descriptor.spelledOut (c : Catalog) : Descriptor → Descriptor
  | .builtIn n f s => .builtIn n (c.facets n f) s
  | .collection e k s => .collection (e.spelledOut c) k s
  | .row fs s => .row (DeclaredField.spelledOut c fs) s
  | .named n s => .named n s

/-- **The declared type with the facets of every type in it**, and in its
base too. -/
def DeclaredType.spelledOut (c : Catalog) : DeclaredType → DeclaredType
  | ⟨k, d, b, z, n, s⟩ => ⟨k, d.spelledOut c, b.spelledOut c, z, n, s⟩

/-- The fields of a row with the facets of every type in them. -/
def DeclaredField.spelledOut (c : Catalog) : List DeclaredField → List DeclaredField
  | [] => []
  | ⟨x, t⟩ :: fs => ⟨x, t.spelledOut c⟩ :: DeclaredField.spelledOut c fs

end

section SpellingOut

variable {c : Catalog}

/-- With its facets spelled out, a name stands for the same type. -/
theorem Catalog.KeepsFacets.scalar?_facets (hc : c.KeepsFacets) (n : BuiltIn) (f : Facets) :
    c.scalar? n (c.facets n f) = c.scalar? n f := by
  unfold facets
  cases h : c.scalar? n f with
  | none => exact h
  | some t => exact hc n f t h

mutual

/-- A catalog makes the same of a descriptor spelled out. -/
theorem Descriptor.inCatalog_spelledOut (hc : c.KeepsFacets) :
    ∀ d : Descriptor, (d.spelledOut c).inCatalog c = d.inCatalog c
  | .builtIn n f _ => by
    rw [Descriptor.spelledOut, Descriptor.inCatalog, Descriptor.inCatalog, hc.scalar?_facets]
  | .collection e _ _ => by
    rw [Descriptor.spelledOut, Descriptor.inCatalog, Descriptor.inCatalog,
      e.inCatalog_spelledOut hc]
  | .row fs _ => by
    rw [Descriptor.spelledOut, Descriptor.inCatalog, Descriptor.inCatalog,
      DeclaredField.inCatalog_spelledOut hc fs]
  | .named _ _ => rfl

/-- **A catalog makes the same of a declared type spelled out.** -/
theorem DeclaredType.inCatalog_spelledOut (hc : c.KeepsFacets) (context : Bool) :
    ∀ t : DeclaredType, (t.spelledOut c).inCatalog c context = t.inCatalog c context
  | ⟨k, d, b, z, n, s⟩ => by
    rw [DeclaredType.spelledOut, DeclaredType.inCatalog, DeclaredType.inCatalog,
      d.inCatalog_spelledOut hc]

theorem DeclaredField.inCatalog_spelledOut (hc : c.KeepsFacets) : ∀ fs : List DeclaredField,
    DeclaredField.inCatalog c (DeclaredField.spelledOut c fs) = DeclaredField.inCatalog c fs
  | [] => rfl
  | ⟨_, t⟩ :: fs => by
    rw [DeclaredField.spelledOut, DeclaredField.inCatalog, DeclaredField.inCatalog,
      t.inCatalog_spelledOut hc, DeclaredField.inCatalog_spelledOut hc fs]

end

end SpellingOut

/-- A leaf with the facets of its type. -/
def Leaf.spelledOut (c : Catalog) : Leaf → Leaf
  | builtIn n f s => builtIn n (c.facets n f) s
  | named n => named n

section Leaves

variable (c : Catalog)

mutual

theorem Descriptor.leaves_spelledOut :
    ∀ d : Descriptor, (d.spelledOut c).leaves = d.leaves.map (·.spelledOut c)
  | .builtIn _ _ _ => rfl
  | .collection e _ _ => e.leaves_spelledOut
  | .row fs _ => DeclaredField.leaves_spelledOut fs
  | .named _ _ => rfl

/-- **The leaves of a declared type spelled out** are its leaves with the
facets of their types. -/
theorem DeclaredType.leaves_spelledOut :
    ∀ t : DeclaredType, (t.spelledOut c).leaves = t.leaves.map (·.spelledOut c)
  | ⟨_, d, _, _, _, _⟩ => d.leaves_spelledOut

theorem DeclaredField.leaves_spelledOut : ∀ fs : List DeclaredField,
    DeclaredField.leaves (DeclaredField.spelledOut c fs)
      = (DeclaredField.leaves fs).map (·.spelledOut c)
  | [] => rfl
  | ⟨_, t⟩ :: fs => by
    rw [DeclaredField.spelledOut, DeclaredField.leaves, DeclaredField.leaves, List.map_append,
      t.leaves_spelledOut, DeclaredField.leaves_spelledOut fs]

end

end Leaves

/-- **Spelling out facets changes nothing.** A dialect that has defaults only
for facets that are taken, with whatever limits, makes of a declared type
spelled out what it makes of the type itself. Every built-in name in it then
has the facets of its type. -/
theorem DeclaredType.inCatalog?_spelledOut {d : Dialect} (hd : d.DefaultsTaken)
    (t : DeclaredType) :
    (∀ context : Bool, (t.spelledOut (.ofDialect d)).inCatalog? (.ofDialect d) context
        = t.inCatalog? (.ofDialect d) context)
      ∧ ∀ (n : BuiltIn) (f : Facets) (s : Span) (type : ResolvedType),
        Leaf.builtIn n f s ∈ (t.spelledOut (.ofDialect d)).leaves →
          d.scalar? n f = some type → type.facets = f := by
  have hc : (Catalog.ofDialect d).KeepsFacets := hd.keepsFacets
  refine ⟨fun context => ?_, fun n f s type hmem htype => ?_⟩
  · rw [inCatalog?, inCatalog?, inCatalog_spelledOut hc]
  · have htype : (Catalog.ofDialect d).scalar? n f = some type := htype
    rw [leaves_spelledOut, List.mem_map] at hmem
    obtain ⟨l, -, hl⟩ := hmem
    cases l with
    | named m => cases hl
    | builtIn m g s' =>
      cases hl
      rw [hc.scalar?_facets] at htype
      rw [Catalog.facets, htype]

/-- A dialect that has defaults above its limits: for the precision of
`VARCHAR`, and for the scale of `DECIMAL`. -/
def Dialect.narrow : Dialect where
  maxPrecision
    | .varchar => some 10
    | .decimal => some 20
    | _ => none
  maxScale
    | .decimal => some 4
    | _ => none
  defaultPrecision
    | .varchar => some 100
    | _ => none
  defaultScale
    | .decimal => some 9
    | _ => none

/-- The declaration `ROW(a VARCHAR, b DECIMAL(30) ARRAY NULL) MULTISET`. -/
def DeclaredType.rowMultiset : DeclaredType :=
  let a := plain (.ofBuiltIn .varchar) .unknown
  let b := collectionOf (.bare "ARRAY") (.builtIn .decimal ⟨some 30, none⟩ .unknown) .unknown
  let fields := [⟨.bare "a", a⟩, ⟨.bare "b", b.withNullability .nullable⟩]
  collectionOf (.bare "MULTISET") (.row fields .unknown) .unknown

/-- It resolves to a multiset of rows of `VARCHAR(10)` and `DECIMAL(20, 4)`,
and so it does with these facets spelled out. -/
theorem DeclaredType.inCatalog?_spelledOut_narrow :
    let c := Catalog.ofDialect .narrow
    let a : ResolvedType := ⟨.scalar .varchar ⟨some 10, none⟩, false⟩
    let b : ResolvedType := ⟨.scalar .decimal ⟨some 20, some 4⟩, false⟩
    let row := ResolvedType.rowOf [⟨"a", a⟩, ⟨"b", ⟨.collection .array b (-1), true⟩⟩]
    Dialect.narrow.DefaultsTaken
      ∧ (rowMultiset.spelledOut c).leaves
        = [.builtIn .varchar ⟨some 10, none⟩ .unknown,
          .builtIn .decimal ⟨some 20, some 4⟩ .unknown]
      ∧ (rowMultiset.spelledOut c).inCatalog? c true
        = .ok (some ⟨.collection .multiset row (-1), true⟩) := by
  have hd : Dialect.narrow.DefaultsTaken := by
    constructor <;> intro n <;> cases n <;> decide
  exact ⟨hd, rfl, ((inCatalog?_spelledOut hd rowMultiset).1 true).trans rfl⟩

/-- A default that is not taken is a facet that may not be given: with a
default precision for it, `INTEGER` resolves, but not when it is spelled out. -/
example :
    let d : Dialect := { defaultPrecision := fun _ => some 1 }
    let t := DeclaredType.plain (.ofBuiltIn .integer) .unknown
    (t.inCatalog? (.ofDialect d) false).toOption.join.isSome = true
      ∧ (t.spelledOut (.ofDialect d)).inCatalog? (.ofDialect d) false = .ok none := ⟨rfl, rfl⟩

end SqlTyping
