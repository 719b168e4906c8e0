import SqlTyping.Proofs.Resolution.Elements
import SqlTyping.Proofs.Text.Seam

/-!
# Scales that do not show

A scale is written behind a precision only. So the text of a built-in type
tells its name, its precision and, if it has a precision, its scale as well
(`BuiltIn.text_eq_iff`). A scale without a precision does not show, and it may
still count: `DECIMAL` takes it, and every other type is turned down for it.

One text thereby stands for more than one declaration, and for more than one
answer exactly when the scales that do not show make a difference
(`BuiltIn.answers_by_text`). They make none where a dialect cuts them down to
the same.
-/

namespace SqlTyping

/-! ## What a text tells -/

namespace Facets

/-- **The facets that show.** -/
def shown (f : Facets) : Facets := if f.precision.isSome then f else none

theorem areShown_shown (f : Facets) : f.shown.areShown = true := by
  obtain ⟨p, s⟩ := f
  cases p with
  | none => rfl
  | some p => exact Bool.or_true _

/-- What does not show is not written. -/
theorem pieces_shown (f : Facets) : f.shown.pieces = f.pieces := by
  obtain ⟨p, s⟩ := f
  cases p <;> rfl

/-- The same facets show if the precisions are the same, and the scales too
where there is a precision. -/
theorem shown_eq_iff {f g : Facets} :
    f.shown = g.shown
      ↔ f.precision = g.precision ∧ (f.precision.isSome = true → f.scale = g.scale) := by
  obtain ⟨p, s⟩ := f
  obtain ⟨q, t⟩ := g
  cases p <;> cases q <;> simp [shown, none]

end Facets

variable {m n : BuiltIn} {f g : Facets}

/-- **What the text of a built-in type tells**: its name, its precision, and
the scale behind a precision. -/
theorem BuiltIn.text_eq_iff :
    m.text f = n.text g
      ↔ m = n ∧ f.precision = g.precision
        ∧ (f.precision.isSome = true → f.scale = g.scale) := by
  have hshown (k : BuiltIn) (h : Facets) : k.text h = k.text h.shown := by
    rw [text, text, pieces, pieces, h.pieces_shown]
  rw [← Facets.shown_eq_iff, hshown, hshown n]
  constructor
  · intro h
    have hchars : (m.pieces f.shown).chars ++ [] = (n.pieces g.shown).chars ++ [] :=
      congrArg (· ++ []) (String.ofList_injective h)
    obtain ⟨hmn, hfg, -⟩ := append_inj f.areShown_shown g.areShown_shown rfl rfl hchars
    exact ⟨hmn, hfg⟩
  · rintro ⟨rfl, hfg⟩
    rw [hfg]

/-- So two with the same text are the same, or their scales do not show. -/
theorem BuiltIn.eq_or_hidden_of_text (h : m.text f = n.text g) :
    m = n ∧ (f = g ∨ ∃ s t, f = ⟨none, s⟩ ∧ g = ⟨none, t⟩) := by
  obtain ⟨hmn, hprecision, hscale⟩ := text_eq_iff.1 h
  refine ⟨hmn, ?_⟩
  obtain ⟨p, s⟩ := f
  obtain ⟨q, t⟩ := g
  obtain rfl : p = q := hprecision
  cases p with
  | none => exact .inr ⟨s, t, rfl, rfl⟩
  | some p =>
    obtain rfl : s = t := hscale rfl
    exact .inl rfl

/-! ## What a scale comes to -/

namespace Dialect

/-- **The scale that a declared one comes to**, filled in if there is none and
cut down to the limit. -/
def scaleOf (d : Dialect) (n : BuiltIn) (s : Option UInt64) : Option UInt64 :=
  Facets.cap (s <|> d.defaultScale n) (d.maxScale n)

/-- **Two scales come to the same** for a type: to the same scale if it takes
one, and otherwise there has to be one in both cases or in neither. -/
def SameScale (d : Dialect) (n : BuiltIn) (s t : Option UInt64) : Prop :=
  if n.takesScale then d.scaleOf n s = d.scaleOf n t else s.isSome = t.isSome

theorem sameScale_refl (d : Dialect) (n : BuiltIn) (s : Option UInt64) : d.SameScale n s s := by
  unfold SameScale
  split <;> rfl

variable (d : Dialect)

/-- Without a precision, a scalar type is there if no scale is given that it
does not take. -/
theorem scalar?_of_scale (hn : n.isScalar = true) (s : Option UInt64) :
    d.scalar? n ⟨none, s⟩
      = if s.isNone || n.takesScale then
          some ⟨.scalar n ⟨Facets.cap (d.defaultPrecision n) (d.maxPrecision n), d.scaleOf n s⟩,
            false⟩
        else none := by
  rw [scalar?, hn]
  rfl

/-- **Two types with one text** are the same type in a dialect, or both none,
exactly when the name is no scalar type or the scales come to the same. -/
theorem scalar?_eq_iff_of_text (htext : m.text f = n.text g) :
    d.scalar? m f = d.scalar? n g ↔ m.isScalar = false ∨ d.SameScale m f.scale g.scale := by
  obtain ⟨rfl, rfl | ⟨s, t, rfl, rfl⟩⟩ := BuiltIn.eq_or_hidden_of_text htext
  · simp [sameScale_refl]
  · cases hm : m.isScalar with
    | false => simp [scalar?, hm]
    | true =>
      rw [d.scalar?_of_scale hm, d.scalar?_of_scale hm, SameScale]
      cases htakes : m.takesScale with
      | true => simp
      | false => cases s <;> cases t <;> simp

/-- **One of them is there and the other is not** exactly when the name is a
scalar type that takes no scale, and only the other has a scale. -/
theorem isSome_scalar?_of_text (htext : m.text f = n.text g) :
    ((d.scalar? m f).isSome = true ∧ (d.scalar? n g).isSome = false)
      ↔ m.isScalar = true ∧ m.takesScale = false ∧ f.scale = none ∧ g.scale.isSome = true := by
  obtain ⟨rfl, rfl | ⟨s, t, rfl, rfl⟩⟩ := BuiltIn.eq_or_hidden_of_text htext
  · constructor
    · rintro ⟨hsome, hnone⟩
      rw [hsome] at hnone
      cases hnone
    · rintro ⟨-, -, hnone, hsome⟩
      rw [hnone] at hsome
      cases hsome
  · rw [isSome_scalar?, isSome_scalar?]
    cases htakes : m.takesScale <;> cases s <;> cases t <;>
      simp [BuiltIn.admits, htakes]

end Dialect

/-! ## Declarations with one text -/

/-- **What a built-in name by itself resolves to** in a scope of a dialect's
types: the dialect's type, and if there is none it is turned down by its
text. -/
theorem DeclaredType.result_resolve_builtIn {d : Dialect} {s : Scope}
    (hs : s.catalog = .ofDialect d) (n : BuiltIn) (f : Facets) (place span : Span) :
    ((plain (.builtIn n f place) span).resolve s).result
      = match d.scalar? n f with
        | some t => .ok t
        | none => .error (.rejected ⟨place, .unknownType (n.text f)⟩) := by
  have hc : s.catalog.ExcludesNull := hs ▸ Catalog.excludesNull_ofDialect d
  have hscalar : s.catalog.scalar? n f = d.scalar? n f := by rw [hs]; rfl
  rw [plain, result_resolve_zoned hc]
  show (Descriptor.onePass s (.builtIn n f place)).result = _
  rw [Descriptor.onePass, hscalar]
  cases d.scalar? n f <;> rfl

/-- A built-in name by itself is written as its type, in either layout. -/
theorem DeclaredType.text?_builtIn (layout : Layout) (n : BuiltIn) (f : Facets)
    (place span : Span) : (plain (.builtIn n f place) span).text? layout = .ok (n.text f) := by
  show Except.ok (n.pieces f ++ []).text = _
  rw [List.append_nil]
  rfl

open DeclaredType (plain)

/-- **How far the text of a built-in type tells what it stands for.** The text
is that of the declaration, in either layout. Two have the same exactly when
they have the same name, the same precision and, behind a precision, the same
scale. Then, in every dialect,

* they stand for the same type, or both for none, exactly when the name is no
  scalar type or their scales come to the same;
* in a scope of the dialect's types one of them resolves, while the other is
  turned down as unknown by the text of both, exactly when the name is a scalar
  type that takes no scale, and only the other has a scale. -/
theorem BuiltIn.answers_by_text (m n : BuiltIn) (f g : Facets) :
    (∀ (layout : Layout) (p p' : Span),
      (plain (.builtIn m f p) p').text? layout = .ok (m.text f))
    ∧ (m.text f = n.text g
      ↔ m = n ∧ f.precision = g.precision
        ∧ (f.precision.isSome = true → f.scale = g.scale))
    ∧ (m.text f = n.text g → ∀ d : Dialect,
      (d.scalar? m f = d.scalar? n g
        ↔ m.isScalar = false ∨ d.SameScale m f.scale g.scale)
      ∧ ∀ (s : Scope) (p q p' q' : Span), s.catalog = .ofDialect d →
        ((∃ t, ((plain (.builtIn m f p) p').resolve s).result = .ok t)
          ∧ ((plain (.builtIn n g q) q').resolve s).result
            = .error (.rejected ⟨q, .unknownType (m.text f)⟩)
          ↔ m.isScalar = true ∧ m.takesScale = false
            ∧ f.scale = none ∧ g.scale.isSome = true)) := by
  refine ⟨fun layout p p' => DeclaredType.text?_builtIn layout m f p p', text_eq_iff,
    fun htext d => ?_⟩
  refine ⟨d.scalar?_eq_iff_of_text htext, fun s p q p' q' hs => ?_⟩
  rw [DeclaredType.result_resolve_builtIn hs, DeclaredType.result_resolve_builtIn hs, htext,
    ← d.isSome_scalar?_of_text htext]
  cases d.scalar? m f <;> cases d.scalar? n g <;> simp

/-- A `DECIMAL` with a scale of 30 and one of 25 have one text, and they come
to the same in the standard dialect, in which no scale exceeds 19. An `INTEGER`
with a scale is turned down by the text of the one that resolves. -/
theorem BuiltIn.answers_by_text_decimal_integer :
    decimal.text ⟨none, some 30⟩ = decimal.text ⟨none, some 25⟩
      ∧ Dialect.standard.SameScale decimal (some 30) (some 25)
      ∧ Dialect.standard.scalar? decimal ⟨none, some 30⟩
        = Dialect.standard.scalar? decimal ⟨none, some 25⟩
      ∧ integer.text .none = integer.text ⟨none, some 2⟩
      ∧ ((plain (.builtIn integer ⟨none, some 2⟩ .unknown) .unknown).resolve
          Scope.integers).result = .error (.rejected ⟨.unknown, .unknownType "INTEGER"⟩) := by
  have hdecimal : decimal.text ⟨none, some 30⟩ = decimal.text ⟨none, some 25⟩ := rfl
  have hscale : Dialect.standard.SameScale decimal (some 30) (some 25) := rfl
  have hinteger : integer.text .none = integer.text ⟨none, some 2⟩ := rfl
  obtain ⟨hsame, -⟩ := (answers_by_text decimal decimal _ _).2.2 hdecimal .standard
  obtain ⟨-, honly⟩ := (answers_by_text integer integer _ _).2.2 hinteger .standard
  exact ⟨hdecimal, hscale, hsame.2 (.inr hscale), hinteger,
    ((honly Scope.integers .unknown .unknown .unknown .unknown rfl).2 ⟨rfl, rfl, rfl, rfl⟩).2⟩

/-- **`INTEGER` is a type and with a scale of 2 it is none**, and `DECIMAL` is
another type with it. The scale does not show, so not all that has one text has
one answer. -/
theorem BuiltIn.not_scalar?_eq_of_text :
    (Dialect.standard.scalar? integer .none).isSome = true
      ∧ Dialect.standard.scalar? integer ⟨none, some 2⟩ = none
      ∧ Dialect.standard.scalar? decimal .none
        = some ⟨.scalar decimal ⟨some 19, some 0⟩, false⟩
      ∧ Dialect.standard.scalar? decimal ⟨none, some 2⟩
        = some ⟨.scalar decimal ⟨some 19, some 2⟩, false⟩
      ∧ ¬ ∀ (d : Dialect) (m n : BuiltIn) (f g : Facets),
        m.text f = n.text g → d.scalar? m f = d.scalar? n g := by
  refine ⟨rfl, rfl, rfl, rfl, fun h => ?_⟩
  have hsame := h .standard integer integer .none ⟨none, some 2⟩ rfl
  cases hsame

end SqlTyping
