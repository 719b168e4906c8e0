import SqlTyping.Proofs.Resolution.OnePass
import SqlTyping.Proofs.Text.Layout

/-!
# The two forms of collection

`INTEGER ARRAY` can be declared with the keyword `ARRAY` or with a
descriptor that is a collection. The two go different ways: a keyword is
read in whatever case it was written and may make no collection, a kind is
never looked at; the nullability of a type is given behind the collection of
a keyword, and to the descriptor that is one.

It makes no difference which form is taken. In a declared type, any of the
keywords that make collections can be **moved into the descriptor**, its own
and those of row fields at any depth (`DeclaredType.KeywordsMoved`). What
comes of it is written in the same way in either layout, is on offer in the
same catalogs, asks the same of a scope and is turned down for the same
reason at the same place (`DeclaredType.KeywordsMoved.agree`).

The types it stands for are the same but for one thing: `MYUDT ARRAY NULL`
admits `NULL` as a descriptor and not as a keyword over a name. That is so
outside of rows only, as a field is given its nullability in the end.
-/

namespace SqlTyping

mutual

/-- **Keywords moved within a descriptor**: those of the fields in it. -/
inductive Descriptor.KeywordsMoved : Descriptor → Descriptor → Prop
  /-- A built-in name has none. -/
  | builtIn (n : BuiltIn) (f : Facets) (p : Span) :
      Descriptor.KeywordsMoved (.builtIn n f p) (.builtIn n f p)
  /-- In the elements of a collection. -/
  | collection {d d' : Descriptor} (c : Collection) (p p' : Span) :
      d.KeywordsMoved d' → Descriptor.KeywordsMoved (.collection d c p) (.collection d' c p')
  /-- In the fields of a row. -/
  | row {fs fs' : List DeclaredField} (p p' : Span) :
      DeclaredField.KeywordsMoved fs fs' → Descriptor.KeywordsMoved (.row fs p) (.row fs' p')
  /-- A name has none. -/
  | named (m : QualifiedName) (p : Span) : Descriptor.KeywordsMoved (.named m p) (.named m p)

/-- **Keywords moved into the descriptor**, at any places of a declared
type. Base and time zone are of no account. -/
inductive DeclaredType.KeywordsMoved : DeclaredType → DeclaredType → Prop
  /-- The type's own keyword, if it has one, stays where it is. -/
  | kept {d d' : Descriptor} (k : Option Identifier) (b b' : Descriptor)
      (z z' : Option TimeZone) (n : Nullability) (s : Span) :
      d.KeywordsMoved d' → DeclaredType.KeywordsMoved ⟨k, d, b, z, n, s⟩ ⟨k, d', b', z', n, s⟩
  /-- The type's own keyword makes a collection, and is moved. -/
  | moved {d d' : Descriptor} {k : Identifier} {c : Collection} (b b' : Descriptor)
      (z z' : Option TimeZone) (n : Nullability) (s s' p : Span) :
      Collection.ofKeyword? k.value = some c → d.KeywordsMoved d' →
        DeclaredType.KeywordsMoved ⟨some k, d, b, z, n, s⟩ ⟨none, .collection d' c p, b', z', n, s'⟩

/-- Keywords moved in the fields of a row, each in its own. -/
inductive DeclaredField.KeywordsMoved : List DeclaredField → List DeclaredField → Prop
  | nil : DeclaredField.KeywordsMoved [] []
  | cons {t t' : DeclaredType} {fs fs' : List DeclaredField} (x : Identifier) :
      t.KeywordsMoved t' → DeclaredField.KeywordsMoved fs fs' →
        DeclaredField.KeywordsMoved (⟨x, t⟩ :: fs) (⟨x, t'⟩ :: fs')

end

/-- The nullability is kept. -/
theorem DeclaredType.KeywordsMoved.nullability_eq {t t' : DeclaredType} (h : t.KeywordsMoved t') :
    t.nullability = t'.nullability := by
  cases h with
  | kept => rfl
  | moved => rfl

/-! ## Text -/

/-- **A keyword and its collection's own are written alike**, at every
depth. -/
theorem charsAt_keywordPieces {k : Identifier} {c : Collection}
    (h : Collection.ofKeyword? k.value = some c) (depth : Nat) :
    Pieces.charsAt depth (keywordPieces (some k)) = Pieces.charsAt depth [" ", c.keyword] := by
  have hchars : (keywordPieces (some k)).chars = Pieces.chars [" ", c.keyword] := by
    simp [keywordPieces, Collection.foldCase_of_ofKeyword? h]
  have hline : '\n' ∉ Pieces.chars [" ", c.keyword] := by simp [c.not_mem_keyword]
  rw [Pieces.charsAt_eq_chars hline, Pieces.charsAt_eq_chars (hchars ▸ hline), hchars]

section Text

variable (layout : Layout)

mutual

/-- A descriptor with keywords moved is written alike at every depth. -/
theorem Descriptor.KeywordsMoved.charsAt_pieces {d d' : Descriptor} (h : d.KeywordsMoved d')
    (depth : Nat) :
    Pieces.charsAt (layout.blocks depth) (d.pieces layout)
      = Pieces.charsAt (layout.blocks depth) (d'.pieces layout) := by
  cases h with
  | builtIn => rfl
  | collection c p p' h =>
    rw [Descriptor.pieces, Descriptor.pieces, Pieces.charsAt_append, Pieces.charsAt_append,
      h.charsAt_pieces depth]
  | row p p' h =>
    rw [Descriptor.pieces, Descriptor.pieces, Pieces.charsAt_cons_of_ne (by decide),
      Pieces.charsAt_cons_of_ne (by decide), layout.charsAt_parenthesized,
      layout.charsAt_parenthesized, h.charsAt_piecesAll (depth + 1)]
  | named => rfl

/-- **A declared type with keywords moved is written alike** at every
depth. -/
theorem DeclaredType.KeywordsMoved.charsAt_pieces {t t' : DeclaredType} (h : t.KeywordsMoved t')
    (depth : Nat) :
    Pieces.charsAt (layout.blocks depth) (t.pieces layout)
      = Pieces.charsAt (layout.blocks depth) (t'.pieces layout) := by
  cases h with
  | kept k b b' z z' n s h =>
    rw [DeclaredType.pieces, DeclaredType.pieces, Pieces.charsAt_append, Pieces.charsAt_append,
      h.charsAt_pieces depth]
  | moved b b' z z' n s s' p hk h =>
    rw [DeclaredType.pieces, DeclaredType.pieces, Descriptor.pieces, Pieces.charsAt_append,
      Pieces.charsAt_append, Pieces.charsAt_append, h.charsAt_pieces depth,
      charsAt_keywordPieces hk]
    exact (List.append_nil _).symm

theorem DeclaredField.KeywordsMoved.charsAt_piecesAll {fs fs' : List DeclaredField}
    (h : DeclaredField.KeywordsMoved fs fs') (depth : Nat) :
    (DeclaredField.piecesAll layout fs).map (Pieces.charsAt (layout.blocks depth))
      = (DeclaredField.piecesAll layout fs').map (Pieces.charsAt (layout.blocks depth)) := by
  cases h with
  | nil => rfl
  | cons x ht hfs =>
    rw [DeclaredField.piecesAll, DeclaredField.piecesAll, List.map_cons, List.map_cons,
      hfs.charsAt_piecesAll depth, ht.nullability_eq]
    simp only [Pieces.charsAt_append, Pieces.charsAt_cons_of_ne (show " " ≠ "\n" by decide),
      ht.charsAt_pieces depth]

end

end Text

mutual

/-- The names in a descriptor stay the same. -/
theorem Descriptor.KeywordsMoved.isWritable_eq {d d' : Descriptor} (h : d.KeywordsMoved d') :
    d.isWritable = d'.isWritable := by
  cases h with
  | builtIn => rfl
  | collection c p p' h => exact h.isWritable_eq
  | row p p' h => exact h.areWritable_eq
  | named => rfl

/-- **The names that are written of a type stay the same.** -/
theorem DeclaredType.KeywordsMoved.isWritable_eq {t t' : DeclaredType} (h : t.KeywordsMoved t') :
    t.isWritable = t'.isWritable := by
  cases h with
  | kept k b b' z z' n s h => exact h.isWritable_eq
  | moved b b' z z' n s s' p hk h => exact h.isWritable_eq

theorem DeclaredField.KeywordsMoved.areWritable_eq {fs fs' : List DeclaredField}
    (h : DeclaredField.KeywordsMoved fs fs') :
    DeclaredField.areWritable fs = DeclaredField.areWritable fs' := by
  cases h with
  | nil => rfl
  | cons x ht hfs =>
    rw [DeclaredField.areWritable, DeclaredField.areWritable, ht.isWritable_eq, hfs.areWritable_eq]

end

/-- So the text is the same, or there is none. -/
theorem DeclaredType.KeywordsMoved.text?_eq {t t' : DeclaredType} (h : t.KeywordsMoved t')
    (layout : Layout) : t.text? layout = t'.text? layout := by
  have hchars : (t.pieces layout).chars = (t'.pieces layout).chars := by
    rw [← layout.charsAt_blocks_zero, h.charsAt_pieces layout 0, layout.charsAt_blocks_zero]
  rw [text?, text?, h.isWritable_eq, Pieces.text, hchars, Pieces.text]

/-! ## Stray keywords -/

mutual

/-- The first stray keyword in a descriptor stays where it is. -/
theorem Descriptor.KeywordsMoved.find?_keywords {d d' : Descriptor} (h : d.KeywordsMoved d') :
    d.keywords.find? (fun k => (Collection.ofKeyword? k.1).isNone)
      = d'.keywords.find? fun k => (Collection.ofKeyword? k.1).isNone := by
  cases h with
  | builtIn => rfl
  | collection c p p' h => exact h.find?_keywords
  | row p p' h => exact h.find?_keywords
  | named => rfl

/-- **The first stray keyword stays where it is**: only those that make
collections are moved. -/
theorem DeclaredType.KeywordsMoved.unknownKeyword?_eq {t t' : DeclaredType}
    (h : t.KeywordsMoved t') : t.unknownKeyword? = t'.unknownKeyword? := by
  cases h with
  | kept k b b' z z' n s h =>
    rw [DeclaredType.unknownKeyword?, DeclaredType.unknownKeyword?, DeclaredType.keywords,
      DeclaredType.keywords, List.find?_append, List.find?_append, h.find?_keywords]
  | moved b b' z z' n s s' p hk h =>
    refine Eq.trans ?_ h.find?_keywords
    exact List.find?_cons_of_neg (by simp [hk])

theorem DeclaredField.KeywordsMoved.find?_keywords {fs fs' : List DeclaredField}
    (h : DeclaredField.KeywordsMoved fs fs') :
    (DeclaredField.keywords fs).find? (fun k => (Collection.ofKeyword? k.1).isNone)
      = (DeclaredField.keywords fs').find? fun k => (Collection.ofKeyword? k.1).isNone := by
  cases h with
  | nil => rfl
  | cons x ht hfs =>
    rw [DeclaredField.keywords, DeclaredField.keywords, List.find?_append, List.find?_append,
      hfs.find?_keywords]
    exact congrArg (Option.or · _) ht.unknownKeyword?_eq

end

/-! ## Types -/

section Types

/-- The collection that a keyword makes is that of its kind. -/
theorem collectBy_of_ofKeyword? {k : Identifier} {c : Collection}
    (h : Collection.ofKeyword? k.value = some c) (t : ResolvedType) :
    collectBy (some k) t = .ok (.collectionOf c t unboundedSize) := by
  rw [collectBy, h]

variable (c : Catalog)

mutual

/-- A catalog makes the same of a descriptor. -/
theorem Descriptor.KeywordsMoved.inCatalog_eq {d d' : Descriptor} (h : d.KeywordsMoved d') :
    d.inCatalog c = d'.inCatalog c := by
  cases h with
  | builtIn => rfl
  | collection k p p' h => rw [Descriptor.inCatalog, Descriptor.inCatalog, h.inCatalog_eq]
  | row p p' h => rw [Descriptor.inCatalog, Descriptor.inCatalog, h.inCatalog_eq]
  | named => rfl

/-- **A catalog makes the same of a declared type**, whatever the context
says about `NULL`. -/
theorem DeclaredType.KeywordsMoved.inCatalog_eq {t t' : DeclaredType} (h : t.KeywordsMoved t')
    (context : Bool) : t.inCatalog c context = t'.inCatalog c context := by
  cases h with
  | kept k b b' z z' n s h =>
    rw [DeclaredType.inCatalog, DeclaredType.inCatalog, h.inCatalog_eq]
  | moved b b' z z' n s s' p hk h =>
    rw [DeclaredType.inCatalog, DeclaredType.inCatalog, Descriptor.inCatalog, h.inCatalog_eq,
      bind_assoc]
    simp only [collectBy_of_ofKeyword? hk, pure_bind]
    rfl

theorem DeclaredField.KeywordsMoved.inCatalog_eq {fs fs' : List DeclaredField}
    (h : DeclaredField.KeywordsMoved fs fs') :
    DeclaredField.inCatalog c fs = DeclaredField.inCatalog c fs' := by
  cases h with
  | nil => rfl
  | cons x ht hfs =>
    rw [DeclaredField.inCatalog, DeclaredField.inCatalog, ht.inCatalog_eq, hfs.inCatalog_eq]

end

end Types

section Pass

variable (s : Scope)

mutual

/-- The pass over a descriptor is the same. -/
theorem Descriptor.KeywordsMoved.onePass_eq {d d' : Descriptor} (h : d.KeywordsMoved d') :
    d.onePass s = d'.onePass s := by
  cases h with
  | builtIn => rfl
  | collection c p p' h => rw [Descriptor.onePass, Descriptor.onePass, h.onePass_eq]
  | row p p' h => rw [Descriptor.onePass, Descriptor.onePass, h.onePass_eq]
  | named => rfl

/-- **The pass over a field's type is the same**: the collection is made
before the nullability is given. -/
theorem DeclaredType.KeywordsMoved.onePass_eq {t t' : DeclaredType} (h : t.KeywordsMoved t') :
    t.onePass s = t'.onePass s := by
  cases h with
  | kept k b b' z z' n p h =>
    rw [DeclaredType.onePass, DeclaredType.onePass, h.onePass_eq]
    rfl
  | moved b b' z z' n p p' q hk h =>
    rw [DeclaredType.onePass, DeclaredType.onePass, Descriptor.onePass, h.onePass_eq, bind_assoc]
    simp only [pure_bind, DeclaredType.collected, DeclaredType.collection?, Option.bind_some, hk,
      Option.bind_none]

theorem DeclaredField.KeywordsMoved.onePass_eq {fs fs' : List DeclaredField}
    (h : DeclaredField.KeywordsMoved fs fs') :
    DeclaredField.onePass s fs = DeclaredField.onePass s fs' := by
  cases h with
  | nil => rfl
  | cons x ht hfs =>
    rw [DeclaredField.onePass, DeclaredField.onePass, ht.onePass_eq, hfs.onePass_eq]

end

/-- **Up to its own nullability, a declared type is resolved as a field's
type is**, once no keyword is stray. -/
theorem DeclaredType.withNullable_resolve (t : DeclaredType) (b : Bool) :
    (·.withNullable b) <$> t.resolve s = match t.unknownKeyword? with
      | some (keyword, place) => .reject place (.unknownDatatype keyword)
      | none => (·.withNullable b) <$> t.onePass s := by
  rw [t.resolve_eq s]
  cases t.unknownKeyword? with
  | some u => rfl
  | none => simp only [t.onePass_eq, map_bind, map_pure, withNullable_finished,
      ResolvedType.withNullable_withNullable]

end Pass

/-- **The two forms of collection agree.** Where some of the keywords of a
declared type are moved into the descriptor, its own or those of fields at
any depth,

* it has the same text in either layout, or none as before;
* every catalog offers the same type, whatever the context, or nothing as
  before, or finds the same misuse;
* in every scope it asks for the same, and it fails in the same way at the
  same place or stands for a type that is equal but for its own
  nullability. -/
theorem DeclaredType.KeywordsMoved.agree {t t' : DeclaredType} (h : t.KeywordsMoved t') :
    (∀ layout, t.text? layout = t'.text? layout)
      ∧ (∀ (c : Catalog) (context : Bool), t.inCatalog? c context = t'.inCatalog? c context)
      ∧ ∀ s : Scope, (t.resolve s).requests = (t'.resolve s).requests
        ∧ (·.withNullable false) <$> (t.resolve s).result
          = (·.withNullable false) <$> (t'.resolve s).result := by
  refine ⟨h.text?_eq, fun c context => ?_, fun s => ?_⟩
  · rw [inCatalog?, inCatalog?, h.inCatalog_eq c context]
  · have heq : (·.withNullable false) <$> t.resolve s = (·.withNullable false) <$> t'.resolve s := by
      rw [t.withNullable_resolve, t'.withNullable_resolve, h.unknownKeyword?_eq, h.onePass_eq s]
    constructor
    · rw [← Inquiry.requests_map (·.withNullable false), heq, Inquiry.requests_map]
    · rw [← Inquiry.result_map, heq, Inquiry.result_map]

/-- The declaration `MYUDT ARRAY NULL` with a descriptor that is a
collection. -/
def DeclaredType.nameCollection : DeclaredType :=
  ofNullability (.collection (.ofName (.ofPath "MYUDT")) .array .unknown) .nullable

/-- The declaration `ROW(i MYUDT ARRAY NULL) ARRAY NULL` with a keyword
around a field that has none. -/
def DeclaredType.rowOfCollection : DeclaredType :=
  (ofKind .array (.row [⟨.bare "i", nameCollection⟩] .unknown)).withNullability .nullable

/-- A keyword moved in a field changes nothing; that of `MYUDT ARRAY NULL`
itself takes its nullability with it. -/
theorem DeclaredType.KeywordsMoved.agree_rowOfCollection :
    (rowArray.KeywordsMoved rowOfCollection
      ∧ rowOfCollection.text? .pretty = .ok "ROW(\n  i MYUDT ARRAY NULL\n) ARRAY"
      ∧ (rowOfCollection.resolve Scope.integers).requests = [.lookup (.ofPath "MYUDT")])
    ∧ (nameArray .nullable).KeywordsMoved nameCollection
      ∧ ∃ shape, ((nameArray .nullable).resolve Scope.integers).result = .ok ⟨shape, false⟩
        ∧ (nameCollection.resolve Scope.integers).result = .ok ⟨shape, true⟩
        ∧ (·.withNullable false) <$> (nameCollection.resolve Scope.integers).result
          = .ok ⟨shape, false⟩ := by
  have hname : (nameArray .nullable).KeywordsMoved nameCollection :=
    .moved _ _ _ _ _ _ _ _ (Collection.ofKeyword?_keyword .array) (.named _ _)
  have hrow : rowArray.KeywordsMoved rowOfCollection :=
    .kept _ _ _ _ _ _ _ (.row _ _ (.cons _ hname .nil))
  refine ⟨⟨hrow, ?_, ?_⟩, hname, _, rfl, rfl, ?_⟩
  · rw [← hrow.agree.1 .pretty]
    rfl
  · rw [← (hrow.agree.2.2 Scope.integers).1]
    rfl
  · rw [← (hname.agree.2.2 Scope.integers).2]
    rfl

end SqlTyping
