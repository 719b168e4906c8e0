import SqlTyping.Proofs.Declared.StructuralEquality
import SqlTyping.Proofs.Text.Wording

/-!
# The structure of a declared type is in its text

A collection has one text and two forms: the keyword behind a descriptor
and a descriptor that is a collection. In the **nested** form of a declared
type every keyword that makes a collection, also that of a field, is moved
into a collection around its descriptor. That leaves the wording as it is
(`DeclaredType.wording_nested_canonical`).

Apart from that the text of a declared type tells its structure, if the
type is **plain**: its names are bare words without capital letters, its
keywords make collections, no scale stands without a precision, and there
are no time zones, which are not written. A wording is read into a declared
type in canonical form, and what is read from the wording of a plain type
is the canonical form of its nested form (`DeclaredType.declared_wording`).
So plain types have the same text exactly when their nested forms are
structurally equal (`DeclaredType.text?_eq_iff_structurallyEqual_nested`).
-/

namespace SqlTyping

/-! ## Nested forms -/

mutual

/-- The nested form of a descriptor: that of every field in it. -/
def Descriptor.nested : Descriptor → Descriptor
  | .builtIn n f s => .builtIn n f s
  | .collection e k s => .collection e.nested k s
  | .row fs s => .row (DeclaredField.nested fs) s
  | .named n s => .named n s

/-- **The nested form of a declared type**: a keyword that makes a
collection is moved into a collection around the descriptor, for the type
itself and for every field in it. -/
def DeclaredType.nested : DeclaredType → DeclaredType
  | ⟨k, d, b, z, n, s⟩ =>
    match k.bind fun k => Collection.ofKeyword? k.value with
    | some c => ⟨none, .collection d.nested c s, b, z, n, s⟩
    | none => ⟨k, d.nested, b, z, n, s⟩

/-- The fields of a row with their types in nested form. -/
def DeclaredField.nested : List DeclaredField → List DeclaredField
  | [] => []
  | ⟨x, t⟩ :: fs => ⟨x, t.nested⟩ :: DeclaredField.nested fs

end

/-- What a type says about `NULL` does not depend on the form of its
collections. -/
@[simp] theorem DeclaredType.nullability_nested (t : DeclaredType) :
    t.nested.nullability = t.nullability := by
  obtain ⟨k, d, b, z, n, s⟩ := t
  rw [nested]
  split <;> rfl

/-! ## Plain types -/

/-- Whether an identifier is a word without quotes and capital letters. -/
def Identifier.isPlain (x : Identifier) : Bool := x.quote.isNone && isLowerWord x.value

/-- Whether a keyword, if there is one, makes a collection. -/
def keywordIsKnown (k : Option Identifier) : Bool :=
  k.all fun k => (Collection.ofKeyword? k.value).isSome

mutual

/-- Whether a descriptor is plain. -/
def Descriptor.isPlain : Descriptor → Bool
  | .builtIn _ f _ => f.areShown
  | .collection e _ _ => e.isPlain
  | .row fs _ => DeclaredField.arePlain fs
  | .named n _ => !n.parts.isEmpty && n.parts.all (·.isPlain)

/-- **Whether a declared type is plain.** Its base, which is neither written
nor compared, may be anything. -/
def DeclaredType.isPlain : DeclaredType → Bool
  | ⟨k, d, _, z, _, _⟩ => keywordIsKnown k && z.isNone && d.isPlain

/-- Whether the fields of a row are plain. -/
def DeclaredField.arePlain : List DeclaredField → Bool
  | [] => true
  | ⟨x, t⟩ :: fs => x.isPlain && t.isPlain && DeclaredField.arePlain fs

end

theorem Identifier.isPlain_iff {x : Identifier} :
    x.isPlain = true ↔ x.quote = none ∧ isLowerWord x.value = true := by
  rw [isPlain, Bool.and_eq_true, Option.isNone_iff_eq_none]

@[simp] theorem Descriptor.isPlain_named {n : QualifiedName} {s : Span} :
    (named n s).isPlain = true ↔ n.parts ≠ [] ∧ ∀ x ∈ n.parts, x.isPlain = true := by
  rw [isPlain, Bool.and_eq_true, List.all_eq_true]
  simp

@[simp] theorem DeclaredType.isPlain_mk {k : Option Identifier} {d b : Descriptor}
    {z : Option TimeZone} {n : Nullability} {s : Span} :
    (DeclaredType.mk k d b z n s).isPlain = true
      ↔ keywordIsKnown k = true ∧ z = none ∧ d.isPlain = true := by
  rw [isPlain, Bool.and_eq_true, Bool.and_eq_true, Option.isNone_iff_eq_none, and_assoc]

@[simp] theorem DeclaredField.arePlain_cons {x : Identifier} {t : DeclaredType}
    {fs : List DeclaredField} :
    arePlain (⟨x, t⟩ :: fs) = true
      ↔ x.isPlain = true ∧ t.isPlain = true ∧ arePlain fs = true := by
  rw [arePlain, Bool.and_eq_true, Bool.and_eq_true, and_assoc]

theorem Identifier.isWritable_of_isPlain {x : Identifier} (h : x.isPlain = true) :
    x.isWritable = true := by
  rw [isWritable, (isPlain_iff.1 h).1]
  rfl

theorem Identifier.chars_of_isPlain {x : Identifier} (h : x.isPlain = true) :
    x.pieces.chars = x.value.toList := by
  unfold pieces
  rw [(isPlain_iff.1 h).1]
  exact List.append_nil _

/-! ## The wording -/

/-- The words behind a type with a collection keyword. -/
def keywordMarks (k : Option Identifier) : List Mark :=
  ((k.bind fun k => Collection.ofKeyword? k.value).map .collection).toList

/-- The words behind a type do not tell where its keyword stands. -/
theorem keywordMarks_unplaced (k : Option Identifier) :
    keywordMarks (k.map (·.unplaced)) = keywordMarks k := by
  cases k <;> rfl

/-- The words behind the type of a field. -/
def Nullability.marks : Nullability → List Mark
  | nullable => [.null]
  | notNull => [.notNull]
  | unspecified => []

mutual

/-- The wording of a descriptor. -/
def Descriptor.wording : Descriptor → Wording
  | .builtIn n f _ => ⟨.builtIn n f, []⟩
  | .collection e k _ => e.wording.marked [.collection k]
  | .row fs _ => ⟨.row (DeclaredField.wordings fs), []⟩
  | .named n _ => ⟨.named (n.parts.map (·.value)), []⟩

/-- **The wording of a declared type.** -/
def DeclaredType.wording : DeclaredType → Wording
  | ⟨k, d, _, _, _, _⟩ => d.wording.marked (keywordMarks k)

/-- The wordings of the fields of a row. -/
def DeclaredField.wordings : List DeclaredField → List WordedField
  | [] => []
  | ⟨x, t⟩ :: fs =>
    ⟨x.value, t.wording.marked t.nullability.marks⟩ :: DeclaredField.wordings fs

end

/-- What is said about `NULL` is worded behind a field and not behind its
type. -/
@[simp] theorem DeclaredType.wording_withNullability (t : DeclaredType) (n : Nullability) :
    (t.withNullability n).wording = t.wording := by
  obtain ⟨k, d, b, z, m, s⟩ := t
  rfl

theorem chars_fieldPieces (n : Nullability) : n.fieldPieces.chars = Mark.chars n.marks := by
  cases n <;> rfl

/-- A keyword that makes a collection is written as the collection's own
one is. -/
theorem chars_keywordPieces {k : Option Identifier} (h : keywordIsKnown k = true) :
    (keywordPieces k).chars = Mark.chars (keywordMarks k) := by
  cases k with
  | none => rfl
  | some k =>
    obtain ⟨c, hc⟩ := Option.isSome_iff_exists.1 h
    have hfold : foldCase k.value.toList = c.keyword.toList := Collection.foldCase_of_ofKeyword? hc
    simp [keywordPieces, keywordMarks, hc, hfold, Mark.chars, Mark.word]

/-- A name of plain parts is written as their values with dots between. -/
theorem QualifiedName.chars_of_isPlain {n : QualifiedName}
    (h : ∀ x ∈ n.parts, x.isPlain = true) :
    n.pieces.chars = joined ['.'] ((n.parts.map (·.value)).map String.toList) := by
  rw [pieces, Pieces.chars_separated, List.map_map, List.map_map]
  congr 1
  exact List.map_congr_left fun x hx => Identifier.chars_of_isPlain (h x hx)

mutual

/-- The text of a plain descriptor is that of its wording. -/
theorem Descriptor.chars_wording : ∀ d : Descriptor, d.isPlain = true →
    (d.pieces .compact).chars = d.wording.chars
  | .builtIn n f _, _ => by
    rw [Descriptor.pieces, Descriptor.wording, Wording.chars, Lead.chars]
    exact (List.append_nil _).symm
  | .collection e k _, h => by
    rw [Descriptor.pieces, Descriptor.wording, Pieces.chars_append, e.chars_wording h,
      Wording.chars_marked]
    rfl
  | .row fs _, h => by
    have hfs := DeclaredField.charsAll_wordings fs h
    rw [Descriptor.pieces, Descriptor.wording, Wording.chars, Lead.chars, Pieces.chars_cons,
      Layout.chars_parenthesized_compact, hfs]
    exact (List.append_nil _).symm
  | .named n _, h => by
    obtain ⟨-, hparts⟩ := Descriptor.isPlain_named.1 h
    rw [Descriptor.pieces, Descriptor.wording, Wording.chars, Lead.chars,
      QualifiedName.chars_of_isPlain hparts]
    exact (List.append_nil _).symm

/-- **The text of a plain type is that of its wording.** -/
theorem DeclaredType.chars_wording : ∀ t : DeclaredType, t.isPlain = true →
    (t.pieces .compact).chars = t.wording.chars
  | ⟨k, d, b, z, n, s⟩, h => by
    obtain ⟨hk, -, hd⟩ := DeclaredType.isPlain_mk.1 h
    rw [DeclaredType.pieces, DeclaredType.wording, Pieces.chars_append, d.chars_wording hd,
      chars_keywordPieces hk, Wording.chars_marked]

/-- The text of each plain field is that of its wording. -/
theorem DeclaredField.charsAll_wordings : ∀ fs : List DeclaredField,
    DeclaredField.arePlain fs = true →
      (DeclaredField.piecesAll .compact fs).map Pieces.chars
        = WordedField.charsAll (DeclaredField.wordings fs)
  | [], _ => rfl
  | ⟨x, t⟩ :: fs, h => by
    obtain ⟨hx, ht, hfs⟩ := DeclaredField.arePlain_cons.1 h
    have hfield : (x.pieces ++ " " :: t.pieces .compact ++ t.nullability.fieldPieces).chars
        = x.value.toList ++ ' ' :: (t.wording.marked t.nullability.marks).chars := by
      rw [Pieces.chars_append, Pieces.chars_append, Pieces.chars_cons,
        Identifier.chars_of_isPlain hx, t.chars_wording ht, chars_fieldPieces,
        Wording.chars_marked, List.append_assoc]
      rfl
    rw [DeclaredField.piecesAll, DeclaredField.wordings, WordedField.charsAll, List.map_cons,
      DeclaredField.charsAll_wordings fs hfs, hfield]

end

mutual

/-- The wording of a plain descriptor is readable. -/
theorem Descriptor.isReadable_wording : ∀ d : Descriptor, d.isPlain = true →
    d.wording.isReadable = true
  | .builtIn _ _ _, h => h
  | .collection e k _, h => by
    rw [Descriptor.wording, Wording.isReadable_marked]
    exact e.isReadable_wording h
  | .row fs _, h => DeclaredField.areReadable_wordings fs h
  | .named n _, h => by
    obtain ⟨hne, hparts⟩ := Descriptor.isPlain_named.1 h
    have hwords : ∀ y ∈ n.parts.map (·.value), isLowerWord y = true := by
      intro y hy
      obtain ⟨x, hx, rfl⟩ := List.mem_map.1 hy
      exact (Identifier.isPlain_iff.1 (hparts x hx)).2
    exact Lead.isReadable_named.2 ⟨mt List.map_eq_nil_iff.1 hne, hwords⟩

/-- The wording of a plain type is readable. -/
theorem DeclaredType.isReadable_wording : ∀ t : DeclaredType, t.isPlain = true →
    t.wording.isReadable = true
  | ⟨k, d, b, z, n, s⟩, h => by
    obtain ⟨-, -, hd⟩ := DeclaredType.isPlain_mk.1 h
    rw [DeclaredType.wording, Wording.isReadable_marked]
    exact d.isReadable_wording hd

theorem DeclaredField.areReadable_wordings : ∀ fs : List DeclaredField,
    DeclaredField.arePlain fs = true →
      WordedField.areReadable (DeclaredField.wordings fs) = true
  | [], _ => rfl
  | ⟨x, t⟩ :: fs, h => by
    obtain ⟨hx, ht, hfs⟩ := DeclaredField.arePlain_cons.1 h
    have hword : isWord x.value = true := isWord_of_isLowerWord (Identifier.isPlain_iff.1 hx).2
    have htype : (t.wording.marked t.nullability.marks).isReadable = true := by
      rw [Wording.isReadable_marked, t.isReadable_wording ht]
    exact WordedField.areReadable_cons.2
      ⟨hword, htype, DeclaredField.areReadable_wordings fs hfs⟩

end

/-! ## Reading a wording -/

/-- **What a word makes of the type before it**: a collection of what its
descriptor names, or the same with something said about `NULL`. -/
def Mark.onDeclared (t : DeclaredType) : Mark → DeclaredType
  | collection k => .plain (.collection t.descriptor k .unknown) .unknown
  | null => t.withNullability .nullable
  | notNull => t.withNullability .notNull

mutual

/-- **The declared type that a wording is of**, without keywords and in
canonical form. -/
def Wording.declared : Wording → DeclaredType
  | ⟨l, ms⟩ => ms.foldl Mark.onDeclared (.plain l.declared .unknown)

/-- The descriptor that a lead is of. -/
def Lead.declared : Lead → Descriptor
  | .builtIn n f => .builtIn n f .unknown
  | .named parts => .named ⟨parts.map .bare⟩ .unknown
  | .row fs => .row (WordedField.declared fs) .unknown

/-- The fields that worded fields are. -/
def WordedField.declared : List WordedField → List DeclaredField
  | [] => []
  | ⟨x, w⟩ :: fs => ⟨.bare x, w.declared⟩ :: WordedField.declared fs

end

/-- More words change the type further. -/
theorem Wording.declared_marked (w : Wording) (ms : List Mark) :
    (w.marked ms).declared = ms.foldl Mark.onDeclared w.declared := by
  obtain ⟨l, ms'⟩ := w
  rw [marked, declared, declared, List.foldl_append]

/-- Where nothing is said about `NULL` yet, the words behind the type of a
field say what the field does. -/
theorem Mark.foldl_marks {t : DeclaredType} (h : t.nullability = .unspecified)
    (n : Nullability) : n.marks.foldl Mark.onDeclared t = t.withNullability n := by
  cases n with
  | nullable => rfl
  | notNull => rfl
  | unspecified =>
    exact (DeclaredType.withNullability_eq_self_iff.2 (beq_iff_eq.2 h)).symm

/-- A plain name is that of its parts' values. -/
theorem QualifiedName.unplaced_of_isPlain {n : QualifiedName}
    (h : ∀ x ∈ n.parts, x.isPlain = true) :
    (⟨(n.parts.map (·.value)).map .bare⟩ : QualifiedName) = n.unplaced := by
  have hpart : ∀ x ∈ n.parts, Identifier.bare x.value = x.unplaced := by
    intro x hx
    rw [Identifier.unplaced, (Identifier.isPlain_iff.1 (h x hx)).1]
    rfl
  rw [unplaced, List.map_map]
  exact congrArg QualifiedName.mk (List.map_congr_left hpart)

/-- A canonical form says nothing about `NULL`. -/
theorem DeclaredType.nullability_canonical (t : DeclaredType) :
    t.canonical.nullability = .unspecified := by
  obtain ⟨k, d, b, z, n, s⟩ := t
  rfl

mutual

/-- What is read from the wording of a plain descriptor is the descriptor
by itself, in nested and canonical form. -/
theorem Descriptor.declared_wording : ∀ d : Descriptor, d.isPlain = true →
    d.wording.declared = .plain d.nested.canonical .unknown
  | .builtIn _ _ _, _ => rfl
  | .collection e k _, h => by
    rw [Descriptor.wording, Wording.declared_marked, e.declared_wording h]
    rfl
  | .row fs _, h => by
    rw [Descriptor.wording, Wording.declared, Lead.declared,
      DeclaredField.declared_wordings fs h]
    rfl
  | .named n _, h => by
    obtain ⟨-, hparts⟩ := Descriptor.isPlain_named.1 h
    rw [Descriptor.wording, Wording.declared, Lead.declared,
      QualifiedName.unplaced_of_isPlain hparts]
    rfl

/-- **What is read from the wording of a plain type is the canonical form
of its nested form.** -/
theorem DeclaredType.declared_wording : ∀ t : DeclaredType, t.isPlain = true →
    t.wording.declared = t.nested.canonical
  | ⟨k, d, b, z, n, s⟩, h => by
    obtain ⟨hk, rfl, hd⟩ := DeclaredType.isPlain_mk.1 h
    rw [DeclaredType.wording, Wording.declared_marked, d.declared_wording hd,
      DeclaredType.nested]
    -- the mark of the keyword makes the collection that the keyword is moved into
    cases k with
    | none => rfl
    | some k =>
      obtain ⟨c, hc⟩ := Option.isSome_iff_exists.1 hk
      simp only [keywordMarks, Option.bind_some, hc]
      rfl

theorem DeclaredField.declared_wordings : ∀ fs : List DeclaredField,
    DeclaredField.arePlain fs = true →
      WordedField.declared (DeclaredField.wordings fs)
        = DeclaredField.canonical (DeclaredField.nested fs)
  | [], _ => rfl
  | ⟨x, t⟩ :: fs, h => by
    obtain ⟨hx, ht, hfs⟩ := DeclaredField.arePlain_cons.1 h
    rw [DeclaredField.wordings, WordedField.declared, Wording.declared_marked,
      t.declared_wording ht, Mark.foldl_marks t.nested.nullability_canonical,
      DeclaredField.declared_wordings fs hfs, DeclaredField.nested, DeclaredField.canonical,
      t.nullability_nested]

end

mutual

/-- The nested and canonical form of a descriptor has the same wording. -/
theorem Descriptor.wording_nested_canonical :
    ∀ d : Descriptor, d.nested.canonical.wording = d.wording
  | .builtIn _ _ _ => rfl
  | .collection e k _ => congrArg (·.marked [.collection k]) e.wording_nested_canonical
  | .row fs _ =>
    congrArg (fun fs => Wording.mk (.row fs) []) (DeclaredField.wordings_nested_canonical fs)
  | .named n _ => by
    show (⟨.named ((n.parts.map (·.unplaced)).map (·.value)), []⟩ : Wording) = _
    rw [List.map_map]
    rfl

/-- **The nested and canonical form of a declared type has the same
wording.** -/
theorem DeclaredType.wording_nested_canonical :
    ∀ t : DeclaredType, t.nested.canonical.wording = t.wording
  | ⟨k, d, b, z, n, s⟩ => by
    have hd := d.wording_nested_canonical
    rw [DeclaredType.nested, DeclaredType.wording, ← hd]
    -- a keyword that makes a collection is a mark of the descriptor now
    cases hc : k.bind fun k => Collection.ofKeyword? k.value with
    | none =>
      show d.nested.canonical.wording.marked (keywordMarks (k.map (·.unplaced))) = _
      rw [keywordMarks_unplaced]
    | some c =>
      rw [keywordMarks, hc]
      exact Wording.marked_nil _

theorem DeclaredField.wordings_nested_canonical : ∀ fs : List DeclaredField,
    DeclaredField.wordings (DeclaredField.canonical (DeclaredField.nested fs))
      = DeclaredField.wordings fs
  | [] => rfl
  | ⟨x, t⟩ :: fs => by
    rw [DeclaredField.nested, DeclaredField.canonical, DeclaredField.wordings,
      DeclaredField.wordings, DeclaredField.wordings_nested_canonical fs,
      DeclaredType.wording_withNullability, t.wording_nested_canonical, t.nullability_nested]
    rfl

end

/-! ## The text tells the structure -/

mutual

theorem Descriptor.isWritable_of_isPlain : ∀ d : Descriptor, d.isPlain = true →
    d.isWritable = true
  | .builtIn _ _ _, _ => rfl
  | .collection e _ _, h => e.isWritable_of_isPlain h
  | .row fs _, h => DeclaredField.areWritable_of_arePlain fs h
  | .named n _, h => by
    obtain ⟨-, hparts⟩ := Descriptor.isPlain_named.1 h
    exact List.all_eq_true.2 fun x hx => Identifier.isWritable_of_isPlain (hparts x hx)

/-- Plain types can be written. -/
theorem DeclaredType.isWritable_of_isPlain : ∀ t : DeclaredType, t.isPlain = true →
    t.isWritable = true
  | ⟨k, d, b, z, n, s⟩, h => by
    obtain ⟨-, -, hd⟩ := DeclaredType.isPlain_mk.1 h
    exact d.isWritable_of_isPlain hd

theorem DeclaredField.areWritable_of_arePlain : ∀ fs : List DeclaredField,
    DeclaredField.arePlain fs = true → DeclaredField.areWritable fs = true
  | [], _ => rfl
  | ⟨x, t⟩ :: fs, h => by
    obtain ⟨hx, ht, hfs⟩ := DeclaredField.arePlain_cons.1 h
    rw [DeclaredField.areWritable, Identifier.isWritable_of_isPlain hx,
      t.isWritable_of_isPlain ht, DeclaredField.areWritable_of_arePlain fs hfs]
    rfl

end

/-- **A plain type has a text**, and it is that of its wording. -/
theorem DeclaredType.text?_of_isPlain {t : DeclaredType} (h : t.isPlain = true) :
    t.text? .compact = .ok t.wording.text := by
  rw [text?, t.isWritable_of_isPlain h, if_pos rfl, Pieces.text, t.chars_wording h]
  rfl

/-- **The text of a plain type tells its structure**, and nothing else: two
have the same text exactly when they are structurally equal in nested
form. -/
theorem DeclaredType.text?_eq_iff_structurallyEqual_nested {a b : DeclaredType}
    (ha : a.isPlain = true) (hb : b.isPlain = true) :
    a.text? .compact = b.text? .compact ↔ a.nested.StructurallyEqual b.nested := by
  unfold StructurallyEqual
  rw [text?_of_isPlain ha, text?_of_isPlain hb, mismatch?_eq_ok_none_iff]
  constructor
  · intro h
    have hwording : a.wording = b.wording :=
      Wording.eq_of_text (a.isReadable_wording ha) (b.isReadable_wording hb) (Except.ok.inj h)
    rw [← a.declared_wording ha, hwording, b.declared_wording hb]
  · intro h
    rw [← a.wording_nested_canonical, h, b.wording_nested_canonical]

/-- The field `x TIME(3) WITH LOCAL TIME ZONE ARRAY NULL` with a keyword,
and with none. -/
def DeclaredType.timeArray : Bool → DeclaredType
  | true => .of (some (.bare "array"))
      (.builtIn .timeWithLocalTimeZone ⟨some 3, none⟩ .unknown) none none .nullable .unknown
  | false => .ofNullability (.collection
      (.builtIn .timeWithLocalTimeZone ⟨some 3, none⟩ .unknown) .array .unknown) .nullable

/-- The declaration `ROW(x TIME(3) WITH LOCAL TIME ZONE ARRAY NULL, y s.t
NOT NULL) MULTISET` with keywords, and with none. -/
def DeclaredType.timeTable (keywords : Bool) : DeclaredType :=
  let row : Descriptor := .row [⟨.bare "x", timeArray keywords⟩,
    ⟨.bare "y", .ofNullability (.ofName (.ofPath "s.t")) .notNull⟩] .unknown
  match keywords with
  | true => collectionOf (.bare "Multiset") row .unknown
  | false => plain (.collection row .multiset .unknown) .unknown

/-- With keywords and without, the declaration is written the same, and it
has one structure. -/
theorem DeclaredType.structurallyEqual_nested_timeTable :
    (timeTable true == timeTable false) = false
      ∧ (timeTable true).isPlain = true ∧ (timeTable false).isPlain = true
      ∧ (timeTable true).text? .compact = (timeTable false).text? .compact
      ∧ (timeTable true).nested.StructurallyEqual (timeTable false).nested := by
  have ht : (timeTable true).isPlain = true := by decide
  have hf : (timeTable false).isPlain = true := by decide
  have h : (timeTable true).text? .compact = (timeTable false).text? .compact := by rfl
  exact ⟨rfl, ht, hf, h, (text?_eq_iff_structurallyEqual_nested ht hf).1 h⟩

end SqlTyping
