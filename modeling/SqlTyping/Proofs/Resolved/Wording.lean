import SqlTyping.Proofs.Text.Wording
import SqlTyping.Resolved.Text

/-!
# A resolved type is told by its text

A resolved type is written with `NOT NULL` behind every type in it that
excludes `NULL`, and with nothing behind one that admits it. The text is
that of a wording, from which the type can be read back: a collection of
what is worded so far admits `NULL` until a `NOT NULL` follows.

That reads everything but what is not written, which is the size of a
collection and the definition behind a name. A type is **plain** if all
collections in it are of any size, if there are no user-defined types, and
if its wording is readable. A plain type is told by its text, with the
nullability of everything in it (`ResolvedType.eq_of_text?`).
-/

namespace SqlTyping

/-- The words behind a type that admits `NULL` or not. -/
def nullableMarks : Bool → List Mark
  | true => []
  | false => [.notNull]

theorem chars_nullablePieces (b : Bool) :
    (nullablePieces b).chars = Mark.chars (nullableMarks b) := by
  cases b <;> rfl

mutual

/-- **The wording of a resolved type.** -/
def ResolvedType.wording : ResolvedType → Wording
  | ⟨.scalar n f, b⟩ => ⟨.builtIn n f, nullableMarks b⟩
  | ⟨.collection k e _, b⟩ => e.wording.marked (.collection k :: nullableMarks b)
  | ⟨.row fs, b⟩ => ⟨.row (ResolvedField.wordings fs), nullableMarks b⟩
  | ⟨.userDefined n _, b⟩ => ⟨.named (n.parts.map (·.value)), nullableMarks b⟩

/-- The wordings of the fields of a row. -/
def ResolvedField.wordings : List ResolvedField → List WordedField
  | [] => []
  | ⟨x, t⟩ :: fs => ⟨x, t.wording⟩ :: ResolvedField.wordings fs

end

mutual

/-- **Whether a resolved type is plain**: no user-defined types, no bounds
on collections, no scale without a precision, and words for the names of
fields. -/
def ResolvedType.isPlain : ResolvedType → Bool
  | ⟨.scalar _ f, _⟩ => f.areShown
  | ⟨.collection _ e m, _⟩ => e.isPlain && m == unboundedSize
  | ⟨.row fs, _⟩ => ResolvedField.arePlain fs
  | ⟨.userDefined _ _, _⟩ => false

/-- Whether the fields of a row are plain. -/
def ResolvedField.arePlain : List ResolvedField → Bool
  | [] => true
  | ⟨x, t⟩ :: fs => isWord x && t.isPlain && ResolvedField.arePlain fs

end

@[simp] theorem ResolvedType.isPlain_collection {k : Collection} {e : ResolvedType}
    {m : Int64} {b : Bool} :
    (ResolvedType.mk (.collection k e m) b).isPlain = true
      ↔ e.isPlain = true ∧ m = unboundedSize := by
  rw [isPlain, Bool.and_eq_true, beq_iff_eq]

@[simp] theorem ResolvedField.arePlain_cons {x : String} {t : ResolvedType}
    {fs : List ResolvedField} :
    arePlain (⟨x, t⟩ :: fs) = true
      ↔ isWord x = true ∧ t.isPlain = true ∧ arePlain fs = true := by
  rw [arePlain, Bool.and_eq_true, Bool.and_eq_true, and_assoc]

mutual

/-- **The text of a plain type is that of its wording.** -/
theorem ResolvedType.chars_wording : ∀ t : ResolvedType, t.isPlain = true →
    t.compactPieces.chars = t.wording.chars
  | ⟨.scalar n f, b⟩, _ => by
    rw [ResolvedType.compactPieces, ResolvedType.wording, Wording.chars, Lead.chars,
      Pieces.chars_append, chars_nullablePieces]
  | ⟨.collection k e m, b⟩, h => by
    obtain ⟨he, -⟩ := ResolvedType.isPlain_collection.1 h
    rw [ResolvedType.compactPieces, ResolvedType.wording, Pieces.chars_append,
      e.chars_wording he, Pieces.chars_cons, chars_nullablePieces, Wording.chars_marked,
      Mark.chars]
    simp [Mark.word]
  | ⟨.row fs, b⟩, h => by
    have hfs := ResolvedField.charsAll_wordings fs h
    rw [ResolvedType.compactPieces, ResolvedType.wording, Wording.chars, Lead.chars,
      List.cons_append, Pieces.chars_cons, Pieces.chars_append,
      Layout.chars_parenthesized_compact, hfs, chars_nullablePieces]
    rfl
  | ⟨.userDefined _ _, _⟩, h => by cases h

/-- The text of each plain field is that of its wording. -/
theorem ResolvedField.charsAll_wordings : ∀ fs : List ResolvedField,
    ResolvedField.arePlain fs = true →
      (ResolvedField.piecesAll fs).map Pieces.chars
        = WordedField.charsAll (ResolvedField.wordings fs)
  | [], _ => rfl
  | ⟨x, t⟩ :: fs, h => by
    obtain ⟨-, ht, hfs⟩ := ResolvedField.arePlain_cons.1 h
    rw [ResolvedField.piecesAll, ResolvedField.wordings, WordedField.charsAll, List.map_cons,
      ResolvedField.charsAll_wordings fs hfs, ← t.chars_wording ht]
    rfl

end

mutual

/-- The wording of a plain type is readable. -/
theorem ResolvedType.isReadable_wording : ∀ t : ResolvedType, t.isPlain = true →
    t.wording.isReadable = true
  | ⟨.scalar _ _, _⟩, h => h
  | ⟨.collection k e m, b⟩, h => by
    obtain ⟨he, -⟩ := ResolvedType.isPlain_collection.1 h
    rw [ResolvedType.wording, Wording.isReadable_marked]
    exact e.isReadable_wording he
  | ⟨.row fs, _⟩, h => ResolvedField.areReadable_wordings fs h
  | ⟨.userDefined _ _, _⟩, h => by cases h

theorem ResolvedField.areReadable_wordings : ∀ fs : List ResolvedField,
    ResolvedField.arePlain fs = true →
      WordedField.areReadable (ResolvedField.wordings fs) = true
  | [], _ => rfl
  | ⟨x, t⟩ :: fs, h => by
    obtain ⟨hx, ht, hfs⟩ := ResolvedField.arePlain_cons.1 h
    exact WordedField.areReadable_cons.2
      ⟨hx, t.isReadable_wording ht, ResolvedField.areReadable_wordings fs hfs⟩

end

/-! ## Reading a wording -/

/-- **What a word makes of the type before it.** -/
def Mark.onResolved (t : ResolvedType) : Mark → ResolvedType
  | collection k => ⟨.collection k t unboundedSize, true⟩
  | null => t.withNullable true
  | notNull => t.withNullable false

theorem Mark.foldl_nullableMarks (s : Shape) (b : Bool) :
    (nullableMarks b).foldl Mark.onResolved ⟨s, true⟩ = ⟨s, b⟩ := by
  cases b <;> rfl

mutual

/-- **The type that a wording is of**, if no name has to be looked up for
it. -/
def Wording.resolved? : Wording → Option ResolvedType
  | ⟨l, ms⟩ => l.resolved?.map (ms.foldl Mark.onResolved)

/-- The type that a lead is of, as long as nothing is said about `NULL`. -/
def Lead.resolved? : Lead → Option ResolvedType
  | .builtIn n f => some ⟨.scalar n f, true⟩
  | .named _ => none
  | .row fs => (WordedField.resolved? fs).map fun gs => ⟨.row gs, true⟩

/-- The fields that worded fields are. -/
def WordedField.resolved? : List WordedField → Option (List ResolvedField)
  | [] => some []
  | ⟨x, w⟩ :: fs => do
    let type ← w.resolved?
    let rest ← WordedField.resolved? fs
    return ⟨x, type⟩ :: rest

end

/-- More words change the type further. -/
theorem Wording.resolved?_marked (w : Wording) (ms : List Mark) :
    (w.marked ms).resolved? = w.resolved?.map (ms.foldl Mark.onResolved) := by
  obtain ⟨l, ms'⟩ := w
  rw [marked, resolved?, resolved?, Option.map_map]
  congr 1
  funext t
  exact List.foldl_append

mutual

/-- **A plain type is read back from its wording.** -/
theorem ResolvedType.resolved?_wording : ∀ t : ResolvedType, t.isPlain = true →
    t.wording.resolved? = some t
  | ⟨.scalar n f, b⟩, _ => congrArg some (Mark.foldl_nullableMarks _ b)
  | ⟨.collection k e m, b⟩, h => by
    obtain ⟨he, rfl⟩ := ResolvedType.isPlain_collection.1 h
    rw [ResolvedType.wording, Wording.resolved?_marked, e.resolved?_wording he]
    exact congrArg some (Mark.foldl_nullableMarks _ b)
  | ⟨.row fs, b⟩, h => by
    rw [ResolvedType.wording, Wording.resolved?, Lead.resolved?,
      ResolvedField.resolved?_wordings fs h]
    exact congrArg some (Mark.foldl_nullableMarks _ b)
  | ⟨.userDefined _ _, _⟩, h => by cases h

theorem ResolvedField.resolved?_wordings : ∀ fs : List ResolvedField,
    ResolvedField.arePlain fs = true →
      WordedField.resolved? (ResolvedField.wordings fs) = some fs
  | [], _ => rfl
  | ⟨x, t⟩ :: fs, h => by
    obtain ⟨-, ht, hfs⟩ := ResolvedField.arePlain_cons.1 h
    rw [ResolvedField.wordings, WordedField.resolved?, t.resolved?_wording ht,
      ResolvedField.resolved?_wordings fs hfs]
    rfl

end

/-! ## The text tells the type -/

mutual

/-- Plain types can be written. -/
theorem ResolvedType.isWritable_of_isPlain : ∀ t : ResolvedType, t.isPlain = true →
    t.isWritable = true
  | ⟨.scalar _ _, _⟩, _ => rfl
  | ⟨.collection k e m, b⟩, h => by
    obtain ⟨he, -⟩ := ResolvedType.isPlain_collection.1 h
    exact e.isWritable_of_isPlain he
  | ⟨.row fs, _⟩, h => ResolvedField.areWritable_of_arePlain fs h
  | ⟨.userDefined _ _, _⟩, h => by cases h

theorem ResolvedField.areWritable_of_arePlain : ∀ fs : List ResolvedField,
    ResolvedField.arePlain fs = true → ResolvedField.areWritable fs = true
  | [], _ => rfl
  | ⟨x, t⟩ :: fs, h => by
    obtain ⟨-, ht, hfs⟩ := ResolvedField.arePlain_cons.1 h
    rw [ResolvedField.areWritable, t.isWritable_of_isPlain ht,
      ResolvedField.areWritable_of_arePlain fs hfs]
    rfl

end

/-- **A plain type has a text**, and it is that of its wording. -/
theorem ResolvedType.text?_of_isPlain {t : ResolvedType} (h : t.isPlain = true) :
    t.text? .compact = .ok t.wording.text := by
  rw [text?, t.isWritable_of_isPlain h, if_pos rfl, t.pieces_compact, Pieces.text,
    t.chars_wording h]
  rfl

/-- **A plain type is told by its text**: two with the same text are the
same, down to the nullability of every element and field. -/
theorem ResolvedType.eq_of_text? {t u : ResolvedType} (ht : t.isPlain = true)
    (hu : u.isPlain = true) (h : t.text? .compact = u.text? .compact) : t = u := by
  rw [text?_of_isPlain ht, text?_of_isPlain hu] at h
  have hwording : t.wording = u.wording :=
    Wording.eq_of_text (t.isReadable_wording ht) (u.isReadable_wording hu) (Except.ok.inj h)
  have hread : some t = some u := by
    rw [← t.resolved?_wording ht, hwording, u.resolved?_wording hu]
  exact Option.some.inj hread

/-- Times, in lists that admit `NULL` or not at either level. -/
def ResolvedType.timeLists (outer inner : Bool) : ResolvedType :=
  let times := collectionOf .array ⟨.scalar .timeWithLocalTimeZone ⟨some 3, .none⟩, true⟩
    unboundedSize
  (collectionOf .multiset (times.withNullable inner) unboundedSize).withNullable outer

/-- The type `ROW(n NULL NOT NULL, z TIME(3) WITH LOCAL TIME ZONE ARRAY NOT
NULL MULTISET)`, as a row of one field more than another and as it stands,
is one type, for it has one text. -/
theorem ResolvedType.eq_of_text?_timeLists :
    let field : ResolvedField := ⟨"z", timeLists true false⟩
    let built := (rowOf (⟨"n", ⟨.scalar .null .none, false⟩⟩ :: [field])).withNullable true
    let whole : ResolvedType := ⟨.row [⟨"n", ⟨.scalar .null .none, false⟩⟩,
      ⟨"z", ⟨.collection .multiset ⟨.collection .array ⟨.scalar .timeWithLocalTimeZone
        ⟨some 3, none⟩, true⟩ (-1), false⟩ (-1), true⟩⟩], true⟩
    built.isPlain = true ∧ whole.isPlain = true
      ∧ built.text? .compact = whole.text? .compact ∧ built = whole := by
  intro field built whole
  have hb : built.isPlain = true := by decide
  have hw : whole.isPlain = true := by decide
  have h : built.text? .compact = whole.text? .compact := by rfl
  exact ⟨hb, hw, h, eq_of_text? hb hw h⟩

end SqlTyping
