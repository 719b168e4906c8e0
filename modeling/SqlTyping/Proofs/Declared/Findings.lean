import SqlTyping.Proofs.Declared.Around
import SqlTyping.Proofs.Declared.Parts

/-!
# The findings of a declared type in a row

The search for a difference goes down into two trees at once and comes back
up with the first one it meets. Its order is that of a list: the
**findings** of a declared type are all that the search looks at, one after
the other. Two declared types part at the first place where their lists of
findings do, and a report quotes the two findings there
(`DeclaredType.mismatch?_by_findings`).

Lists of findings need not have the same length, but as long as they agree
they are made by the same looks: descriptors of different forms part at
once, and so do rows that differ in the number of their fields.
-/

namespace SqlTyping

/-! ## Findings -/

/-- Whether two descriptors are of one form: built-in names, collections,
rows or names of user-defined types. -/
def Descriptor.hasFormOf : Descriptor → Descriptor → Bool
  | .builtIn .., .builtIn .. => true
  | .collection .., .collection .. => true
  | .row .., .row .. => true
  | .named .., .named .. => true
  | _, _ => false

/-- **Whether two findings agree**: they are of one kind, and what was found
is the same. Of descriptors the form counts and no more. -/
def Finding.agrees : Finding → Finding → Bool
  | timeZone z, timeZone z' => z == z'
  | keyword k, keyword k' => k == k'
  | builtIn n, builtIn n' => n == n'
  | kind k, kind k' => k == k'
  | userDefined n, userDefined n' => n == n'
  | precision p, precision p' => p == p'
  | scale s, scale s' => s == s'
  | fieldCount n, fieldCount n' => n == n'
  | fieldName x, fieldName x' => x == x'
  | nullability n, nullability n' => n == n'
  | descriptor d, descriptor d' => d.hasFormOf d'
  | _, _ => false

mutual

/-- **The findings of a descriptor**: its form, then what it holds. -/
def Descriptor.findings : Descriptor → List Finding
  | .builtIn n f s =>
    [.descriptor (.builtIn n f s), .builtIn n, .precision f.precision, .scale f.scale]
  | .collection e k s => .descriptor (.collection e k s) :: (e.findings ++ [.kind k])
  | .row fs s => .descriptor (.row fs s) :: .fieldCount fs.length :: DeclaredField.findings fs
  | .named n s => [.descriptor (.named n s), .userDefined n]

/-- **The findings of a declared type**: its time zone and its keyword, then
those of its descriptor. -/
def DeclaredType.findings : DeclaredType → List Finding
  | ⟨k, d, _, z, _, _⟩ => .timeZone z :: .keyword k :: d.findings

/-- The findings of the fields of a row: of each its name, those of its type
and its nullability. -/
def DeclaredField.findings : List DeclaredField → List Finding
  | [] => []
  | ⟨x, t⟩ :: fs =>
    .fieldName x.value :: (t.findings ++ .nullability t.nullability :: DeclaredField.findings fs)

end

/-- **Two lists of findings part** at a place up to which they agree. -/
structure PartAt (xs ys : List Finding) (i : Nat) (x y : Finding) : Prop where
  /-- The finding of the first list at the place. -/
  expected : xs[i]? = some x
  /-- The finding of the second list there. -/
  actual : ys[i]? = some y
  /-- The two do not agree. -/
  parted : x.agrees y = false
  /-- All findings before them do. -/
  before : ∀ j < i, ∃ u v, xs[j]? = some u ∧ ys[j]? = some v ∧ u.agrees v = true

/-! ## The first parting -/

/-- **The difference where two lists of findings part.** -/
def firstParting? : List Finding → List Finding → Option Difference
  | x :: xs, y :: ys => if x.agrees y then firstParting? xs ys else some ⟨x, y⟩
  | _, _ => none

/-- Where there is a first parting, the lists part. -/
theorem exists_partAt_of_firstParting? {xs ys : List Finding} {d : Difference}
    (h : firstParting? xs ys = some d) : ∃ i, PartAt xs ys i d.expected d.actual := by
  induction xs generalizing ys with
  | nil => cases h
  | cons x xs ih =>
    cases ys with
    | nil => cases h
    | cons y ys =>
      rw [firstParting?] at h
      cases hxy : x.agrees y with
      | false =>
        simp only [hxy, Bool.false_eq_true, if_false, Option.some.injEq] at h
        subst h
        exact ⟨0, rfl, rfl, hxy, fun j hj => absurd hj (Nat.not_lt_zero j)⟩
      | true =>
        rw [hxy, if_pos rfl] at h
        obtain ⟨i, hi⟩ := ih h
        refine ⟨i + 1, hi.expected, hi.actual, hi.parted, fun j hj => ?_⟩
        cases j with
        | zero => exact ⟨x, y, rfl, rfl, hxy⟩
        | succ j => exact hi.before j (Nat.lt_of_succ_lt_succ hj)

/-- Where there is none, the lists agree as far as both go. -/
theorem agrees_of_firstParting?_eq_none {xs ys : List Finding}
    (h : firstParting? xs ys = none) {i : Nat} {x y : Finding} (hx : xs[i]? = some x)
    (hy : ys[i]? = some y) : x.agrees y = true := by
  induction xs generalizing ys i with
  | nil => cases hx
  | cons u xs ih =>
    cases ys with
    | nil => cases hy
    | cons v ys =>
      rw [firstParting?] at h
      cases huv : u.agrees v with
      | false => simp [huv] at h
      | true =>
        rw [huv, if_pos rfl] at h
        cases i with
        | zero =>
          cases hx
          cases hy
          exact huv
        | succ i => exact ih h hx hy

/-- Findings agree the other way round, too. -/
theorem Finding.agrees_comm (x y : Finding) : x.agrees y = y.agrees x := by
  have hid (k k' : Option Identifier) : (k == k') = (k' == k) := by
    rw [Bool.eq_iff_iff, Identifier.option_beq_iff_unplaced, Identifier.option_beq_iff_unplaced]
    exact eq_comm
  have hname (n n' : QualifiedName) : (n == n') = (n' == n) := by
    rw [Bool.eq_iff_iff, QualifiedName.beq_iff_unplaced, QualifiedName.beq_iff_unplaced]
    exact eq_comm
  have hform (d d' : Descriptor) : d.hasFormOf d' = d'.hasFormOf d := by
    cases d <;> cases d' <;> rfl
  cases x with
  | keyword k =>
    cases y with
    | keyword k' => exact hid k k'
    | _ => rfl
  | userDefined n =>
    cases y with
    | userDefined n' => exact hname n n'
    | _ => rfl
  | descriptor d =>
    cases y with
    | descriptor d' => exact hform d d'
    | _ => rfl
  | _ => cases y <;> simp only [agrees, BEq.comm]

/-- **A difference seen from the other side.** -/
def Difference.swapped (d : Difference) : Difference := ⟨d.actual, d.expected⟩

/-- **The first parting is the same from either side.** -/
theorem firstParting?_comm (xs ys : List Finding) :
    firstParting? ys xs = (firstParting? xs ys).map Difference.swapped := by
  induction xs generalizing ys with
  | nil => cases ys <;> rfl
  | cons x xs ih =>
    cases ys with
    | nil => rfl
    | cons y ys =>
      rw [firstParting?, firstParting?, y.agrees_comm x, ih]
      cases x.agrees y <;> rfl

/-! ## The search follows the list -/

/-- A look that tells two findings apart as `==` tells what was found. -/
theorem firstParting?_cons {α : Type} [BEq α] {look : α → Finding}
    (h : ∀ a b, (look a).agrees (look b) = (a == b)) (a b : α) (xs ys : List Finding) :
    firstParting? (look a :: xs) (look b :: ys)
      = (differ look a b).or (firstParting? xs ys) := by
  rw [firstParting?, differ, h]
  cases a == b <;> rfl

mutual

/-- **Descriptors differ where their findings part**, whatever findings come
behind. -/
theorem Descriptor.firstParting?_append : ∀ (a b : Descriptor) (r r' : List Finding),
    firstParting? (a.findings ++ r) (b.findings ++ r')
      = (a.difference? b).or (firstParting? r r')
  | .builtIn n f s, b, r, r' => by
    cases b with
    | builtIn n' f' s' =>
      rw [Descriptor.difference?, Option.or_assoc, Option.or_assoc]
      show firstParting? (.builtIn n :: .precision f.precision :: .scale f.scale :: r)
        (.builtIn n' :: .precision f'.precision :: .scale f'.scale :: r') = _
      rw [firstParting?_cons fun _ _ => rfl, firstParting?_cons fun _ _ => rfl,
        firstParting?_cons fun _ _ => rfl]
    | _ => rfl
  | .collection e k s, b, r, r' => by
    cases b with
    | collection e' k' s' =>
      rw [Descriptor.difference?, Option.or_assoc]
      show firstParting? ((e.findings ++ [.kind k]) ++ r) ((e'.findings ++ [.kind k']) ++ r') = _
      rw [List.append_assoc, List.append_assoc, e.firstParting?_append e']
      congr 1
      exact firstParting?_cons (fun _ _ => rfl) k k' r r'
    | _ => rfl
  | .row fs s, b, r, r' => by
    cases b with
    | row gs s' =>
      rw [Descriptor.difference?, Option.or_assoc]
      show firstParting? (.fieldCount fs.length :: (DeclaredField.findings fs ++ r))
        (.fieldCount gs.length :: (DeclaredField.findings gs ++ r')) = _
      rw [firstParting?_cons fun _ _ => rfl]
      by_cases hl : fs.length = gs.length
      · rw [DeclaredField.firstParting?_append fs gs hl]
      · rw [differ_of_beq_eq_false (beq_eq_false_iff_ne.2 hl)]
        rfl
    | _ => rfl
  | .named n s, b, r, r' => by
    cases b with
    | named n' s' => exact firstParting?_cons (fun _ _ => rfl) n n' r r'
    | _ => rfl

/-- **Declared types differ where their findings part.** -/
theorem DeclaredType.firstParting?_append : ∀ (a b : DeclaredType) (r r' : List Finding),
    firstParting? (a.findings ++ r) (b.findings ++ r')
      = (a.difference? b).or (firstParting? r r')
  | ⟨k, d, _, z, _, _⟩, ⟨k', d', _, z', _, _⟩, r, r' => by
    rw [DeclaredType.difference?, Option.or_assoc, Option.or_assoc]
    show firstParting? (.timeZone z :: .keyword k :: (d.findings ++ r))
      (.timeZone z' :: .keyword k' :: (d'.findings ++ r')) = _
    rw [firstParting?_cons fun _ _ => rfl, firstParting?_cons fun _ _ => rfl,
      d.firstParting?_append d']

/-- Fields as many as others differ from them where their findings part. -/
theorem DeclaredField.firstParting?_append :
    ∀ (fs gs : List DeclaredField) (_ : fs.length = gs.length) (r r' : List Finding),
      firstParting? (DeclaredField.findings fs ++ r) (DeclaredField.findings gs ++ r')
        = (DeclaredField.difference? fs gs).or (firstParting? r r')
  | [], [], _, r, r' => rfl
  | [], _ :: _, hl, _, _ => by cases hl
  | _ :: _, [], hl, _, _ => by cases hl
  | ⟨x, t⟩ :: fs, ⟨y, u⟩ :: gs, hl, r, r' => by
    have hl : fs.length = gs.length := Nat.succ.inj hl
    rw [DeclaredField.difference?, Option.or_assoc, Option.or_assoc, Option.or_assoc,
      DeclaredField.findings, DeclaredField.findings]
    simp only [List.cons_append, List.append_assoc]
    rw [firstParting?_cons fun _ _ => rfl, t.firstParting?_append u,
      firstParting?_cons fun _ _ => rfl, DeclaredField.firstParting?_append fs gs hl]

end

/-- **The first difference is the first parting.** -/
theorem DeclaredType.difference?_eq_firstParting? (a b : DeclaredType) :
    a.difference? b = firstParting? a.findings b.findings := by
  have h := a.firstParting?_append b [] []
  rw [List.append_nil, List.append_nil] at h
  rw [h]
  exact (Option.or_none).symm

/-! ## One look, two findings -/

/-- What may be a difference is one in the same aspect of both types. -/
def OneAspect (d : Option Difference) : Prop :=
  ∀ e, d = some e → e.expected.aspect = e.actual.aspect

namespace OneAspect

theorem or {d e : Option Difference} (hd : OneAspect d) (he : OneAspect e) :
    OneAspect (d.or e) := by
  cases d with
  | none => exact he
  | some c => exact hd

/-- One look sees one aspect, whatever it finds. -/
theorem differ {α : Type} [BEq α] {look : α → Finding} {a b : α}
    (h : (look a).aspect = (look b).aspect) : OneAspect (differ look a b) := by
  unfold SqlTyping.differ
  cases a == b with
  | true => intro e he; cases he
  | false => intro e he; cases he; exact h

end OneAspect

mutual

theorem Descriptor.oneAspect_difference? : ∀ a b : Descriptor, OneAspect (a.difference? b)
  | .builtIn _ _ _, b => by
    cases b with
    | builtIn _ _ _ => exact .or (.differ rfl) (.or (.differ rfl) (.differ rfl))
    | _ => intro e he; cases he; rfl
  | .collection e _ _, b => by
    cases b with
    | collection e' _ _ => exact .or (e.oneAspect_difference? e') (.differ rfl)
    | _ => intro e he; cases he; rfl
  | .row fs _, b => by
    cases b with
    | row gs _ => exact .or (.differ rfl) (DeclaredField.oneAspect_difference? fs gs)
    | _ => intro e he; cases he; rfl
  | .named _ _, b => by
    cases b with
    | named _ _ => exact .differ rfl
    | _ => intro e he; cases he; rfl

/-- **Declared types differ in one aspect of both.** -/
theorem DeclaredType.oneAspect_difference? : ∀ a b : DeclaredType, OneAspect (a.difference? b)
  | ⟨_, d, _, _, _, _⟩, ⟨_, d', _, _, _, _⟩ =>
    .or (.differ rfl) (.or (.differ rfl) (d.oneAspect_difference? d'))

theorem DeclaredField.oneAspect_difference? :
    ∀ fs gs : List DeclaredField, OneAspect (DeclaredField.difference? fs gs)
  | [], _ => by intro e he; cases he
  | ⟨_, _⟩ :: _, [] => by intro e he; cases he
  | ⟨_, t⟩ :: fs, ⟨_, u⟩ :: gs =>
    .or (.differ rfl) (.or (t.oneAspect_difference? u)
      (.or (.differ rfl) (DeclaredField.oneAspect_difference? fs gs)))

end

/-! ## Reports -/

/-- Whether the keywords of declared types can be written as they are. -/
def keywordsWritable (ts : List DeclaredType) : Bool :=
  ts.all fun t => t.keyword.all (·.isWritable)

/-- **Whether every name in a declared type can be written**, those of the
collection keywords included. -/
def DeclaredType.isFullyWritable (t : DeclaredType) : Bool :=
  t.isWritable && keywordsWritable t.parts

@[simp] theorem keywordsWritable_cons {t : DeclaredType} {ts : List DeclaredType} :
    keywordsWritable (t :: ts) = true
      ↔ t.keyword.all (·.isWritable) = true ∧ keywordsWritable ts = true := by
  unfold keywordsWritable
  rw [List.all_cons, Bool.and_eq_true]

@[simp] theorem keywordsWritable_append {ts us : List DeclaredType} :
    keywordsWritable (ts ++ us) = true
      ↔ keywordsWritable ts = true ∧ keywordsWritable us = true := by
  unfold keywordsWritable
  rw [List.all_append, Bool.and_eq_true]

/-- **Findings that can all be written.** -/
def AllWritten (xs : List Finding) : Prop := ∀ x ∈ xs, ∃ text, x.text? = .ok text

@[simp] theorem allWritten_nil : AllWritten [] := fun _ h => by cases h

@[simp] theorem allWritten_cons {x : Finding} {xs : List Finding} :
    AllWritten (x :: xs) ↔ (∃ text, x.text? = .ok text) ∧ AllWritten xs := by
  unfold AllWritten
  exact List.forall_mem_cons

@[simp] theorem allWritten_append {xs ys : List Finding} :
    AllWritten (xs ++ ys) ↔ AllWritten xs ∧ AllWritten ys := by
  unfold AllWritten
  exact List.forall_mem_append

/-- A descriptor that can be written has a text. -/
theorem Descriptor.exists_text? {d : Descriptor} (h : d.isWritable = true) :
    ∃ text, (Finding.descriptor d).text? = .ok text := by
  refine ⟨(d.pieces .compact).text, ?_⟩
  show d.text? .compact = _
  rw [text?, h, if_pos rfl]

/-- A keyword that can be written, or none, has a text. -/
theorem exists_text?_keyword {k : Option Identifier} (h : k.all (·.isWritable) = true) :
    ∃ text, (Finding.keyword k).text? = .ok text := by
  cases k with
  | none => exact ⟨_, rfl⟩
  | some k =>
    refine ⟨k.pieces.text, ?_⟩
    show k.text? = _
    rw [Identifier.text?, show k.isWritable = true from h, if_pos rfl]

mutual

theorem Descriptor.allWritten_findings : ∀ d : Descriptor, d.isWritable = true →
    keywordsWritable d.parts = true → AllWritten d.findings
  | .builtIn n f s, hw, _ => by
    rw [Descriptor.findings]
    simp only [allWritten_cons, allWritten_nil, and_true]
    exact ⟨Descriptor.exists_text? hw, ⟨_, rfl⟩, ⟨_, rfl⟩, ⟨_, rfl⟩⟩
  | .collection e k s, hw, hk => by
    rw [Descriptor.findings]
    simp only [allWritten_cons, allWritten_append, allWritten_nil, and_true]
    exact ⟨Descriptor.exists_text? hw, e.allWritten_findings hw hk, ⟨_, rfl⟩⟩
  | .row fs s, hw, hk => by
    rw [Descriptor.findings]
    simp only [allWritten_cons]
    exact ⟨Descriptor.exists_text? hw, ⟨_, rfl⟩, DeclaredField.allWritten_findings fs hw hk⟩
  | .named n s, hw, _ => by
    rw [Descriptor.findings]
    simp only [allWritten_cons, allWritten_nil, and_true]
    refine ⟨Descriptor.exists_text? hw, n.pieces.text, ?_⟩
    show n.text? = _
    rw [QualifiedName.text?, show n.isWritable = true from hw, if_pos rfl]

/-- **All findings of a fully writable type can be written.** -/
theorem DeclaredType.allWritten_findings : ∀ t : DeclaredType, t.isWritable = true →
    keywordsWritable t.parts = true → AllWritten t.findings
  | ⟨k, d, b, z, n, s⟩, hw, hk => by
    obtain ⟨hk, hd⟩ := keywordsWritable_cons.1 hk
    rw [DeclaredType.findings]
    simp only [allWritten_cons]
    exact ⟨⟨_, rfl⟩, exists_text?_keyword hk, d.allWritten_findings hw hd⟩

theorem DeclaredField.allWritten_findings : ∀ fs : List DeclaredField,
    DeclaredField.areWritable fs = true → keywordsWritable (DeclaredField.parts fs) = true →
      AllWritten (DeclaredField.findings fs)
  | [], _, _ => allWritten_nil
  | ⟨x, t⟩ :: fs, hw, hk => by
    simp only [DeclaredField.areWritable, Bool.and_eq_true] at hw
    obtain ⟨⟨-, ht⟩, hfs⟩ := hw
    obtain ⟨hkt, hkfs⟩ := keywordsWritable_append.1 hk
    rw [DeclaredField.findings]
    simp only [allWritten_cons, allWritten_append]
    exact ⟨⟨_, rfl⟩, t.allWritten_findings ht hkt, ⟨_, rfl⟩,
      DeclaredField.allWritten_findings fs hfs hkfs⟩

end

/-- A difference between findings that can be written is reported from
either side, with the same aspect and the texts swapped. -/
theorem Difference.mismatch?_swapped {d : Difference} {expected actual : String}
    (ha : d.expected.aspect = d.actual.aspect) (he : d.expected.text? = .ok expected)
    (hac : d.actual.text? = .ok actual) :
    d.mismatch? = .ok ⟨d.expected.aspect, expected, actual⟩
      ∧ d.swapped.mismatch? = .ok ⟨d.expected.aspect, actual, expected⟩ := by
  constructor
  · rw [mismatch?, he, hac]
    rfl
  · rw [mismatch?, show d.swapped.expected = d.actual from rfl,
      show d.swapped.actual = d.expected from rfl, he, hac, ha]
    rfl

/-- **A mismatch is the first parting of two lists of findings.** Of two
declared types in which every name can be written, either none of the
findings part and there is nothing to report, or they part somewhere for the
first time and the report is of the two findings there: of their aspect,
which is one, and with their texts. Compared the other way round the types
have the same report, with the two texts swapped. -/
theorem DeclaredType.mismatch?_by_findings {a b : DeclaredType}
    (ha : a.isFullyWritable = true) (hb : b.isFullyWritable = true) :
    (a.mismatch? b = .ok none ∧ b.mismatch? a = .ok none
      ∧ ∀ (i : Nat) (x y : Finding), a.findings[i]? = some x → b.findings[i]? = some y →
        x.agrees y = true)
    ∨ ∃ m, a.mismatch? b = .ok (some m)
      ∧ b.mismatch? a = .ok (some ⟨m.aspect, m.actual, m.expected⟩)
      ∧ ∃ (i : Nat) (x y : Finding), PartAt a.findings b.findings i x y
        ∧ x.aspect = m.aspect ∧ y.aspect = m.aspect
        ∧ x.text? = .ok m.expected ∧ y.text? = .ok m.actual := by
  obtain ⟨haw, hak⟩ := Bool.and_eq_true_iff.1 ha
  obtain ⟨hbw, hbk⟩ := Bool.and_eq_true_iff.1 hb
  have hab := a.difference?_eq_firstParting? b
  have hba := b.difference?_eq_firstParting? a
  rw [firstParting?_comm a.findings b.findings, ← hab] at hba
  unfold mismatch?
  rw [hba]
  cases h : a.difference? b with
  | none =>
    refine .inl ⟨rfl, rfl, fun i x y hx hy => ?_⟩
    exact agrees_of_firstParting?_eq_none (hab.symm.trans h) hx hy
  | some d =>
    obtain ⟨i, hi⟩ := exists_partAt_of_firstParting? (hab.symm.trans h)
    -- both findings are among those of their types, so both have a text
    obtain ⟨expected, he⟩ := a.allWritten_findings haw hak _ (List.mem_of_getElem? hi.expected)
    obtain ⟨actual, hac⟩ := b.allWritten_findings hbw hbk _ (List.mem_of_getElem? hi.actual)
    have haspect := a.oneAspect_difference? b d h
    obtain ⟨hm, hs⟩ := Difference.mismatch?_swapped haspect he hac
    refine .inr ⟨_, congrArg (some <$> ·) hm, congrArg (some <$> ·) hs, i, _, _, hi, rfl, ?_⟩
    exact ⟨haspect.symm, he, hac⟩

/-- Of two arrays of rows whose fields differ in time zone and precision,
the time zone is reported, which comes first. -/
theorem DeclaredType.mismatch?_timeRows :
    (timeRows (some ⟨"UTC"⟩) 3).isFullyWritable = true
      ∧ (timeRows none 6).isFullyWritable = true
      ∧ ∃ m, (timeRows (some ⟨"UTC"⟩) 3).mismatch? (timeRows none 6) = .ok (some m)
        ∧ m = ⟨.timeZone, "UTC", "<none>"⟩
        ∧ (timeRows none 6).mismatch? (timeRows (some ⟨"UTC"⟩) 3)
          = .ok (some ⟨m.aspect, m.actual, m.expected⟩)
        ∧ ∃ i x y, PartAt (timeRows (some ⟨"UTC"⟩) 3).findings (timeRows none 6).findings i x y
          ∧ x.text? = .ok m.expected ∧ y.text? = .ok m.actual := by
  have ha : (timeRows (some ⟨"UTC"⟩) 3).isFullyWritable = true := rfl
  have hb : (timeRows none 6).isFullyWritable = true := rfl
  have hm : (timeRows (some ⟨"UTC"⟩) 3).mismatch? (timeRows none 6)
      = .ok (some ⟨.timeZone, "UTC", "<none>"⟩) := rfl
  refine ⟨ha, hb, ?_⟩
  obtain ⟨hnone, -, -⟩ | ⟨m, h, hr, i, x, y, hi, -, -, hx, hy⟩ := mismatch?_by_findings ha hb
  · cases hm.symm.trans hnone
  · refine ⟨m, h, ?_, hr, i, x, y, hi, hx, hy⟩
    exact Option.some.inj (Except.ok.inj (h.symm.trans hm))

end SqlTyping
