import SqlTyping.Proofs.Declared.Canonical

/-!
# Differences around a descriptor and within

A declared type has a time zone and a collection keyword around its
descriptor, and a report tells differences in these from those within the
descriptor (`Aspect.isOfDescriptor`). It goes by the aspect alone. Fields
of rows have time zones and keywords of their own, though, and these stand
within the descriptor of the whole.

So the report tells right where the difference was found, unless the first
difference is around the descriptor of a field
(`DeclaredType.isOfDescriptor_mismatch?_iff`): then it lies within the
descriptor of the whole and is reported as one around it.
-/

namespace SqlTyping

/-- **The same around the descriptor**: one time zone and one collection
keyword, or none on either side. -/
def DeclaredType.SameAround (a b : DeclaredType) : Prop :=
  a.timeZone = b.timeZone ∧ (a.keyword == b.keyword) = true

/-- **Two rows of one length compared as far as the types of two fields**:
there is no difference in the fields before them, nor in their names. -/
inductive DeclaredField.ComparedTo :
    List DeclaredField → List DeclaredField → DeclaredType → DeclaredType → Prop
  /-- The two fields are the first. -/
  | here {x y : Identifier} {t u : DeclaredType} {fs gs : List DeclaredField}
      (hx : x.value = y.value) (hl : fs.length = gs.length) :
      ComparedTo (⟨x, t⟩ :: fs) (⟨y, u⟩ :: gs) t u
  /-- The two fields come after two that do not differ. -/
  | there {f g : DeclaredField} {fs gs : List DeclaredField} {t u : DeclaredType}
      (hf : DeclaredField.canonical [f] = DeclaredField.canonical [g])
      (h : ComparedTo fs gs t u) : ComparedTo (f :: fs) (g :: gs) t u

/-- **Descriptors that part around a field**: the first difference between
them is in the time zone or the keyword of a field, at whatever depth. -/
inductive Descriptor.PartAroundField : Descriptor → Descriptor → Prop
  /-- The elements of two collections do. -/
  | inElement {e e' : Descriptor} {k k' : Collection} {s s' : Span}
      (h : PartAroundField e e') : PartAroundField (.collection e k s) (.collection e' k' s')
  /-- The first field to differ does so around its descriptor. -/
  | atField {fs gs : List DeclaredField} {t u : DeclaredType} {s s' : Span}
      (hc : DeclaredField.ComparedTo fs gs t u) (h : ¬ t.SameAround u) :
      PartAroundField (.row fs s) (.row gs s')
  /-- The descriptors of the first field to differ do. -/
  | inField {fs gs : List DeclaredField} {t u : DeclaredType} {s s' : Span}
      (hc : DeclaredField.ComparedTo fs gs t u) (ha : t.SameAround u)
      (h : PartAroundField t.descriptor u.descriptor) :
      PartAroundField (.row fs s) (.row gs s')

/-- The aspect that a difference is reported under. -/
def Difference.aspect (d : Difference) : Aspect := d.expected.aspect

section Looks

variable {α : Type} [BEq α] {look : α → Finding} {a b : α}

theorem differ_of_beq_eq_false (h : (a == b) = false) :
    differ look a b = some ⟨look a, look b⟩ := by
  simp [differ, h]

/-- A difference has the aspect of the look that shows it. -/
theorem aspect_of_differ {d : Difference} (h : differ look a b = some d) :
    d.aspect = (look a).aspect := by
  unfold differ at h
  split at h <;> cases h
  rfl

end Looks

namespace DeclaredType

variable {a b : DeclaredType}

/-- With the same around them, types differ where their descriptors do. -/
theorem difference?_of_sameAround (h : a.SameAround b) :
    a.difference? b = a.descriptor.difference? b.descriptor := by
  obtain ⟨k, d, bs, z, n, s⟩ := a
  obtain ⟨k', d', bs', z', n', s'⟩ := b
  obtain ⟨hz, hk⟩ := h
  rw [difference?, differ_eq_none_iff.2 (beq_iff_eq.2 hz), differ_eq_none_iff.2 hk]
  rfl

/-- Without it, the first difference is around the descriptors. -/
theorem difference?_of_not_sameAround (h : ¬ a.SameAround b) :
    ∃ d, a.difference? b = some d ∧ d.aspect.isOfDescriptor = false := by
  obtain ⟨k, d, bs, z, n, s⟩ := a
  obtain ⟨k', d', bs', z', n', s'⟩ := b
  rw [difference?]
  by_cases hz : z = z'
  · have hk : (k == k') = false := by
      rw [Bool.eq_false_iff]
      exact fun hk => h ⟨hz, hk⟩
    rw [differ_eq_none_iff.2 (beq_iff_eq.2 hz), differ_of_beq_eq_false hk]
    exact ⟨_, rfl, rfl⟩
  · rw [differ_of_beq_eq_false (beq_eq_false_iff_ne.2 hz)]
    exact ⟨_, rfl, rfl⟩

end DeclaredType

namespace DeclaredField.ComparedTo

variable {fs gs : List DeclaredField} {t u : DeclaredType}

theorem length_eq (h : ComparedTo fs gs t u) : fs.length = gs.length := by
  induction h with
  | here hx hl => exact congrArg (· + 1) hl
  | there hf h ih => exact congrArg (· + 1) ih

/-- The difference of the two types is the first between the fields. -/
theorem difference?_eq {d : Difference} (h : ComparedTo fs gs t u)
    (hd : t.difference? u = some d) : DeclaredField.difference? fs gs = some d := by
  induction h with
  | here hx hl =>
    rw [DeclaredField.difference?, differ_eq_none_iff.2 (beq_iff_eq.2 hx), hd]
    rfl
  | @there f g fs gs t u hf h ih =>
    obtain ⟨x, v⟩ := f
    obtain ⟨y, w⟩ := g
    obtain ⟨hx, hv, hn, -⟩ := DeclaredField.canonical_cons_eq_iff.1 hf
    rw [DeclaredField.difference?, differ_eq_none_iff.2 (beq_iff_eq.2 hx),
      (v.difference?_eq_none_iff w).2 hv, differ_eq_none_iff.2 (beq_iff_eq.2 hn)]
    exact ih hd

/-- **The difference of the two types is the first between the rows.** -/
theorem difference?_row {d : Difference} (h : ComparedTo fs gs t u)
    (hd : t.difference? u = some d) (s s' : Span) :
    (Descriptor.row fs s).difference? (.row gs s') = some d := by
  rw [Descriptor.difference?, differ_eq_none_iff.2 (beq_iff_eq.2 h.length_eq)]
  exact h.difference?_eq hd

end DeclaredField.ComparedTo

/-- Descriptors that part around a field differ in an aspect of no
descriptor. -/
theorem Descriptor.PartAroundField.exists_difference? {a b : Descriptor}
    (h : a.PartAroundField b) :
    ∃ d, a.difference? b = some d ∧ d.aspect.isOfDescriptor = false := by
  induction h with
  | inElement h ih =>
    obtain ⟨d, hd, ha⟩ := ih
    refine ⟨d, ?_, ha⟩
    rw [Descriptor.difference?, hd]
    rfl
  | atField hc h =>
    obtain ⟨d, hd, ha⟩ := DeclaredType.difference?_of_not_sameAround h
    exact ⟨d, hc.difference?_row hd _ _, ha⟩
  | inField hc hs h ih =>
    obtain ⟨d, hd, ha⟩ := ih
    have ht := DeclaredType.difference?_of_sameAround hs
    exact ⟨d, hc.difference?_row (ht.trans hd) _ _, ha⟩

mutual

/-- Descriptors that differ in an aspect of no descriptor part around a
field. -/
theorem Descriptor.partAroundField_of_difference? :
    ∀ {a b : Descriptor} {d : Difference}, a.difference? b = some d →
      d.aspect.isOfDescriptor = false → a.PartAroundField b
  | .builtIn n f _, b, d, h, ha => by
    cases b with
    | builtIn n' f' _ =>
      simp only [Descriptor.difference?, Option.or_eq_some_iff] at h
      rcases h with h | ⟨-, h | ⟨-, h⟩⟩ <;> rw [aspect_of_differ h] at ha <;> cases ha
    | _ => cases h; cases ha
  | .collection e k _, b, d, h, ha => by
    cases b with
    | collection e' k' _ =>
      simp only [Descriptor.difference?, Option.or_eq_some_iff] at h
      rcases h with he | ⟨-, hk⟩
      · exact .inElement (Descriptor.partAroundField_of_difference? he ha)
      · rw [aspect_of_differ hk] at ha; cases ha
    | _ => cases h; cases ha
  | .row fs _, b, d, h, ha => by
    cases b with
    | row gs _ =>
      simp only [Descriptor.difference?, Option.or_eq_some_iff] at h
      rcases h with hl | ⟨hl, hfs⟩
      · rw [aspect_of_differ hl] at ha; cases ha
      · have hl := beq_iff_eq.1 (differ_eq_none_iff.1 hl)
        obtain ⟨t, u, hc, hd⟩ := DeclaredField.comparedTo_of_difference? hl hfs ha
        by_cases hs : t.SameAround u
        · exact .inField hc hs (hd hs)
        · exact .atField hc hs
    | _ => cases h; cases ha
  | .named n _, b, d, h, ha => by
    cases b with
    | named n' _ => rw [aspect_of_differ h] at ha; cases ha
    | _ => cases h; cases ha

/-- Types that do so differ around their descriptors, or these part around
a field. -/
theorem DeclaredType.partAroundField_of_difference? :
    ∀ {a b : DeclaredType} {d : Difference}, a.difference? b = some d →
      d.aspect.isOfDescriptor = false → a.SameAround b →
        a.descriptor.PartAroundField b.descriptor
  | ⟨_, _, _, _, _, _⟩, _, _, h, ha, hs => by
    rw [DeclaredType.difference?_of_sameAround hs] at h
    exact Descriptor.partAroundField_of_difference? h ha

theorem DeclaredField.comparedTo_of_difference? :
    ∀ {fs gs : List DeclaredField} {d : Difference}, fs.length = gs.length →
      DeclaredField.difference? fs gs = some d → d.aspect.isOfDescriptor = false →
        ∃ t u, DeclaredField.ComparedTo fs gs t u
          ∧ (t.SameAround u → t.descriptor.PartAroundField u.descriptor)
  | [], _, _, _, h, _ => by simp [DeclaredField.difference?] at h
  | ⟨x, t⟩ :: fs, gs, d, hl, h, ha => by
    cases gs with
    | nil => cases hl
    | cons g gs =>
      obtain ⟨y, u⟩ := g
      have hl : fs.length = gs.length := Nat.succ.inj hl
      simp only [DeclaredField.difference?, Option.or_eq_some_iff] at h
      -- of the four looks at a field, only that at its type can be the one
      rcases h with hx | ⟨hx, ht | ⟨ht, hn | ⟨hn, hfs⟩⟩⟩
      · rw [aspect_of_differ hx] at ha; cases ha
      · have hx := beq_iff_eq.1 (differ_eq_none_iff.1 hx)
        exact ⟨t, u, .here hx hl, DeclaredType.partAroundField_of_difference? ht ha⟩
      · rw [aspect_of_differ hn] at ha; cases ha
      · obtain ⟨v, w, hc, hd⟩ := DeclaredField.comparedTo_of_difference? hl hfs ha
        refine ⟨v, w, .there ?_ hc, hd⟩
        rw [DeclaredField.canonical_cons_eq_iff]
        exact ⟨beq_iff_eq.1 (differ_eq_none_iff.1 hx), (t.difference?_eq_none_iff u).1 ht,
          beq_iff_eq.1 (differ_eq_none_iff.1 hn), rfl⟩

end

/-- **Descriptors part around a field exactly when their first difference
is in an aspect of no descriptor.** -/
theorem Descriptor.partAroundField_iff {a b : Descriptor} :
    a.PartAroundField b
      ↔ ∃ d, a.difference? b = some d ∧ d.aspect.isOfDescriptor = false :=
  ⟨fun h => h.exists_difference?, fun ⟨_, h, ha⟩ => partAroundField_of_difference? h ha⟩

/-- A report is of a difference and has its aspect. -/
theorem exists_difference_of_reportOf? {r : Option Difference} {m : Mismatch}
    (h : reportOf? r = .ok (some m)) : ∃ d, r = some d ∧ m.aspect = d.aspect := by
  cases r with
  | none => cases h
  | some d =>
    refine ⟨d, rfl, ?_⟩
    simp only [reportOf?, Difference.mismatch?, bind, Except.bind] at h
    cases he : d.expected.text? with
    | error e => rw [he] at h; cases h
    | ok expected =>
      cases ha : d.actual.text? with
      | error e => rw [he, ha] at h; cases h
      | ok actual => rw [he, ha] at h; cases h; rfl

/-- **A report tells where the difference is unless it is around a field.**
A mismatch is reported as one around the descriptors exactly when the two
types differ there, and as one of the descriptors exactly when they do not,
but for types that are the same around descriptors that part around a
field. -/
theorem DeclaredType.isOfDescriptor_mismatch?_iff {a b : DeclaredType} {m : Mismatch}
    (h : a.mismatch? b = .ok (some m)) :
    ((m.aspect.isOfDescriptor = false ↔ ¬ a.SameAround b)
        ∧ (m.aspect.isOfDescriptor = true ↔ a.SameAround b))
      ↔ ¬ (a.SameAround b ∧ a.descriptor.PartAroundField b.descriptor) := by
  obtain ⟨d, hd, hm⟩ := exists_difference_of_reportOf? h
  rw [hm]
  by_cases hs : a.SameAround b
  · rw [difference?_of_sameAround hs] at hd
    have hp : a.descriptor.PartAroundField b.descriptor ↔ d.aspect.isOfDescriptor = false := by
      rw [Descriptor.partAroundField_iff, hd]
      simp
    rw [hp]
    cases d.aspect.isOfDescriptor <;> simp [hs]
  · obtain ⟨d', hd', ha⟩ := difference?_of_not_sameAround hs
    have hd : d' = d := Option.some.inj (hd'.symm.trans hd)
    rw [hd] at ha
    simp [hs, ha]

/-- The declaration `ROW(t TIME(p)) ARRAY`, the field in a time zone. -/
def DeclaredType.timeRows (z : Option TimeZone) (p : UInt64) : DeclaredType :=
  let time : Descriptor := .builtIn .time ⟨some p, none⟩ .unknown
  ofKind .array (.row [⟨.bare "t", zoned time z .unknown⟩] .unknown)

/-- A difference in the precision of a field is reported as one of the
descriptors, where it is. -/
theorem DeclaredType.isOfDescriptor_timeRows_precision :
    ∃ m, (timeRows (some ⟨"UTC"⟩) 3).mismatch? (timeRows (some ⟨"UTC"⟩) 6) = .ok (some m)
      ∧ (timeRows (some ⟨"UTC"⟩) 3).SameAround (timeRows (some ⟨"UTC"⟩) 6)
      ∧ m.aspect.isOfDescriptor = true := by
  have h : (timeRows (some ⟨"UTC"⟩) 3).mismatch? (timeRows (some ⟨"UTC"⟩) 6)
      = .ok (some ⟨.precision, "3", "6"⟩) := rfl
  have hs : (timeRows (some ⟨"UTC"⟩) 3).SameAround (timeRows (some ⟨"UTC"⟩) 6) := ⟨rfl, rfl⟩
  have hp : ¬ (timeRows (some ⟨"UTC"⟩) 3).descriptor.PartAroundField
      (timeRows (some ⟨"UTC"⟩) 6).descriptor := by
    rw [Descriptor.partAroundField_iff]
    rintro ⟨d, hd, ha⟩
    cases hd
    cases ha
  have hr := (isOfDescriptor_mismatch?_iff h).2 fun hsp => hp hsp.2
  exact ⟨_, h, hs, hr.2.2 hs⟩

/-- **A difference in the time zone of a field is not reported as one of
the descriptors**, although the two types are the same around them. -/
theorem DeclaredType.not_isOfDescriptor_timeRows_timeZone :
    ¬ ∀ (a b : DeclaredType) (m : Mismatch), a.isWritable = true → b.isWritable = true →
      a.mismatch? b = .ok (some m) →
        (m.aspect.isOfDescriptor = false ↔ ¬ a.SameAround b)
          ∧ (m.aspect.isOfDescriptor = true ↔ a.SameAround b) := by
  intro h
  have hm : (timeRows (some ⟨"UTC"⟩) 3).mismatch? (timeRows none 3)
      = .ok (some ⟨.timeZone, "UTC", "<none>"⟩) := rfl
  have hr := h _ _ _ rfl rfl hm
  exact absurd (hr.2.2 ⟨rfl, rfl⟩) (by decide)

end SqlTyping
