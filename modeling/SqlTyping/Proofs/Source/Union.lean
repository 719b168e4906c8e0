import Mathlib.Order.Bounds.Basic
import SqlTyping.Proofs.Source.Order
import SqlTyping.Source.Span

/-!
# Unions of spans

A span is **whole** if both of its ends are. One end may still be known and
the other not, and what makes a span unknown is that both are not. A union
takes the earlier start and the later stop on their own, so it has to be seen
that they are not both unknown when neither span is: either one of the stops
is known, and then so is the later one, or both starts are, and then so is the
earlier one (`Span.isUnknown_union`).

From there the laws of minimum and maximum carry over. Whole spans can be
united in any order and in any groups, and the union of a list starts with the
first and stops with the last of the spans that are not unknown
(`Span.unionAll_in_any_order`). An unknown start, being the least position, counts as
the first.
-/

namespace SqlTyping

namespace Span

/-- **Whether a span is whole**: each end is known or not known at all. -/
def isWhole (s : Span) : Bool := s.start.isWhole && s.stop.isWhole

variable {r s t : Span}

theorem isWhole_iff :
    s.isWhole = true ↔ s.start.isWhole = true ∧ s.stop.isWhole = true := by
  rw [isWhole, Bool.and_eq_true]

/-- A whole span of which nothing is known is the unknown one. -/
theorem eq_unknown (hs : s.isWhole = true) (h : s.isUnknown = true) : s = unknown := by
  obtain ⟨start, stop⟩ := s
  obtain ⟨hstart, hstop⟩ := isWhole_iff.1 hs
  rw [isUnknown, Bool.and_eq_true, Bool.not_eq_true', Bool.not_eq_true'] at h
  obtain rfl : start = .unknown := Position.eq_unknown hstart h.1
  obtain rfl : stop = .unknown := Position.eq_unknown hstop h.2
  rfl

/-! ## Two spans -/

theorem union_of_isUnknown (h : s.isUnknown = true) (t : Span) : s.union t = t := if_pos h

/-- **The union of two spans of which something is known.** -/
theorem union_of_known (hs : s.isUnknown = false) (ht : t.isUnknown = false) :
    s.union t = ⟨min s.start t.start, max s.stop t.stop⟩ := by
  rw [union, if_neg (ne_true_of_eq_false hs), if_neg (ne_true_of_eq_false ht),
    Position.earlier_eq_min, Position.later_eq_max]

/-- An unknown span adds nothing on the right. -/
theorem union_unknown (hs : s.isWhole = true) : s.union unknown = s := by
  cases h : s.isUnknown with
  | true => rw [union_of_isUnknown h, eq_unknown hs h]
  | false => rw [union, if_neg (ne_true_of_eq_false h), if_pos isUnknown_unknown]

theorem union_self (s : Span) : s.union s = s := by
  cases h : s.isUnknown with
  | true => exact union_of_isUnknown h s
  | false => rw [union_of_known h h, min_self, max_self]

theorem isWhole_union (hs : s.isWhole = true) (ht : t.isWhole = true) :
    (s.union t).isWhole = true := by
  unfold union
  split
  · exact ht
  split
  · exact hs
  obtain ⟨hstart, hstop⟩ := isWhole_iff.1 hs
  obtain ⟨htstart, htstop⟩ := isWhole_iff.1 ht
  exact isWhole_iff.2 ⟨Position.isWhole_min hstart htstart, Position.isWhole_max hstop htstop⟩

/-- **A union is unknown only if both spans are.** -/
theorem isUnknown_union (hs : s.isWhole = true) (ht : t.isWhole = true) :
    (s.union t).isUnknown = (s.isUnknown && t.isUnknown) := by
  cases hsu : s.isUnknown with
  | true => rw [union_of_isUnknown hsu, Bool.true_and]
  | false =>
    cases htu : t.isUnknown with
    | true =>
      rw [eq_unknown ht htu, union_unknown hs, hsu]
      rfl
    | false =>
      obtain ⟨hstart, hstop⟩ := isWhole_iff.1 hs
      obtain ⟨htstart, htstop⟩ := isWhole_iff.1 ht
      rw [union_of_known hsu htu, isUnknown, Position.isKnown_min hstart htstart,
        Position.isKnown_max hstop htstop]
      -- without a known stop both starts are known
      rw [isUnknown, Bool.and_eq_false_iff, Bool.not_eq_false', Bool.not_eq_false'] at hsu htu
      rcases hsu with h | h <;> rcases htu with h' | h' <;> simp [h, h']

/-- **The order of two spans does not matter.** -/
theorem union_comm (hs : s.isWhole = true) (ht : t.isWhole = true) :
    s.union t = t.union s := by
  cases hsu : s.isUnknown with
  | true => rw [eq_unknown hs hsu, unknown_union, union_unknown ht]
  | false =>
    cases htu : t.isUnknown with
    | true => rw [eq_unknown ht htu, unknown_union, union_unknown hs]
    | false => rw [union_of_known hsu htu, union_of_known htu hsu, min_comm, max_comm]

/-- **Nor does the grouping of three.** -/
theorem union_assoc (hr : r.isWhole = true) (hs : s.isWhole = true) (ht : t.isWhole = true) :
    (r.union s).union t = r.union (s.union t) := by
  cases hru : r.isUnknown with
  | true => rw [eq_unknown hr hru, unknown_union, unknown_union]
  | false =>
    cases hsu : s.isUnknown with
    | true => rw [eq_unknown hs hsu, union_unknown hr, unknown_union]
    | false =>
      cases htu : t.isUnknown with
      | true => rw [eq_unknown ht htu, union_unknown hs, union_unknown (isWhole_union hr hs)]
      | false =>
        have hrs : (r.union s).isUnknown = false := by
          rw [isUnknown_union hr hs, hru, Bool.false_and]
        have hst : (s.union t).isUnknown = false := by
          rw [isUnknown_union hs ht, hsu, Bool.false_and]
        rw [union_of_known hrs htu, union_of_known hru hst, union_of_known hru hsu,
          union_of_known hsu htu, min_assoc, max_assoc]

/-! ## Lists of spans -/

section Lists

variable {ss ts : List Span}

theorem isWhole_foldl (hs : s.isWhole = true) (h : ∀ t ∈ ss, t.isWhole = true) :
    (ss.foldl union s).isWhole = true := by
  induction ss generalizing s with
  | nil => exact hs
  | cons t ss ih =>
    obtain ⟨ht, hss⟩ := List.forall_mem_cons.1 h
    exact ih (isWhole_union hs ht) hss

theorem isWhole_unionAll (h : ∀ s ∈ ss, s.isWhole = true) : (unionAll ss).isWhole = true := by
  cases ss with
  | nil => rfl
  | cons s ss =>
    obtain ⟨hs, hss⟩ := List.forall_mem_cons.1 h
    exact isWhole_foldl hs hss

/-- A span in front can be left for last. -/
theorem foldl_union (hs : s.isWhole = true) (ht : t.isWhole = true)
    (h : ∀ u ∈ ss, u.isWhole = true) :
    ss.foldl union (s.union t) = s.union (ss.foldl union t) := by
  induction ss generalizing t with
  | nil => rfl
  | cons u ss ih =>
    obtain ⟨hu, hss⟩ := List.forall_mem_cons.1 h
    rw [List.foldl_cons, List.foldl_cons, union_assoc hs ht hu, ih (isWhole_union ht hu) hss]

/-- **The union of a list** is that of its first span and the rest. -/
theorem unionAll_cons (hs : s.isWhole = true) (h : ∀ t ∈ ss, t.isWhole = true) :
    unionAll (s :: ss) = s.union (unionAll ss) := by
  cases ss with
  | nil => exact (union_unknown hs).symm
  | cons t ss =>
    obtain ⟨ht, hss⟩ := List.forall_mem_cons.1 h
    exact foldl_union hs ht hss

theorem unionAll_append (hs : ∀ s ∈ ss, s.isWhole = true) (ht : ∀ t ∈ ts, t.isWhole = true) :
    unionAll (ss ++ ts) = (unionAll ss).union (unionAll ts) := by
  induction ss with
  | nil => rfl
  | cons s ss ih =>
    obtain ⟨hs, hss⟩ := List.forall_mem_cons.1 hs
    rw [List.cons_append, unionAll_cons hs (List.forall_mem_append.2 ⟨hss, ht⟩), ih hss,
      unionAll_cons hs hss, union_assoc hs (isWhole_unionAll hss) (isWhole_unionAll ht)]

/-- **A list may be united in groups.** -/
theorem unionAll_flatten {groups : List (List Span)}
    (h : ∀ s ∈ groups.flatten, s.isWhole = true) :
    unionAll (groups.map unionAll) = unionAll groups.flatten := by
  induction groups with
  | nil => rfl
  | cons g groups ih =>
    rw [List.flatten_cons, List.forall_mem_append] at h
    obtain ⟨hg, hgroups⟩ := h
    have hunions : ∀ u ∈ groups.map unionAll, u.isWhole = true := by
      rw [List.forall_mem_map]
      intro g' hg'
      exact isWhole_unionAll fun s hs => hgroups s (List.mem_flatten_of_mem hg' hs)
    rw [List.map_cons, List.flatten_cons, unionAll_cons (isWhole_unionAll hg) hunions,
      ih hgroups, unionAll_append hg hgroups]

/-- **A list may be united in any order.** -/
theorem unionAll_perm (hp : ss.Perm ts) (h : ∀ s ∈ ss, s.isWhole = true) :
    unionAll ss = unionAll ts := by
  induction hp with
  | nil => rfl
  | cons s hp ih =>
    obtain ⟨hs, hss⟩ := List.forall_mem_cons.1 h
    have hts := fun t ht => hss t (hp.mem_iff.2 ht)
    rw [unionAll_cons hs hss, unionAll_cons hs hts, ih hss]
  | swap s t ss =>
    obtain ⟨ht, hrest⟩ := List.forall_mem_cons.1 h
    obtain ⟨hs, hss⟩ := List.forall_mem_cons.1 hrest
    have hu := isWhole_unionAll hss
    rw [unionAll_cons ht (List.forall_mem_cons.2 ⟨hs, hss⟩), unionAll_cons hs hss,
      unionAll_cons hs (List.forall_mem_cons.2 ⟨ht, hss⟩), unionAll_cons ht hss,
      ← union_assoc ht hs hu, union_comm ht hs, union_assoc hs ht hu]
  | trans hp _ ih ih' => rw [ih h, ih' fun t ht => h t (hp.mem_iff.2 ht)]

/-- A union is unknown only if all of the list is. -/
theorem isUnknown_unionAll (h : ∀ s ∈ ss, s.isWhole = true) :
    (unionAll ss).isUnknown = ss.all isUnknown := by
  induction ss with
  | nil => rfl
  | cons s ss ih =>
    obtain ⟨hs, hss⟩ := List.forall_mem_cons.1 h
    rw [unionAll_cons hs hss, isUnknown_union hs (isWhole_unionAll hss), ih hss, List.all_cons]

/-- **The spans of a list of which something is known.** -/
def known (ss : List Span) : Set Span := {s | s ∈ ss ∧ s.isUnknown = false}

theorem known_cons_of_isUnknown (h : s.isUnknown = true) (ss : List Span) :
    known (s :: ss) = known ss := by
  ext t
  simp only [known, List.mem_cons, Set.mem_ofPred_eq]
  constructor
  · rintro ⟨rfl | ht, htu⟩
    · rw [h] at htu
      cases htu
    · exact ⟨ht, htu⟩
  · rintro ⟨ht, htu⟩
    exact ⟨.inr ht, htu⟩

theorem known_cons_of_known (h : s.isUnknown = false) (ss : List Span) :
    known (s :: ss) = insert s (known ss) := by
  ext t
  simp only [known, List.mem_cons, Set.mem_ofPred_eq, Set.mem_insert_iff]
  constructor
  · rintro ⟨rfl | ht, htu⟩
    · exact .inl rfl
    · exact .inr ⟨ht, htu⟩
  · rintro (rfl | ⟨ht, htu⟩)
    · exact ⟨.inl rfl, h⟩
    · exact ⟨.inr ht, htu⟩

theorem known_eq_empty (h : ss.all isUnknown = true) : known ss = ∅ := by
  ext t
  simp only [known, Set.mem_ofPred_eq, Set.mem_empty_iff_false, iff_false, not_and,
    Bool.not_eq_false]
  exact fun ht => List.all_eq_true.1 h t ht

/-- **The union of a list reaches from its first start to its last stop**, as
long as something is known of it. -/
theorem bounds_unionAll (h : ∀ s ∈ ss, s.isWhole = true) (hk : ss.all isUnknown = false) :
    IsLeast (start '' known ss) (unionAll ss).start
      ∧ IsGreatest (stop '' known ss) (unionAll ss).stop := by
  induction ss with
  | nil => cases hk
  | cons s ss ih =>
    obtain ⟨hs, hss⟩ := List.forall_mem_cons.1 h
    rw [unionAll_cons hs hss]
    have hrest : (unionAll ss).isUnknown = ss.all isUnknown := isUnknown_unionAll hss
    rw [List.all_cons] at hk
    cases hsu : s.isUnknown with
    | true =>
      rw [hsu, Bool.true_and] at hk
      rw [known_cons_of_isUnknown hsu, union_of_isUnknown hsu]
      exact ih hss hk
    | false =>
      rw [known_cons_of_known hsu]
      cases hall : ss.all isUnknown with
      | true =>
        rw [hall] at hrest
        rw [known_eq_empty hall, eq_unknown (isWhole_unionAll hss) hrest, union_unknown hs]
        simp only [insert_empty_eq, Set.image_singleton]
        exact ⟨isLeast_singleton, isGreatest_singleton⟩
      | false =>
        obtain ⟨hleast, hgreatest⟩ := ih hss hall
        rw [hall] at hrest
        rw [union_of_known hsu hrest, Set.image_insert_eq, Set.image_insert_eq]
        exact ⟨hleast.insert s.start, hgreatest.insert s.stop⟩

end Lists

/-- **Spans are united in any order and in any groups.** Of whole spans, the
union of two is whole again, it is unknown only if both are, and

* it is commutative, associative and idempotent, and the unknown span is
  neutral;
* that of a list is the same for every permutation of the list, and also when
  groups of neighbours are united first;
* that of a list is unknown exactly when all of the list is, and otherwise it
  reaches from the least start to the greatest stop of the spans that are not
  unknown. -/
theorem unionAll_in_any_order :
    (∀ r s t : Span, r.isWhole = true → s.isWhole = true → t.isWhole = true →
      s.union t = t.union s
        ∧ (r.union s).union t = r.union (s.union t)
        ∧ s.union s = s
        ∧ s.union unknown = s
        ∧ unknown.union s = s
        ∧ (s.union t).isWhole = true
        ∧ ((s.union t).isUnknown = true → s.isUnknown = true ∧ t.isUnknown = true))
    ∧ ∀ ss : List Span, (∀ s ∈ ss, s.isWhole = true) →
      (∀ ts : List Span, ss.Perm ts → unionAll ts = unionAll ss)
        ∧ (∀ groups : List (List Span), groups.flatten = ss →
          unionAll (groups.map unionAll) = unionAll ss)
        ∧ ((unionAll ss).isUnknown = true ↔ ∀ s ∈ ss, s.isUnknown = true)
        ∧ ((∃ s ∈ ss, s.isUnknown = false) →
          IsLeast (start '' known ss) (unionAll ss).start
            ∧ IsGreatest (stop '' known ss) (unionAll ss).stop) := by
  constructor
  · intro r s t hr hs ht
    refine ⟨union_comm hs ht, union_assoc hr hs ht, union_self s, union_unknown hs, rfl,
      isWhole_union hs ht, fun h => ?_⟩
    rwa [isUnknown_union hs ht, Bool.and_eq_true] at h
  · intro ss h
    refine ⟨fun ts hp => (unionAll_perm hp h).symm, ?_, ?_, ?_⟩
    · rintro groups rfl
      exact unionAll_flatten h
    · rw [isUnknown_unionAll h, List.all_eq_true]
    · rintro ⟨s, hs, hsu⟩
      exact bounds_unionAll h (List.all_eq_false.2 ⟨s, hs, ne_true_of_eq_false hsu⟩)

/-- Spans of which a start, nothing, both ends and a stop are known. -/
def halfKnown : List Span :=
  [⟨⟨3, 7⟩, .unknown⟩, unknown, ⟨⟨1, 3⟩, ⟨1, 9⟩⟩, ⟨.unknown, ⟨2, 1⟩⟩]

/-- Their union reaches from an unknown start to the second line, in reverse
and in two groups too. -/
theorem unionAll_halfKnown :
    (∀ s ∈ halfKnown, s.isWhole = true)
      ∧ (∃ s ∈ halfKnown, s.isUnknown = false)
      ∧ unionAll halfKnown.reverse = ⟨.unknown, ⟨2, 1⟩⟩
      ∧ unionAll ([halfKnown.take 2, halfKnown.drop 2].map unionAll) = ⟨.unknown, ⟨2, 1⟩⟩
      ∧ IsLeast (start '' known halfKnown) .unknown
      ∧ IsGreatest (stop '' known halfKnown) ⟨2, 1⟩ := by
  have hwhole : ∀ s ∈ halfKnown, s.isWhole = true := by decide
  have hknown : ∃ s ∈ halfKnown, s.isUnknown = false := by decide
  obtain ⟨hperm, hgroups, -, hbounds⟩ := unionAll_in_any_order.2 halfKnown hwhole
  obtain ⟨hleast, hgreatest⟩ := hbounds hknown
  exact ⟨hwhole, hknown, hperm _ (List.reverse_perm _).symm,
    hgroups [halfKnown.take 2, halfKnown.drop 2] rfl, hleast, hgreatest⟩

end Span

end SqlTyping
