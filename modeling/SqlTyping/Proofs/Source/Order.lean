import Mathlib.Data.Prod.Lex
import Mathlib.Order.MinMax
import SqlTyping.Source.Position

/-!
# The order of positions

Positions are read by line, and within a line by column, so they are ordered
as pairs are, and the earlier and the later of two positions are their minimum
and maximum (`Position.earlier_eq_min`, `Position.later_eq_max`).

A position is **whole** if both of its coordinates are known or both are zero.
Among whole positions the unknown one is the least, and the known ones are all
the others (`Position.isKnown_iff`). So the later of two is known as soon as
one of them is, and the earlier only if both are.
-/

namespace SqlTyping

namespace Position

/-! ## Reading order -/

/-- **What positions are ordered by**: the line, then the column. -/
def key (p : Position) : ℕ ×ₗ ℕ := toLex (p.line.toNat, p.column.toNat)

theorem key_injective : Function.Injective key := by
  intro p q h
  obtain ⟨hline, hcolumn⟩ := Prod.ext_iff.1 (toLex_inj.1 h)
  obtain ⟨l, c⟩ := p
  obtain ⟨m, d⟩ := q
  obtain rfl : l = m := UInt64.toNat_inj.1 hline
  obtain rfl : c = d := UInt64.toNat_inj.1 hcolumn
  rfl

/-- A coordinate is compared as a number. -/
theorem compare_toNat (m n : UInt64) : compare m n = compare m.toNat n.toNat := by
  show compareOfLessAndEq m n = compareOfLessAndEq m.toNat n.toNat
  simp only [compareOfLessAndEq, UInt64.lt_iff_toNat_lt, UInt64.toNat_inj]

theorem compare_key (p q : Position) : compare p q = compare p.key q.key := by
  show (compare p.line q.line).then (compare p.column q.column) = _
  rw [compare_toNat, compare_toNat]
  rfl

instance : Min Position := ⟨earlier⟩

instance : Max Position := ⟨later⟩

/-- The earlier position has the lesser key. -/
theorem key_min (p q : Position) : (min p q).key = min p.key q.key := by
  show (if compare p q = .gt then q else p).key = _
  rw [compare_key]
  split
  case isTrue h => rw [min_eq_right (compare_gt_iff_gt.1 h).le]
  case isFalse h => rw [min_eq_left (compare_le_iff_le.1 h)]

/-- The later position has the greater key. -/
theorem key_max (p q : Position) : (max p q).key = max p.key q.key := by
  show (if compare p q = .gt then p else q).key = _
  rw [compare_key]
  split
  case isTrue h => rw [max_eq_left (compare_gt_iff_gt.1 h).le]
  case isFalse h => rw [max_eq_right (compare_le_iff_le.1 h)]

/-- **Positions in reading order.** -/
instance : LinearOrder Position :=
  LinearOrder.liftWithOrd key key_injective key_max key_min compare_key

theorem earlier_eq_min (p q : Position) : p.earlier q = min p q := rfl

theorem later_eq_max (p q : Position) : p.later q = max p q := rfl

/-- A position comes no later than another if its line does, or if it is in
the same line and its column comes no later. -/
theorem le_iff {p q : Position} :
    p ≤ q ↔ p.line < q.line ∨ p.line = q.line ∧ p.column ≤ q.column := by
  show p.key ≤ q.key ↔ _
  rw [Prod.Lex.le_iff, UInt64.lt_iff_toNat_lt, UInt64.le_iff_toNat_le, ← UInt64.toNat_inj]
  rfl

/-! ## Whole positions -/

/-- **Whether a position is whole**: known, or not known at all. -/
def isWhole (p : Position) : Bool := p.isKnown || p == unknown

variable {p q : Position}

/-- Nothing is before the unknown position. -/
theorem unknown_le (p : Position) : unknown ≤ p := by
  rw [le_iff]
  have hline : (0 : UInt64) ≤ p.line := UInt64.le_iff_toNat_le.2 (Nat.zero_le _)
  have hcolumn : (0 : UInt64) ≤ p.column := UInt64.le_iff_toNat_le.2 (Nat.zero_le _)
  rcases UInt64.lt_or_eq_of_le hline with h | h
  · exact .inl h
  · exact .inr ⟨h, hcolumn⟩

/-- **The known positions are those behind the unknown one.** -/
theorem isKnown_iff (hp : p.isWhole = true) : p.isKnown = true ↔ unknown < p := by
  constructor
  · rintro hknown
    refine lt_of_le_of_ne (unknown_le p) ?_
    rintro rfl
    cases hknown
  · intro hlt
    rcases Bool.or_eq_true_iff.1 hp with hknown | hunknown
    · exact hknown
    · exact absurd (beq_iff_eq.1 hunknown).symm hlt.ne

/-- A whole position that is not known is the unknown one. -/
theorem eq_unknown (hp : p.isWhole = true) (h : p.isKnown = false) : p = unknown := by
  unfold isWhole at hp
  rw [h, Bool.false_or] at hp
  exact beq_iff_eq.1 hp

theorem isWhole_min (hp : p.isWhole = true) (hq : q.isWhole = true) :
    (min p q).isWhole = true := by
  rcases min_choice p q with h | h <;> rwa [h]

theorem isWhole_max (hp : p.isWhole = true) (hq : q.isWhole = true) :
    (max p q).isWhole = true := by
  rcases max_choice p q with h | h <;> rwa [h]

/-- The earlier of two positions is known if both are. -/
theorem isKnown_min (hp : p.isWhole = true) (hq : q.isWhole = true) :
    (min p q).isKnown = (p.isKnown && q.isKnown) := by
  rw [Bool.eq_iff_iff, Bool.and_eq_true, isKnown_iff (isWhole_min hp hq), isKnown_iff hp,
    isKnown_iff hq, lt_min_iff]

/-- The later of two positions is known if one of them is. -/
theorem isKnown_max (hp : p.isWhole = true) (hq : q.isWhole = true) :
    (max p q).isKnown = (p.isKnown || q.isKnown) := by
  rw [Bool.eq_iff_iff, Bool.or_eq_true, isKnown_iff (isWhole_max hp hq), isKnown_iff hp,
    isKnown_iff hq, lt_max_iff]

end Position

end SqlTyping
