import SqlTyping.Text.Pieces

/-!
# Facets

Some built-in types take numbers: `VARCHAR(10)` has a **precision** and
`DECIMAL(10, 2)` a precision and a **scale**. Declared facets, the
defaults and the limits of a dialect and the facets of a resolved type are
all of this one shape, either number present or not.
-/

namespace SqlTyping

/-- **A precision and a scale**, either of which may be absent. -/
structure Facets where
  /-- How many digits, characters or bytes. -/
  precision : Option UInt64
  /-- How many of the digits are behind the point. -/
  scale : Option UInt64
deriving DecidableEq

namespace Facets

/-- No facets at all. -/
def none : Facets := ⟨.none, .none⟩

/-- As much of a value as a limit lets through; where either is absent,
the value as it is. -/
def cap (value limit : Option UInt64) : Option UInt64 :=
  match value, limit with
  | some v, some m => if m < v then some m else some v
  | _, _ => value

/-- **Absent facets filled in** from defaults. -/
def orElse (given defaults : Facets) : Facets :=
  ⟨given.precision <|> defaults.precision, given.scale <|> defaults.scale⟩

/-- **Facets cut down to limits**, each on its own. -/
def capped (given limits : Facets) : Facets :=
  ⟨cap given.precision limits.precision, cap given.scale limits.scale⟩

/-- How facets are written. A scale is written behind a precision only. -/
def pieces : Facets → Pieces
  | ⟨some p, some s⟩ => ["(", Nat.repr p.toNat, ", ", Nat.repr s.toNat, ")"]
  | ⟨some p, .none⟩ => ["(", Nat.repr p.toNat, ")"]
  | ⟨.none, _⟩ => []

/-- Absent facets are not written. -/
@[simp] theorem pieces_none : none.pieces = [] := rfl

/-- A capped value does not exceed the limit. -/
theorem le_of_cap_eq_some {value limit : Option UInt64} {v m : UInt64}
    (hv : cap value limit = some v) (hm : limit = some m) : v ≤ m := by
  subst hm
  match value with
  | .none => simp [cap] at hv
  | some w =>
    simp only [cap] at hv
    split at hv
    · simp at hv; simp [hv]
    · rename_i h
      simp at hv
      subst hv
      exact UInt64.not_lt.1 h

/-- Capping twice caps once. -/
@[simp] theorem cap_cap (value limit : Option UInt64) :
    cap (cap value limit) limit = cap value limit := by
  match value, limit with
  | .none, _ => rfl
  | some _, .none => rfl
  | some v, some m =>
    by_cases h : m < v <;> simp [cap, h]

end Facets

end SqlTyping
