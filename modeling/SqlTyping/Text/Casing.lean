/-!
# Text up to the case of ASCII letters

Keywords are read in any case, and the case that counts is that of the
letters `a`–`z` alone: `ß` is not `SS`, and the dotless `ı` is no `I`.
-/

namespace SqlTyping

/-- The characters with `a`–`z` made capital. -/
def foldCase (cs : List Char) : List Char := cs.map Char.toUpper

/-- **Equality up to the case of ASCII letters.** -/
def sameKeyword (s t : String) : Bool := foldCase s.toList == foldCase t.toList

/-- Two texts are the same keyword exactly when their capitals agree. -/
theorem sameKeyword_iff {s t : String} :
    sameKeyword s t = true ↔ foldCase s.toList = foldCase t.toList := by
  simp [sameKeyword]

/-- A character is its own capital unless it is one of `a`–`z`, and then its
capital is one of `A`–`Z`. -/
theorem toUpper_cases (c : Char) :
    c.toUpper = c ∨ (97 ≤ c.toNat ∧ c.toNat ≤ 122 ∧ c.toUpper.toNat = c.toNat - 32) := by
  by_cases h : 'a'.val ≤ c.val ∧ c.val ≤ 'z'.val
  · have hle : 97 ≤ c.toNat := UInt32.le_iff_toNat_le.1 h.1
    have hge : c.toNat ≤ 122 := UInt32.le_iff_toNat_le.1 h.2
    refine .inr ⟨hle, hge, ?_⟩
    rw [show c.toUpper = _ from dif_pos h]
    show (c.val + 4294967264).toNat = _
    rw [UInt32.toNat_add]
    show (c.toNat + 4294967264) % 4294967296 = _
    omega
  · exact .inl (dif_neg h)

/-- A capital letter has itself for a capital. -/
theorem toUpper_toUpper (c : Char) : c.toUpper.toUpper = c.toUpper := by
  rcases toUpper_cases c with hc | ⟨hle, hge, hc⟩
  · rw [hc, hc]
  · rcases toUpper_cases c.toUpper with hup | ⟨hle', -, -⟩
    · exact hup
    · omega

/-- Capitals stay as they are. -/
@[simp] theorem foldCase_foldCase (cs : List Char) :
    foldCase (foldCase cs) = foldCase cs := by
  unfold foldCase
  rw [List.map_map]
  exact List.map_congr_left fun c _ => toUpper_toUpper c

/-- Every text is the same keyword as itself. -/
@[simp] theorem sameKeyword_self (s : String) : sameKeyword s s = true := by
  simp [sameKeyword]

end SqlTyping
