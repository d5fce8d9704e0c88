import Mathlib.Data.List.Basic
import TestExclusions.Line.Symbol
import TestExclusions.Text.Classes

/-! White space is apart from the characters of words, so that a word ends where white space
begins. The tables are compared range by range. -/
namespace TestExclusions.Text

/-- No range of the one list overlaps a range of the other. -/
def Apart (a b : List (Nat × Nat)) : Prop := ∀ r ∈ a, ∀ s ∈ b, r.2 < s.1 ∨ s.2 < r.1

instance (a b : List (Nat × Nat)) : Decidable (Apart a b) :=
  inferInstanceAs (Decidable (∀ r ∈ a, ∀ s ∈ b, _))

theorem not_inRanges_of_apart {a b : List (Nat × Nat)} {code : Nat} (h : Apart a b)
    (hcode : inRanges a code) : inRanges b code = false := by
  obtain ⟨r, hr, hlow, hhigh⟩ := inRanges_iff.mp hcode
  apply Bool.eq_false_iff.mpr
  intro hb
  obtain ⟨s, hs, hslow, hshigh⟩ := inRanges_iff.mp hb
  rcases h r hr s hs with hrs | hsr <;> omega

theorem apart_blank_alphabetic : Apart blankRanges alphabeticRanges := by decide +kernel

theorem apart_blank_numeric : Apart blankRanges numericRanges := by decide +kernel

/-- White space below 128 lies below the digits and letters. -/
theorem toNat_le_of_isBlank_of_ascii {c : Char} (h : isBlank c) (hc : c.toNat < 128) :
    c.toNat ≤ 0x20 := by
  obtain ⟨r, hr, hlow, hhigh⟩ := inRanges_iff.mp h
  have hbound : ∀ r ∈ blankRanges, r.2 ≤ 0x20 ∨ 128 ≤ r.1 := by decide
  rcases hbound r hr with hb | hb <;> omega

theorem isAlphanumeric_of_isBlank {c : Char} (h : isBlank c) : isAlphanumeric c = false := by
  by_cases hc : c.toNat < 128
  · have hle := toNat_le_of_isBlank_of_ascii h hc
    rw [isAlphanumeric_of_ascii hc]
    apply Bool.eq_false_iff.mpr
    intro hword
    change ((decide ('A'.val ≤ c.val ∧ c.val ≤ 'Z'.val) || decide ('a'.val ≤ c.val) &&
      decide (c.val ≤ 'z'.val)) || decide ('0'.val ≤ c.val) && decide (c.val ≤ '9'.val)) = true
      at hword
    simp only [Bool.or_eq_true, Bool.and_eq_true, decide_eq_true_eq,
      UInt32.le_iff_toNat_le] at hword
    change ((65 ≤ c.toNat ∧ c.toNat ≤ 90) ∨ (97 ≤ c.toNat ∧ c.toNat ≤ 122)) ∨
      (48 ≤ c.toNat ∧ c.toNat ≤ 57) at hword
    omega
  · simp only [isAlphanumeric, isAlphabetic, isNumeric, hc, if_false, Bool.or_eq_false_iff]
    exact ⟨not_inRanges_of_apart apart_blank_alphabetic h,
      not_inRanges_of_apart apart_blank_numeric h⟩

theorem isWordChar_of_isBlank {c : Char} (h : isBlank c) : Line.isWordChar c = false := by
  have hne : c ≠ '_' := by rintro rfl; revert h; decide
  simp [Line.isWordChar, hne, isAlphanumeric_of_isBlank h]

/-- A text of white space only. -/
def Blank (cs : List Char) : Prop := ∀ c ∈ cs, isBlank c

@[simp] theorem blank_nil : Blank [] := by simp [Blank]

theorem blank_append {a b : List Char} : Blank (a ++ b) ↔ Blank a ∧ Blank b := by
  simp [Blank, or_imp, forall_and]

theorem dropBlanks_append {blanks cs : List Char} (h : Blank blanks) :
    dropBlanks (blanks ++ cs) = dropBlanks cs := by
  exact List.dropWhile_append_of_pos h

theorem dropBlanks_of_head? {cs : List Char} (h : ∀ c, cs.head? = some c → isBlank c = false) :
    dropBlanks cs = cs := by
  cases cs with
  | nil => rfl
  | cons c rest => exact dropBlanks_of_not_isBlank (h c rfl)

/-- White space that is dropped stands in front of what is kept. -/
theorem exists_blank_append (cs : List Char) :
    ∃ blanks, Blank blanks ∧ cs = blanks ++ dropBlanks cs :=
  ⟨cs.takeWhile isBlank, fun _ h => List.all_eq_true.mp List.all_takeWhile _ h,
    List.takeWhile_append_dropWhile.symm⟩

theorem head?_dropBlanks {cs : List Char} {c : Char} (h : (dropBlanks cs).head? = some c) :
    isBlank c = false := by
  have hnot := List.head?_dropWhile_not isBlank cs
  simp only [dropBlanks] at h
  simpa [h] using hnot

end TestExclusions.Text
