import Mathlib.Data.List.Basic
import TestExclusions.Text.Split

/-! Where a text is split: at every occurrence of a separator, at the first one, which nothing in
front of it contains, or behind the longest front of characters of one class. -/
namespace TestExclusions.Text

section Separator
variable {α : Type} [DecidableEq α]

/-! ## Every occurrence -/

theorem splitAt_ne_nil (separator : α) (as : List α) : splitAt separator as ≠ [] := by
  induction as with
  | nil => simp [splitAt]
  | cons a rest ih =>
    simp only [splitAt]
    split
    · simp
    · cases h : splitAt separator rest with
      | nil => exact absurd h ih
      | cons piece more => simp [consFirst]

theorem splitAt_append (separator : α) (front back : List α) :
    splitAt separator (front ++ separator :: back) =
      splitAt separator front ++ splitAt separator back := by
  induction front with
  | nil => simp [splitAt]
  | cons a rest ih =>
    simp only [List.cons_append, splitAt]
    split
    · rw [ih, List.cons_append]
    · rw [ih]
      cases h : splitAt separator rest with
      | nil => exact absurd h (splitAt_ne_nil separator rest)
      | cons piece more => simp [consFirst]

theorem splitAt_of_not_mem {separator : α} {as : List α} (h : separator ∉ as) :
    splitAt separator as = [as] := by
  induction as with
  | nil => rfl
  | cons a rest ih =>
    obtain ⟨ha, hrest⟩ := not_or.mp (fun hmem => h (List.mem_cons.mpr hmem))
    rw [splitAt, if_neg (Ne.symm ha), ih hrest]
    rfl

theorem not_mem_of_mem_splitAt {separator : α} {as piece : List α}
    (h : piece ∈ splitAt separator as) : separator ∉ piece := by
  induction as generalizing piece with
  | nil =>
    obtain rfl : piece = [] := by simpa [splitAt] using h
    simp
  | cons a rest ih =>
    simp only [splitAt] at h
    split at h
    · rcases List.mem_cons.mp h with rfl | h
      · simp
      · exact ih h
    · rename_i ha
      cases hsplit : splitAt separator rest with
      | nil => exact absurd hsplit (splitAt_ne_nil separator rest)
      | cons first more =>
        rw [hsplit] at h ih
        rcases List.mem_cons.mp h with rfl | h
        · have hfirst := ih List.mem_cons_self
          simp only [List.mem_cons, not_or]
          exact ⟨Ne.symm ha, hfirst⟩
        · exact ih (List.mem_cons_of_mem _ h)

theorem intercalate_splitAt (separator : α) (as : List α) :
    List.intercalate [separator] (splitAt separator as) = as := by
  induction as with
  | nil => rfl
  | cons a rest ih =>
    simp only [splitAt]
    cases hsplit : splitAt separator rest with
    | nil => exact absurd hsplit (splitAt_ne_nil separator rest)
    | cons first more =>
      rw [hsplit] at ih
      split
      · rename_i ha
        rw [List.intercalate_cons_cons, ih, ha]
        rfl
      · cases more with
        | nil => simpa [consFirst] using ih
        | cons second others =>
          rw [List.intercalate_cons_cons] at ih
          simp [consFirst, List.intercalate_cons_cons, ← ih]

theorem splitAt_intercalate {separator : α} {pieces : List (List α)} (hne : pieces ≠ [])
    (h : ∀ piece ∈ pieces, separator ∉ piece) :
    splitAt separator (List.intercalate [separator] pieces) = pieces := by
  induction pieces with
  | nil => exact absurd rfl hne
  | cons piece rest ih =>
    obtain ⟨hpiece, hrest⟩ := List.forall_mem_cons.mp h
    cases rest with
    | nil => simpa using splitAt_of_not_mem hpiece
    | cons next more =>
      rw [List.intercalate_cons_cons, List.append_assoc, List.singleton_append, splitAt_append,
        splitAt_of_not_mem hpiece, ih (by simp) hrest]
      rfl

/-! ## The first occurrence -/

theorem splitFirst?_append {separator : α} {front : List α} (h : separator ∉ front)
    (back : List α) :
    splitFirst? separator (front ++ separator :: back) = some (front, back) := by
  induction front with
  | nil => simp [splitFirst?]
  | cons a rest ih =>
    obtain ⟨ha, hrest⟩ := not_or.mp (fun hmem => h (List.mem_cons.mpr hmem))
    simp [splitFirst?, Ne.symm ha, ih hrest]

theorem splitFirst?_eq_some_iff {separator : α} {as front back : List α} :
    splitFirst? separator as = some (front, back) ↔
      as = front ++ separator :: back ∧ separator ∉ front := by
  constructor
  · intro h
    induction as generalizing front with
    | nil => cases h
    | cons a rest ih =>
      rw [splitFirst?] at h
      split at h
      · rename_i ha
        cases h
        exact ⟨by rw [ha, List.nil_append], List.not_mem_nil⟩
      · rename_i ha
        obtain ⟨⟨more, back'⟩, hrest, hsplit⟩ := Option.map_eq_some_iff.mp h
        cases hsplit
        obtain ⟨rfl, hmore⟩ := ih hrest
        exact ⟨rfl, by simp [Ne.symm ha, hmore]⟩
  · rintro ⟨rfl, h⟩
    exact splitFirst?_append h back

theorem splitFirst?_eq_none_iff {separator : α} {as : List α} :
    splitFirst? separator as = none ↔ separator ∉ as := by
  induction as with
  | nil => simp [splitFirst?]
  | cons a rest ih =>
    by_cases ha : a = separator
    · simp [splitFirst?, ha]
    · simp [splitFirst?, ha, ih, Ne.symm ha]

end Separator

section Front
variable {α : Type} {p : α → Bool} {front rest : List α} (hfront : ∀ a ∈ front, p a = true)
  (hrest : ∀ a, rest.head? = some a → p a = false)
include hfront hrest

theorem takeWhile_append_of_head? : (front ++ rest).takeWhile p = front := by
  rw [List.takeWhile_append_of_pos hfront]
  cases rest with
  | nil => simp
  | cons a rest => simp [hrest a rfl]

theorem dropWhile_append_of_head? : (front ++ rest).dropWhile p = rest := by
  rw [List.dropWhile_append_of_pos hfront]
  cases rest with
  | nil => rfl
  | cons a rest => simp [hrest a rfl]

end Front
end TestExclusions.Text
