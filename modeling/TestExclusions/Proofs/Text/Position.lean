import TestExclusions.Proofs.Text.Lines

/-! Where the lines of a text stand, counted in line feeds. -/
namespace TestExclusions.Text

/-- A line and its number, counted from one: as many line feeds as lines come before it. It ends at the
next line feed, and a carriage return at its end does not count then, or it ends with the text. -/
inductive LineAt (text : List Char) (number : Nat) : List Char → Prop where
  | ended {front line back : List Char} (hfront : Ended front) (hline : '\n' ∉ line)
      (hnumber : number = front.count '\n' + 1) (htext : text = front ++ (line ++ '\n' :: back)) :
      LineAt text number (dropReturn line)
  | last {front line : List Char} (hfront : Ended front) (hline : '\n' ∉ line) (hne : line ≠ [])
      (hnumber : number = front.count '\n' + 1) (htext : text = front ++ line) :
      LineAt text number line

/-- A line in front of a text moves its lines by one. -/
theorem LineAt.behind {text line first : List Char} {number : Nat} (h : LineAt text number line)
    (hfirst : '\n' ∉ first) : LineAt (first ++ '\n' :: text) (number + 1) line := by
  have hcount : ∀ front : List Char,
      (first ++ '\n' :: front).count '\n' = front.count '\n' + 1 := by
    intro front
    rw [List.count_append, List.count_eq_zero_of_not_mem hfirst, List.count_cons_self]
    omega
  cases h with
  | @ended front line back hfront hline hnumber htext =>
    have hsplit : first ++ '\n' :: text = first ++ '\n' :: front ++ (line ++ '\n' :: back) := by
      simp [htext]
    exact .ended (ended_append_newline_iff.mpr hfront) hline (by rw [hcount, hnumber]) hsplit
  | @last front line hfront hline hne hnumber htext =>
    have hsplit : first ++ '\n' :: text = first ++ '\n' :: front ++ line := by simp [htext]
    exact .last (ended_append_newline_iff.mpr hfront) hline hne (by rw [hcount, hnumber]) hsplit

theorem lineAt_of_getElem? {text line : List Char} {index : Nat}
    (h : (lines text)[index]? = some line) : LineAt text (index + 1) line := by
  induction text using lines_induction generalizing index with
  | last only honly =>
    rcases eq_or_ne only [] with rfl | hne
    · simp at h
    · rw [lines_of_not_mem honly hne] at h
      obtain ⟨rfl, rfl⟩ : index = 0 ∧ only = line := by
        cases index with
        | zero => simpa using h
        | succ index => simp at h
      exact .last (.inl rfl) honly hne rfl rfl
  | line first rest hfirst ih =>
    rw [lines_append_newline hfirst] at h
    cases index with
    | zero =>
      obtain rfl : dropReturn first = line := by simpa using h
      exact .ended (.inl rfl) hfirst rfl rfl
    | succ index => exact (ih (by simpa using h)).behind hfirst

/-- The lines of a text are found at their numbers. -/
theorem lineAt_iff {text line : List Char} {number : Nat} : LineAt text number line ↔
    ∃ index, number = index + 1 ∧ (lines text)[index]? = some line := by
  constructor
  · intro h
    cases h with
    | @ended front line back hfront hline hnumber htext =>
      refine ⟨_, hnumber, ?_⟩
      rw [htext, lines_append hfront, lines_append_newline hline, ← length_lines hfront]
      simp
    | @last front line hfront hline hne hnumber htext =>
      refine ⟨_, hnumber, ?_⟩
      rw [htext, lines_append hfront, lines_of_not_mem hline hne, ← length_lines hfront]
      simp
  · rintro ⟨index, rfl, h⟩
    exact lineAt_of_getElem? h

end TestExclusions.Text
