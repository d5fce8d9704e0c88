import Mathlib.Data.List.Basic
import TestExclusions.Text.Split

/-! The lines of a text, one line feed at a time. -/
namespace TestExclusions.Text

/-- A line without the carriage return at its end. -/
def dropReturn (line : List Char) : List Char :=
  if line.getLast? = some '\r' then line.dropLast else line

@[simp] theorem dropReturn_nil : dropReturn [] = [] := rfl

theorem dropReturn_of_getLast? {line : List Char} (h : line.getLast? ≠ some '\r') :
    dropReturn line = line := by simp [dropReturn, h]

theorem dropReturn_append {line : List Char} (h : line.getLast? = some '\r') :
    dropReturn line ++ ['\r'] = line := by
  simp [dropReturn, h, List.dropLast_append_getLast? '\r' h]

theorem dropReturn_cons (c d : Char) (line : List Char) :
    dropReturn (c :: d :: line) = c :: dropReturn (d :: line) := by
  simp only [dropReturn, List.getLast?_cons_cons, List.dropLast_cons_cons]
  split <;> rfl

theorem dropMark_of_head? {cs : List Char} (h : cs.head? ≠ some '\ufeff') : dropMark cs = cs := by
  unfold dropMark
  split
  · exact absurd rfl h
  · rfl

@[simp] theorem lines_nil : lines [] = [] := by rw [lines]

@[simp] theorem lines_newline (rest : List Char) : lines ('\n' :: rest) = [] :: lines rest := by
  rw [lines]

@[simp] theorem lines_return_newline (rest : List Char) :
    lines ('\r' :: '\n' :: rest) = [] :: lines rest := by rw [lines]

theorem lines_cons {c : Char} {rest : List Char} (hline : c ≠ '\n')
    (hreturn : c = '\r' → rest.head? ≠ some '\n') :
    lines (c :: rest) = consFirst c (lines rest) := by
  rw [lines]
  · exact hline
  · rintro rest' rfl rfl
    exact hreturn rfl rfl

/-- A text without line feeds is one line. -/
theorem lines_of_not_mem {line : List Char} (h : '\n' ∉ line) (hne : line ≠ []) :
    lines line = [line] := by
  induction line with
  | nil => exact absurd rfl hne
  | cons c rest ih =>
    have hc : c ≠ '\n' := fun e => h (e ▸ List.mem_cons_self)
    have hrest : '\n' ∉ rest := fun m => h (List.mem_cons_of_mem c m)
    rw [lines_cons hc fun _ hhead => hrest (List.mem_of_mem_head? hhead)]
    cases rest with
    | nil => simp [consFirst]
    | cons d rest => rw [ih hrest (by simp)]; rfl

/-- A line ends at its line feed, and a carriage return before that is no part of it. -/
theorem lines_append_newline {line : List Char} (h : '\n' ∉ line) (rest : List Char) :
    lines (line ++ '\n' :: rest) = dropReturn line :: lines rest := by
  induction line with
  | nil => simp
  | cons c line ih =>
    have hc : c ≠ '\n' := fun e => h (e ▸ List.mem_cons_self)
    have hline : '\n' ∉ line := fun m => h (List.mem_cons_of_mem c m)
    cases line with
    | nil =>
      by_cases hr : c = '\r'
      · subst hr
        simp [dropReturn]
      · rw [List.singleton_append, lines_cons hc (fun e => absurd e hr), lines_newline]
        simp [dropReturn, hr, consFirst]
    | cons d line =>
      have hd : d ≠ '\n' := fun e => hline (e ▸ List.mem_cons_self)
      have hhead : (d :: line ++ '\n' :: rest).head? ≠ some '\n' := fun e => hd (Option.some.inj e)
      rw [List.cons_append, lines_cons hc fun _ => hhead, ih hline, dropReturn_cons]
      rfl

/-- Texts are built line by line: a property holds of all of them if it holds of those without
line feeds and goes over to a text with one more line in front. -/
theorem lines_induction {motive : List Char → Prop}
    (last : ∀ line, '\n' ∉ line → motive line)
    (line : ∀ line rest, '\n' ∉ line → motive rest → motive (line ++ '\n' :: rest))
    (text : List Char) : motive text := by
  have all : ∀ rest before, '\n' ∉ before → motive (before ++ rest) ∧ motive rest := by
    intro rest
    induction rest with
    | nil =>
      intro before hbefore
      exact ⟨by simpa using last before hbefore, last [] (by simp)⟩
    | cons c rest ih =>
      intro before hbefore
      by_cases hc : c = '\n'
      · subst hc
        have hrest : motive rest := (ih [] (by simp)).2
        exact ⟨line before rest hbefore hrest, line [] rest (by simp) hrest⟩
      · have hgrown := ih (before ++ [c]) (by simp [hbefore, Ne.symm hc])
        have hshort := ih [c] (by simpa using Ne.symm hc)
        exact ⟨by simpa using hgrown.1, by simpa using hshort.1⟩
  exact (all text [] (by simp)).2

/-- Texts that end their lines give their lines back. -/
theorem lines_flatMap (all : List (List Char)) (h : ∀ line ∈ all, '\n' ∉ line)
    (hreturn : ∀ line ∈ all, line.getLast? ≠ some '\r') :
    lines (all.flatMap fun line => line ++ ['\n']) = all := by
  induction all with
  | nil => simp
  | cons line all ih =>
    have hrest := ih (fun l hl => h l (List.mem_cons_of_mem _ hl))
      fun l hl => hreturn l (List.mem_cons_of_mem _ hl)
    rw [List.flatMap_cons, List.append_assoc, List.singleton_append,
      lines_append_newline (h line List.mem_cons_self), hrest,
      dropReturn_of_getLast? (hreturn line List.mem_cons_self)]

theorem newline_not_mem_lines (text : List Char) : ∀ line ∈ lines text, '\n' ∉ line := by
  induction text using lines_induction with
  | last line hline =>
    rcases eq_or_ne line [] with rfl | hne
    · simp
    · simpa [lines_of_not_mem hline hne] using hline
  | line line rest hline ih =>
    rw [lines_append_newline hline]
    refine List.forall_mem_cons.mpr ⟨fun hmem => hline ?_, ih⟩
    unfold dropReturn at hmem
    split at hmem
    · exact List.dropLast_subset _ hmem
    · exact hmem

/-- A text of one line, whether the line is ended or not. -/
theorem lines_of_line {line : List Char} (h : '\n' ∉ line) (hne : line ≠ [])
    (hreturn : line.getLast? ≠ some '\r') {ending : List Char}
    (hending : ending ∈ [[], ['\n'], ['\r', '\n']]) : lines (line ++ ending) = [line] := by
  simp only [List.mem_cons, List.not_mem_nil, or_false] at hending
  rcases hending with rfl | rfl | rfl
  · rw [List.append_nil, lines_of_not_mem h hne]
  · rw [lines_append_newline h, lines_nil, dropReturn_of_getLast? hreturn]
  · have hline : '\n' ∉ line ++ ['\r'] := by simpa using h
    rw [List.append_cons, lines_append_newline hline, lines_nil]
    simp [dropReturn]

/-! ## Texts behind each other -/

/-- Every line of a text is ended. -/
def Ended (text : List Char) : Prop := text = [] ∨ text.getLast? = some '\n'

theorem eq_nil_of_ended {line : List Char} (h : Ended line) (hline : '\n' ∉ line) : line = [] :=
  h.resolve_right fun hlast => hline (List.mem_of_getLast? hlast)

theorem ended_append_newline_iff {line rest : List Char} :
    Ended (line ++ '\n' :: rest) ↔ Ended rest := by
  cases rest with
  | nil => simp [Ended]
  | cons c rest => simp [Ended, List.getLast?_append]

/-- Behind a text whose lines are ended, those of another text follow. -/
theorem lines_append {front : List Char} (h : Ended front) (back : List Char) :
    lines (front ++ back) = lines front ++ lines back := by
  induction front using lines_induction with
  | last line hline =>
    obtain rfl := eq_nil_of_ended h hline
    simp
  | line line rest hline ih =>
    rw [List.append_assoc, List.cons_append, lines_append_newline hline, lines_append_newline hline,
      ih (ended_append_newline_iff.mp h), List.cons_append]

/-- As many lines are ended as there are line feeds. -/
theorem length_lines {text : List Char} (h : Ended text) :
    (lines text).length = text.count '\n' := by
  induction text using lines_induction with
  | last line hline =>
    obtain rfl := eq_nil_of_ended h hline
    simp
  | line line rest hline ih =>
    rw [lines_append_newline hline, List.length_cons, ih (ended_append_newline_iff.mp h),
      List.count_append, List.count_eq_zero_of_not_mem hline, List.count_cons_self]
    omega

end TestExclusions.Text
