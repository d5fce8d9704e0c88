import Mathlib.Data.List.Forall2
import TestExclusions.Command.Audit
import TestExclusions.Proofs.Outcome
import TestExclusions.Proofs.Text.Blank
import TestExclusions.Proofs.Text.Lines
import TestExclusions.Proofs.Text.Split

/-! Lists of tests. The suite that a line names stands in front of the first number sign and is
trimmed, so that some suites are named by no list. -/
namespace TestExclusions.Command

/-- A suite that a line can name: it fits in front of a number sign, and is left as it is when it is
trimmed. -/
def Nameable (suite : String) : Prop :=
  '#' ∉ suite.toList ∧ '\n' ∉ suite.toList ∧ Text.trimBlanks suite.toList = suite.toList

instance (suite : String) : Decidable (Nameable suite) :=
  inferInstanceAs (Decidable (_ ∧ _))

theorem dropReturns_eq (line : List Char) : dropReturns line = line.rdropWhile (· = '\r') := rfl

theorem dropReturns_of_getLast? {line : List Char} (h : line.getLast? ≠ some '\r') :
    dropReturns line = line := by
  rw [dropReturns_eq, List.rdropWhile_eq_self_iff]
  intro hne
  simpa [List.getLast?_eq_some_getLast hne] using h

/-! ## Lines -/

theorem testOfLine?_eq_some_iff {line : List Char} {suite testId : String} :
    testOfLine? line = some ⟨suite, testId⟩ ↔ ∃ front, line = front ++ '#' :: testId.toList ∧
      '#' ∉ front ∧ Text.trimBlanks front = suite.toList ∧ suite ≠ "" ∧ testId ≠ "" := by
  unfold testOfLine?
  cases hsplit : Text.splitFirst? '#' line with
  | none =>
    have hnone := Text.splitFirst?_eq_none_iff.mp hsplit
    simp only [reduceCtorEq, false_iff]
    rintro ⟨front, rfl, -⟩
    simp at hnone
  | some split =>
    obtain ⟨front, back⟩ := split
    obtain ⟨rfl, hfront⟩ := Text.splitFirst?_eq_some_iff.mp hsplit
    constructor
    · intro h
      dsimp only at h
      split at h
      · cases h
      · rename_i hnonempty
        simp only [Bool.or_eq_true, List.isEmpty_iff, not_or] at hnonempty
        cases h
        refine ⟨front, by simp, hfront, by simp, ?_, ?_⟩
        · simpa [← String.toList_inj] using hnonempty.1
        · simpa [← String.toList_inj] using hnonempty.2
    · rintro ⟨front', hline, hfront', htrimmed, hsuite, htest⟩
      have hother := Text.splitFirst?_append hfront' testId.toList
      rw [← hline, hsplit] at hother
      cases hother
      simp [htrimmed, hsuite, htest]

/-- A line names suites that are nameable. -/
theorem nameable_of_testOfLine? {line : List Char} (hline : '\n' ∉ line) {test : TestName}
    (h : testOfLine? line = some test) : Nameable test.suite := by
  obtain ⟨front, rfl, hsign, hsuite, -, -⟩ := testOfLine?_eq_some_iff.mp h
  have hsubset := Text.trimBlanks_subset front
  rw [hsuite] at hsubset
  refine ⟨fun hmem => hsign (hsubset hmem), fun hmem => hline ?_, ?_⟩
  · exact List.mem_append_left _ (hsubset hmem)
  · rw [← hsuite, Text.trimBlanks_trimBlanks]

/-- A nameable suite and a test of it are named by the line that consists of them. -/
theorem testOfLine?_of_nameable {suite testId : String} (hsuite : Nameable suite)
    (hne : suite ≠ "") (htest : testId ≠ "") :
    testOfLine? (suite.toList ++ '#' :: testId.toList) = some ⟨suite, testId⟩ :=
  testOfLine?_eq_some_iff.mpr ⟨suite.toList, rfl, hsuite.1, hsuite.2.2, hne, htest⟩

/-! ## Lists -/

/-- The lines that are not blank name the tests, one each. -/
theorem readSeenLines_eq_ok_iff {number : Nat} {lines : List (List Char)} {tests : List TestName} :
    readSeenLines number lines = .ok tests ↔
      List.Forall₂ (fun line test => testOfLine? line = some test)
        ((lines.map dropReturns).filter fun line => !line.all Text.isBlank) tests := by
  induction lines generalizing number tests with
  | nil => simp [readSeenLines, eq_comm]
  | cons line rest ih =>
    rw [readSeenLines, List.map_cons]
    split
    · rename_i hblank
      rw [List.filter_cons_of_neg (by simpa using hblank), ih]
    · rename_i hblank
      rw [List.filter_cons_of_pos (by simpa using hblank), List.forall₂_cons_left_iff]
      cases htest : testOfLine? (dropReturns line) with
      | none => simp
      | some test =>
        simp only [Outcome.map_eq_ok_iff, ih, Option.some.injEq, exists_and_left, exists_eq_left',
          eq_comm (a := tests)]

/-- A list names no suite that is not nameable. -/
theorem nameable_of_readSeen {text : String} {tests : List TestName} (h : readSeen text = .ok tests)
    {test : TestName} (htest : test ∈ tests) : Nameable test.suite := by
  have htests := readSeenLines_eq_ok_iff.mp h
  obtain ⟨i, hi, rfl⟩ := List.getElem_of_mem htest
  have hnamed := htests.get (htests.length_eq ▸ hi) hi
  have hmem := List.mem_of_mem_filter (List.get_mem _ ⟨i, htests.length_eq ▸ hi⟩)
  obtain ⟨line, hline, hdropped⟩ := List.mem_map.mp hmem
  refine nameable_of_testOfLine? (fun hnewline => ?_) hnamed
  rw [← hdropped] at hnewline
  exact Text.newline_not_mem_lines _ line hline
    ((List.rdropWhile_prefix _ line).subset hnewline)

/-- A list of one line, which consists of a nameable suite and a test of it. -/
theorem readSeen_line {suite testId : String} (hsuite : Nameable suite) (hne : suite ≠ "")
    (htest : testId ≠ "") (hnewline : '\n' ∉ testId.toList)
    (hreturn : testId.toList.getLast? ≠ some '\r') {ending : String}
    (hending : ending ∈ ["", "\n", "\r\n"]) :
    readSeen (suite ++ "#" ++ testId ++ ending) = .ok [⟨suite, testId⟩] := by
  have hline : '\n' ∉ suite.toList ++ '#' :: testId.toList := by
    simpa using ⟨hsuite.2.1, hnewline⟩
  have hlast : (suite.toList ++ '#' :: testId.toList).getLast? ≠ some '\r' := by
    rw [List.append_cons, List.getLast?_append_of_ne_nil _ (by simpa using htest)]
    exact hreturn
  have hending : ending.toList ∈ [[], ['\n'], ['\r', '\n']] := List.mem_map_of_mem hending
  have hlines : Text.lines (suite ++ "#" ++ testId ++ ending).toList =
      [suite.toList ++ '#' :: testId.toList] := by
    rw [← Text.lines_of_line hline (by simp) hlast hending]
    simp
  rw [readSeen, hlines, readSeenLines_eq_ok_iff]
  have hblank : Text.isBlank '#' = false := by decide
  have htest := testOfLine?_of_nameable hsuite hne htest
  simp [dropReturns_of_getLast? hlast, hblank, htest]

end TestExclusions.Command
