import TestExclusions.Proofs.Line.RoundTrip

/-! Adding a line to a text: the records that stand there keep their lines, and the new one comes
behind them. -/
namespace TestExclusions.Line
open Grammar

/-! ## A carriage return at the end of a line -/

theorem silent_concat_return_iff {line : List Char} : Silent (line ++ ['\r']) ↔ Silent line := by
  have hreturn : (['\r'] : List Char).find? (fun c => !Text.isBlank c) = none := by decide
  simp [Silent, List.find?_append, hreturn]

theorem blank_of_concat {blanks : List Char} {c : Char} (h : Text.Blank (blanks ++ [c])) :
    Text.Blank blanks := (Text.blank_append.mp h).1

theorem blank_concat_return {blanks : List Char} (h : Text.Blank blanks) :
    Text.Blank (blanks ++ ['\r']) := by
  refine Text.blank_append.mpr ⟨h, fun c hc => ?_⟩
  rw [List.mem_singleton.mp hc]
  decide

/-- What follows a reason can lose a carriage return at its end. -/
theorem rest_of_concat_return {opening closing g₄ g₅ tail rest : List Char}
    (hframe : Frame opening closing) (h₄ : Text.Blank g₄) (h₅ : Text.Blank g₅) (htail : Tail tail)
    (h : g₄ ++ (closing ++ (g₅ ++ tail)) = rest ++ ['\r']) :
    ∃ g₄' g₅' tail', Text.Blank g₄' ∧ Text.Blank g₅' ∧ Tail tail' ∧
      rest = g₄' ++ (closing ++ (g₅' ++ tail')) := by
  rcases List.eq_nil_or_concat' tail with rfl | ⟨tail', c, rfl⟩
  · rcases List.eq_nil_or_concat' g₅ with rfl | ⟨g₅', c, rfl⟩
    · rcases hframe.closing with rfl | rfl
      · have hg₄ : g₄ = rest ++ ['\r'] := by simpa using h
        subst hg₄
        exact ⟨rest, [], [], blank_of_concat h₄, by simp, .inl rfl, by simp⟩
      · have hlast := congrArg List.getLast? h
        simp at hlast
    · have hsplit : (g₄ ++ (closing ++ g₅')) ++ [c] = rest ++ ['\r'] := by simpa using h
      obtain ⟨rfl, -⟩ := List.append_inj' hsplit rfl
      exact ⟨g₄, g₅', [], h₄, blank_of_concat h₅, .inl rfl, by simp⟩
  · have hsplit : (g₄ ++ (closing ++ (g₅ ++ tail'))) ++ [c] = rest ++ ['\r'] := by simpa using h
    obtain ⟨rfl, hc⟩ := List.append_inj' hsplit rfl
    refine ⟨g₄, g₅, tail', h₄, h₅, ?_, rfl⟩
    rcases htail with hnil | hhash
    · simp at hnil
    · cases tail' with
      | nil => simp_all
      | cons d tail' => exact .inr hhash

theorem declaration_of_concat_return {testId reason line : List Char}
    (h : Declaration testId reason (line ++ ['\r'])) : Declaration testId reason line := by
  generalize hline : line ++ ['\r'] = whole at h
  cases h with
  | @line lead opening idText reasonText closing tail g₁ g₂ g₃ g₄ g₅ hlead hframe h₁ hid h₂ h₃
      hreason h₄ h₅ htail =>
    obtain ⟨quote, body, rfl⟩ := hreason.exists_quote
    -- The carriage return stands behind the quote that closes the reason.
    have hassoc : line ++ ['\r'] = (lead ++ (keyword ++ (opening ++ (g₁ ++ (idText ++ (g₂ ++
        (',' :: (g₃ ++ (quote.char :: body))))))))) ++ [quote.char] ++
        (g₄ ++ (closing ++ (g₅ ++ tail))) := by
      rw [hline]
      simp
    rcases List.eq_nil_or_concat' (g₄ ++ (closing ++ (g₅ ++ tail))) with hnil | ⟨rest, c, hrest⟩
    · rw [hnil, List.append_nil] at hassoc
      have hquote := List.singleton_inj.mp (List.append_inj' hassoc rfl).2
      cases quote <;> exact absurd hquote (by decide)
    · rw [hrest, ← List.append_assoc] at hassoc
      obtain ⟨hkept, hc⟩ := List.append_inj' hassoc rfl
      cases List.singleton_inj.mp hc
      obtain ⟨g₄', g₅', tail', h₄', h₅', htail', rfl⟩ :=
        rest_of_concat_return hframe h₄ h₅ htail hrest
      have hdeclared := Declaration.line hlead hframe h₁ hid h₂ h₃ hreason h₄' h₅' htail'
      rw [hkept]
      simpa using hdeclared

/-- Behind a declaration a carriage return is white space, or part of the comment. -/
theorem declaration_concat_return {testId reason line : List Char}
    (h : Declaration testId reason line) : Declaration testId reason (line ++ ['\r']) := by
  cases h with
  | @line lead opening idText reasonText closing tail g₁ g₂ g₃ g₄ g₅ hlead hframe h₁ hid h₂ h₃
      hreason h₄ h₅ htail =>
    cases htail with
    | inl hnil =>
      subst hnil
      have hgrown := Declaration.line hlead hframe h₁ hid h₂ h₃ hreason h₄
        (blank_concat_return h₅) (.inl rfl)
      simpa using hgrown
    | inr hhash =>
      have htail' : Tail (tail ++ ['\r']) := .inr (by rw [List.head?_append, hhash]; rfl)
      have hgrown := Declaration.line hlead hframe h₁ hid h₂ h₃ hreason h₄ h₅ htail'
      simpa using hgrown

/-- A carriage return at the end of a line makes no difference to whether and as what it can be read. -/
theorem read_concat_return_iff {line : List Char} {found : Option Record} :
    read (line ++ ['\r']) = .ok found ↔ read line = .ok found := by
  cases found with
  | none => rw [read_eq_ok_none_iff, read_eq_ok_none_iff, silent_concat_return_iff]
  | some record =>
    rw [read_eq_ok_some_iff, read_eq_ok_some_iff]
    exact and_congr_right fun _ => ⟨declaration_of_concat_return, declaration_concat_return⟩

/-- A line that can be read gives the same without the carriage return at its end. -/
theorem read_dropReturn {line : List Char} {found : Option Record} (h : read line = .ok found) :
    read (Text.dropReturn line) = .ok found := by
  by_cases hlast : line.getLast? = some '\r'
  · rwa [← read_concat_return_iff, Text.dropReturn_append hlast]
  · rwa [Text.dropReturn_of_getLast? hlast]

/-! ## Lists of lines -/

/-- The record of a line and the records behind it. -/
def consFound (number : Nat) : Option Record → List Record → List Record
  | none, records => records
  | some record, records => record.atLine number :: records

theorem readLines_cons {number : Nat} {line : List Char} {rest : List (List Char)}
    {found : Option Record} (h : read line = .ok found) :
    readLines number (line :: rest) =
      (readLines (number + 1) rest).map (consFound number found) := by
  cases found with
  | none =>
    simp only [readLines, h]
    cases readLines (number + 1) rest <;> rfl
  | some record =>
    simp only [readLines, h]
    rfl

theorem readLines_cons_eq_ok_iff {number : Nat} {line : List Char} {rest : List (List Char)}
    {records : List Record} :
    readLines number (line :: rest) = .ok records ↔ ∃ found more, read line = .ok found ∧
      readLines (number + 1) rest = .ok more ∧ records = consFound number found more := by
  cases hread : read line with
  | error fault => simp [readLines, hread]
  | ok found =>
    rw [readLines_cons hread, Outcome.map_eq_ok_iff]
    simp [eq_comm]

theorem readLines_append (number : Nat) (front back : List (List Char)) :
    readLines number (front ++ back) = (readLines number front).bind fun records =>
      (readLines (number + front.length) back).map (records ++ ·) := by
  induction front generalizing number with
  | nil =>
    cases h : readLines number back <;> simp [readLines, Except.bind, Except.map, h]
  | cons line front ih =>
    rw [List.cons_append, List.length_cons, Nat.add_comm front.length, ← Nat.add_assoc]
    cases hread : read line with
    | error fault => simp [readLines, hread, Except.bind]
    | ok found =>
      rw [readLines_cons hread, readLines_cons hread, ih]
      cases readLines (number + 1) front with
      | error e => rfl
      | ok records =>
        cases readLines (number + 1 + front.length) back with
        | error e => rfl
        | ok more => cases found <;> rfl

/-- The records of lines are those of the single ones, each with the number of its line. -/
theorem mem_readLines_iff {number : Nat} {lines : List (List Char)} {records : List Record}
    (h : readLines number lines = .ok records) {record : Record} : record ∈ records ↔
      ∃ index line found, lines[index]? = some line ∧ read line = .ok (some found) ∧
        record = found.atLine (number + index) := by
  induction lines generalizing number records with
  | nil =>
    cases h
    simp
  | cons line rest ih =>
    obtain ⟨first, more, hread, hmore, rfl⟩ := readLines_cons_eq_ok_iff.mp h
    have hmem : record ∈ consFound number first more ↔
        (∃ found, first = some found ∧ record = found.atLine number) ∨ record ∈ more := by
      cases first <;> simp [consFound]
    rw [hmem, ih hmore]
    constructor
    · rintro (⟨found, rfl, hrecord⟩ | ⟨index, other, found, hother, hfound, hrecord⟩)
      · exact ⟨0, line, found, rfl, hread, hrecord⟩
      · refine ⟨index + 1, other, found, hother, hfound, ?_⟩
        rw [hrecord, Nat.add_assoc, Nat.add_comm 1]
    · rintro ⟨index, other, found, hother, hfound, hrecord⟩
      cases index with
      | zero =>
        cases hother
        cases hread.symm.trans hfound
        exact .inl ⟨found, rfl, hrecord⟩
      | succ index =>
        refine .inr ⟨index, other, found, hother, hfound, ?_⟩
        rw [hrecord, Nat.add_assoc, Nat.add_comm 1]

/-! ## One more line -/

@[simp] theorem parse_ofList (line : List Char) : parse (String.ofList line) = read line := by
  rw [parse, String.toList_ofList]

theorem parseUnit_eq_ok_iff {label text : String} {records : List Record} :
    parseUnit label text = .ok records ↔ readAll text.toList = .ok records := by
  unfold parseUnit
  cases readAll text.toList <;> simp

/-- The line feed that a text needs at its end before another line can follow. -/
def missingEnd (text : List Char) : List Char :=
  if text = [] ∨ text.getLast? = some '\n' then [] else ['\n']

theorem missingEnd_append_newline (line rest : List Char) :
    missingEnd (line ++ '\n' :: rest) = missingEnd rest := by
  cases rest with
  | nil => simp [missingEnd]
  | cons c rest => simp [missingEnd, List.getLast?_append]

theorem ended_missingEnd (text : List Char) : Text.Ended (text ++ missingEnd text) := by
  unfold missingEnd
  split
  · rw [List.append_nil]
    assumption
  · exact .inr (by simp)

/-- What is read from a text does not depend on whether its last line is ended. -/
theorem readLines_missingEnd {text : List Char} {number : Nat} {records : List Record}
    (h : readLines number (Text.lines text) = .ok records) :
    readLines number (Text.lines (text ++ missingEnd text)) = .ok records := by
  induction text using Text.lines_induction generalizing number records with
  | last line hline =>
    by_cases hnil : line = []
    · subst hnil
      exact h
    · rw [Text.lines_of_not_mem hline hnil, readLines_cons_eq_ok_iff] at h
      obtain ⟨found, more, hread, hmore, rfl⟩ := h
      have hlast : line.getLast? ≠ some '\n' := fun e => hline (List.mem_of_getLast? e)
      have hend : missingEnd line = ['\n'] := by simp [missingEnd, hnil, hlast]
      rw [hend, Text.lines_append_newline hline, readLines_cons (read_dropReturn hread)]
      exact Outcome.map_eq_ok_iff.mpr ⟨more, hmore, rfl⟩
  | line line rest hline ih =>
    rw [Text.lines_append_newline hline, readLines_cons_eq_ok_iff] at h
    obtain ⟨found, more, hread, hmore, rfl⟩ := h
    rw [missingEnd_append_newline, List.append_assoc, List.cons_append,
      Text.lines_append_newline hline, readLines_cons hread, ih hmore]
    rfl

/-- Lines behind a text follow on its own lines. -/
theorem readLines_append_text {text : List Char} {number : Nat} {records : List Record}
    (h : readLines number (Text.lines text) = .ok records) :
    ∃ next, ∀ rest, readLines number (Text.lines (text ++ (missingEnd text ++ rest))) =
      (readLines next (Text.lines rest)).map (records ++ ·) := by
  refine ⟨number + (Text.lines (text ++ missingEnd text)).length, fun rest => ?_⟩
  rw [← List.append_assoc, Text.lines_append (ended_missingEnd text), readLines_append,
    readLines_missingEnd h]
  rfl

theorem readLines_write (number : Nat) (record : Record) :
    readLines number (Text.lines (write record ++ ['\n'])) = .ok [record.atLine number] := by
  have hlines := lines_writeAll [record]
  rw [writeAll, List.flatMap_singleton] at hlines
  rw [hlines, readLines_map_write]
  rfl

/-- A record that is written behind a text is read behind those of the text. -/
theorem readAll_append_write {text : List Char} {records : List Record}
    (h : readAll text = .ok records) (record : Record) :
    ∃ number, readAll (text ++ (missingEnd text ++ (write record ++ ['\n']))) =
      .ok (records ++ [record.atLine number]) := by
  by_cases hmark : text.head? = some '\ufeff'
  · obtain ⟨rest, rfl⟩ := List.head?_eq_some_iff.mp hmark
    cases rest with
    | nil =>
      obtain rfl : records = [] := by simpa [readAll, Text.dropMark, readLines] using h
      have hblank : read [] = .ok none := rfl
      refine ⟨2, ?_⟩
      change readLines 1 (Text.lines ('\n' :: (write record ++ ['\n']))) = _
      rw [Text.lines_newline, readLines_cons hblank, readLines_write]
      rfl
    | cons c rest =>
      change readLines 1 (Text.lines (c :: rest)) = .ok records at h
      obtain ⟨next, hnext⟩ := readLines_append_text h
      have hend : missingEnd ('\ufeff' :: c :: rest) = missingEnd (c :: rest) := by
        simp [missingEnd]
      refine ⟨next, ?_⟩
      rw [hend]
      change readLines 1 (Text.lines (c :: rest ++ (missingEnd (c :: rest) ++ _))) = _
      rw [hnext, readLines_write]
      rfl
  · rw [readAll, Text.dropMark_of_head? hmark] at h
    have hgrown : (text ++ (missingEnd text ++ (write record ++ ['\n']))).head? ≠
        some '\ufeff' := by
      cases text with
      | nil => simp [missingEnd, write_eq, keyword]
      | cons c rest => simpa using hmark
    obtain ⟨next, hnext⟩ := readLines_append_text h
    refine ⟨next, ?_⟩
    rw [readAll, Text.dropMark_of_head? hgrown, hnext, readLines_write]
    rfl

end TestExclusions.Line
