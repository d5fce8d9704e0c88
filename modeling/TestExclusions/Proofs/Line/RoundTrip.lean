import TestExclusions.Line.Unit
import TestExclusions.Line.Writer
import TestExclusions.Proofs.Line.Acceptance
import TestExclusions.Proofs.Text.Lines

/-! What is written can be read: each record on a line of its own, and each line gives the record
back. -/
namespace TestExclusions.Line
open Grammar

/-! ## Literals -/

/-- A way to write characters between quotes: as a pair that denotes the character, or as the
character itself. -/
def Escapes (quote : Quote) (escape : Char → List Char) : Prop :=
  ∀ c, (∃ d, escape c = ['\\', d] ∧ d ≠ '\n' ∧ Pair quote d [c]) ∨
    (escape c = [c] ∧ c ≠ quote.char ∧ c ≠ '\\')

theorem escapes_double : Escapes .double escapeDouble := by
  intro c
  unfold escapeDouble
  split
  case h_9 hquote hbackslash _ _ _ _ _ _ => exact .inr ⟨rfl, hquote, hbackslash⟩
  all_goals exact .inl ⟨_, rfl, by decide, pair_iff.mpr rfl⟩

theorem escapes_single : Escapes .single escapeSingle := by
  intro c
  unfold escapeSingle
  split
  · exact .inl ⟨_, rfl, by decide, pair_iff.mpr rfl⟩
  · exact .inl ⟨_, rfl, by decide, pair_iff.mpr rfl⟩
  · rename_i hbackslash hquote
    exact .inr ⟨rfl, hquote, hbackslash⟩

theorem body_of_escapes {quote : Quote} {escape : Char → List Char} (h : Escapes quote escape)
    (value : List Char) : Body quote (value.flatMap escape) value := by
  induction value with
  | nil => exact .nil
  | cons c value ih =>
    rw [List.flatMap_cons]
    rcases h c with ⟨d, hd, -, hpair⟩ | ⟨hc, hquote, hbackslash⟩
    · rw [hd]
      exact .pair hpair ih
    · rw [hc]
      exact .plain hquote hbackslash ih

theorem literal_doubleQuoted (value : List Char) : Literal (doubleQuoted value) value :=
  .quoted (body_of_escapes escapes_double value)

theorem literal_singleQuoted (value : List Char) : Literal (singleQuoted value) value :=
  .quoted (body_of_escapes escapes_single value)

/-- Only a line feed that is written as itself brings one. -/
theorem newline_not_mem_flatMap {quote : Quote} {escape : Char → List Char}
    (h : Escapes quote escape) {value : List Char}
    (hnewline : '\n' ∈ value → escape '\n' ≠ ['\n']) : '\n' ∉ value.flatMap escape := by
  rw [List.mem_flatMap]
  rintro ⟨c, hmem, hc⟩
  rcases h c with ⟨d, hd, hne, -⟩ | ⟨hself, -, -⟩
  · simp [hd, Ne.symm hne] at hc
  · rw [hself, List.mem_singleton] at hc
    subst hc
    exact hnewline hmem hself

theorem newline_not_mem_doubleQuoted (value : List Char) : '\n' ∉ doubleQuoted value := by
  have hbody : '\n' ∉ value.flatMap escapeDouble :=
    newline_not_mem_flatMap escapes_double fun _ => by simp [escapeDouble]
  simp [doubleQuoted, hbody]

theorem newline_not_mem_singleQuoted {value : List Char} (h : '\n' ∉ value) :
    '\n' ∉ singleQuoted value := by
  have hbody : '\n' ∉ value.flatMap escapeSingle :=
    newline_not_mem_flatMap escapes_single fun hmem => absurd hmem h
  simp [singleQuoted, hbody]

/-! ## Test identifiers -/

theorem symbol_of_word {c : Char} {rest mark : List Char}
    (h : (isSymbolStart c && rest.all isWordChar) = true)
    (hmark : mark ∈ [[], ['?'], ['!'], ['=']]) : Symbol (c :: rest ++ mark) := by
  simp only [Bool.and_eq_true, List.all_eq_true, isSymbolStart, isWordChar, Bool.or_eq_true,
    decide_eq_true_eq] at h
  exact .word h.1 h.2 hmark

theorem symbol_of_isBareSymbol {id : List Char} (h : isBareSymbol id) : Symbol id := by
  simp only [isBareSymbol] at h
  by_cases hlast : id.getLast?.any isSymbolMark
  · rw [if_pos hlast] at h
    cases hmark : id.getLast? with
    | none => simp [hmark] at hlast
    | some mark =>
      have hsplit : id.dropLast ++ [mark] = id := List.dropLast_append_getLast? mark hmark
      rw [hmark] at hlast
      rw [← hsplit]
      cases hbody : id.dropLast with
      | nil => simp [hbody] at h
      | cons c rest =>
        rw [hbody] at h
        exact symbol_of_word h (by simpa [isSymbolMark, or_assoc] using hlast)
  · rw [if_neg hlast] at h
    cases id with
    | nil => simp at h
    | cons c rest =>
      rw [← List.append_nil (c :: rest)]
      exact symbol_of_word h (by simp)

theorem newline_not_mem_symbol {name : List Char} (h : Symbol name) : '\n' ∉ name :=
  fun hmem => absurd (h.plain hmem).2 (by decide)

theorem testId_writeTestId (id : List Char) : TestId (writeTestId id) id := by
  unfold writeTestId
  split
  · exact .symbol (symbol_of_isBareSymbol ‹_›)
  · split
    · exact .quotedSymbol (literal_doubleQuoted id)
    · exact .quotedSymbol (literal_singleQuoted id)

theorem newline_not_mem_writeTestId (id : List Char) : '\n' ∉ writeTestId id := by
  unfold writeTestId
  split
  · simpa using newline_not_mem_symbol (symbol_of_isBareSymbol ‹_›)
  · split
    · simpa using newline_not_mem_doubleQuoted id
    · rename_i hcontrol
      have hid : '\n' ∉ id := fun m => hcontrol (List.any_eq_true.mpr ⟨'\n', m, by decide⟩)
      simpa using newline_not_mem_singleQuoted hid

/-! ## Lines and units -/

theorem write_eq (record : Record) :
    write record = keyword ++ ([' '] ++ (writeTestId record.testId.toList ++
      (',' :: ([' '] ++ doubleQuoted record.reason.toList)))) := by
  have hkeyword : "exclude ".toList = keyword ++ [' '] := by simp [keyword]
  have hcomma : ", ".toList = [',', ' '] := by simp
  unfold write
  rw [hkeyword, hcomma]
  simp only [List.append_assoc, List.cons_append, List.nil_append]

/-- However a test identifier is spelled, a record is read from it and a quoted reason. -/
theorem read_spelled {idText testId : List Char} (h : TestId idText testId) (reason : List Char) :
    read (keyword ++ ([' '] ++ (idText ++ (',' :: ([' '] ++ doubleQuoted reason))))) =
      .ok (some ⟨String.ofList testId, String.ofList reason, none⟩) := by
  rw [read_eq_ok_some_iff]
  refine ⟨rfl, ?_⟩
  have hspace : Text.Blank [' '] := by
    intro c hc
    rw [List.mem_singleton.mp hc]
    decide
  have hline := Declaration.line Text.blank_nil (.blanks hspace (by simp)) Text.blank_nil h
    Text.blank_nil hspace (literal_doubleQuoted reason) Text.blank_nil Text.blank_nil (.inl rfl)
  simpa using hline

/-- A written record is read back, without a line of its own. -/
theorem read_write (record : Record) :
    read (write record) = .ok (some { record with line := none }) := by
  rw [write_eq, read_spelled (testId_writeTestId record.testId.toList), String.ofList_toList,
    String.ofList_toList]

theorem newline_not_mem_write (record : Record) : '\n' ∉ write record := by
  rw [write_eq]
  simp [keyword, newline_not_mem_writeTestId, newline_not_mem_doubleQuoted]

theorem getLast?_write (record : Record) : (write record).getLast? = some '"' := by
  have hquoted : write record = (keyword ++ [' '] ++ writeTestId record.testId.toList ++
      [',', ' ', '"'] ++ record.reason.toList.flatMap escapeDouble) ++ ['"'] := by
    simp [write_eq, doubleQuoted]
  rw [hquoted, List.getLast?_concat]

theorem readLines_map_write (records : List Record) (number : Nat) :
    readLines number (records.map write) =
      .ok (records.mapIdx fun i record => record.atLine (number + i)) := by
  induction records generalizing number with
  | nil => rfl
  | cons record records ih =>
    simp only [List.map_cons, readLines, read_write, ih, Except.map, List.mapIdx_cons]
    simp [Record.atLine, Nat.add_comm, Nat.add_left_comm]

theorem lines_writeAll (records : List Record) :
    Text.lines (writeAll records) = records.map write := by
  have hlines := Text.lines_flatMap (records.map write)
    (by simpa using fun record _ => newline_not_mem_write record)
    (by simp [getLast?_write])
  rwa [List.flatMap_map] at hlines

theorem dropMark_writeAll (records : List Record) :
    Text.dropMark (writeAll records) = writeAll records := by
  cases records with
  | nil => rfl
  | cons record records => rfl

/-- Reading what has been written gives the same records in the same order, the first one on the
first line. -/
theorem parseUnit_renderAll (label : String) (records : List Record) :
    parseUnit label (renderAll records) =
      .ok (records.mapIdx fun i record => record.atLine (i + 1)) := by
  have hread : readAll (writeAll records) =
      .ok (records.mapIdx fun i record => record.atLine (1 + i)) := by
    rw [readAll, dropMark_writeAll, lines_writeAll, readLines_map_write]
  simp only [parseUnit, renderAll, String.toList_ofList, hread, Nat.add_comm]

end TestExclusions.Line
