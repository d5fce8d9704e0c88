import Mathlib.Data.List.Forall2
import TestExclusions.Command.Audit
import TestExclusions.Proofs.Line.Sequence

/-! How the lines of a text are ended, and whether a byte-order mark stands in front of it, makes no
difference to what is read from it. A carriage return too many stays at the end of a line, where it is
white space to every part of a declaration that may end there. -/
namespace TestExclusions

namespace Text

/-! ## Two ways to end lines -/

/-- A carriage return in front of every line feed that has none. -/
def pairNewlines : List Char → List Char
  | [] => []
  | '\r' :: '\n' :: rest => '\r' :: '\n' :: pairNewlines rest
  | '\n' :: rest => '\r' :: '\n' :: pairNewlines rest
  | c :: rest => c :: pairNewlines rest

/-- A carriage return in front of every line feed, whatever stands there. -/
def addReturns (text : List Char) : List Char :=
  text.flatMap fun c => if c = '\n' then ['\r', '\n'] else [c]

theorem head?_pairNewlines (text : List Char) : (pairNewlines text).head? ≠ some '\n' := by
  fun_cases pairNewlines text with
  | case1 => simp
  | case2 rest => simp
  | case3 rest => simp
  | case4 c rest hreturn hnewline => simpa using hnewline

theorem lines_pairNewlines (text : List Char) : lines (pairNewlines text) = lines text := by
  fun_induction pairNewlines text with
  | case1 => rfl
  | case2 rest ih => rw [lines_return_newline, lines_return_newline, ih]
  | case3 rest ih => rw [lines_return_newline, lines_newline, ih]
  | case4 c rest hreturn hnewline ih =>
    have hnext : c = '\r' → rest.head? ≠ some '\n' := by
      intro hc hhead
      obtain ⟨after, hrest⟩ := List.head?_eq_some_iff.mp hhead
      exact hreturn after hc hrest
    rw [lines_cons hnewline fun _ => head?_pairNewlines rest, lines_cons hnewline hnext, ih]

/-! ## A carriage return too many -/

/-- The line on the right may have a carriage return at its end that the one on the left has not. -/
def MaybeReturn (line other : List Char) : Prop := other = line ∨ other = line ++ ['\r']

theorem maybeReturn_dropReturn (line : List Char) : MaybeReturn (dropReturn line) line := by
  by_cases hlast : line.getLast? = some '\r'
  · exact .inr (dropReturn_append hlast).symm
  · exact .inl (dropReturn_of_getLast? hlast).symm

theorem addReturns_of_not_mem {line : List Char} (h : '\n' ∉ line) : addReturns line = line := by
  induction line with
  | nil => rfl
  | cons c rest ih =>
    obtain ⟨hc, hrest⟩ := not_or.mp (fun hmem => h (List.mem_cons.mpr hmem))
    change (if c = '\n' then ['\r', '\n'] else [c]) ++ addReturns rest = c :: rest
    rw [ih hrest, if_neg (Ne.symm hc), List.singleton_append]

theorem addReturns_append_newline {line : List Char} (h : '\n' ∉ line) (rest : List Char) :
    addReturns (line ++ '\n' :: rest) = line ++ ['\r'] ++ '\n' :: addReturns rest := by
  have hline : addReturns line = line := addReturns_of_not_mem h
  rw [addReturns, List.flatMap_append, ← addReturns, hline, List.append_assoc]
  rfl

/-- Each line is as before, or has one of the carriage returns at its end that it had before its line
feed. -/
theorem lines_addReturns (text : List Char) :
    List.Forall₂ MaybeReturn (lines text) (lines (addReturns text)) := by
  induction text using lines_induction with
  | last line hline =>
    rw [addReturns_of_not_mem hline]
    exact List.forall₂_same.mpr fun other _ => .inl rfl
  | line line rest hline ih =>
    have hreturned : '\n' ∉ line ++ ['\r'] := by simpa using hline
    have hdropped : dropReturn (line ++ ['\r']) = line := by simp [dropReturn]
    rw [addReturns_append_newline hline, lines_append_newline hline,
      lines_append_newline hreturned, hdropped]
    exact .cons (maybeReturn_dropReturn line) ih

/-! ## The byte-order mark -/

/-- A change that keeps the mark in front of a text, and puts none there, is made behind it. -/
theorem dropMark_comm {change : List Char → List Char}
    (hmark : ∀ rest, change ('\ufeff' :: rest) = '\ufeff' :: change rest)
    (hhead : ∀ text, text.head? ≠ some '\ufeff' → (change text).head? ≠ some '\ufeff')
    (text : List Char) : dropMark (change text) = change (dropMark text) := by
  by_cases h : text.head? = some '\ufeff'
  · obtain ⟨rest, rfl⟩ := List.head?_eq_some_iff.mp h
    rw [hmark]
    rfl
  · rw [dropMark_of_head? h, dropMark_of_head? (hhead text h)]

theorem dropMark_pairNewlines (text : List Char) :
    dropMark (pairNewlines text) = pairNewlines (dropMark text) := by
  apply dropMark_comm
  · intro rest
    rfl
  · intro text h
    fun_cases pairNewlines text with
    | case1 => simp
    | case2 rest => simp
    | case3 rest => simp
    | case4 c rest => simpa using h

theorem dropMark_addReturns (text : List Char) :
    dropMark (addReturns text) = addReturns (dropMark text) := by
  apply dropMark_comm
  · intro rest
    rfl
  · intro text h
    cases text with
    | nil => simp [addReturns]
    | cons c rest =>
      by_cases hc : c = '\n'
      · simp [addReturns, hc]
      · simpa [addReturns, hc] using h

end Text

namespace Line

theorem read_eq_ok_iff_of_maybeReturn {line other : List Char} (h : Text.MaybeReturn line other)
    {found : Option Record} : read other = .ok found ↔ read line = .ok found := by
  cases h with
  | inl heq => rw [heq]
  | inr heq => rw [heq, read_concat_return_iff]

/-- Lines with carriage returns too many give the same records, or fail at the same line. -/
theorem readLines_of_maybeReturn {lines others : List (List Char)}
    (h : List.Forall₂ Text.MaybeReturn lines others) (number : Nat) :
    (readLines number others).mapError (·.1) = (readLines number lines).mapError (·.1) := by
  induction h generalizing number with
  | nil => rfl
  | @cons line other lines others hline _ ih =>
    have hread : ∀ found, read other = .ok found ↔ read line = .ok found :=
      fun found => read_eq_ok_iff_of_maybeReturn hline
    cases hfound : read line with
    | ok found =>
      rw [readLines_cons hfound, readLines_cons ((hread found).mpr hfound)]
      rw [Outcome.mapError_map, Outcome.mapError_map, ih (number + 1)]
    | error fault =>
      cases hother : read other with
      | ok found =>
        have := (hread found).mp hother
        rw [hfound] at this
        cases this
      | error fault' =>
        rw [readLines, readLines, hfound, hother]
        rfl

/-- A change of the text after which its lines are the same, or end in carriage returns too many,
changes neither the records nor the line of a fault. -/
theorem readAll_mapError_congr {text changed : List Char}
    (h : List.Forall₂ Text.MaybeReturn (Text.lines (Text.dropMark text))
      (Text.lines (Text.dropMark changed))) :
    (readAll changed).mapError (·.1) = (readAll text).mapError (·.1) :=
  readLines_of_maybeReturn h 1

theorem parseUnit_congr {label text changed : String}
    (h : readAll changed.toList = readAll text.toList) :
    parseUnit label changed = parseUnit label text := by
  rw [parseUnit, parseUnit, h]

end Line

/-- A text whose line feeds all have a carriage return in front of them. -/
def withPairs (text : String) : String := String.ofList (Text.pairNewlines text.toList)

/-- A text with one carriage return more in front of every line feed. -/
def withReturns (text : String) : String := String.ofList (Text.addReturns text.toList)

/-- Units and lists of tests are read alike whether their lines end in line feeds or in carriage returns
and line feeds, and a unit whether or not a byte-order mark stands in front of it. Where every ending is
given a carriage return, even if it has one, the records and their lines stay the same, and so does the
line of a fault. -/
theorem line_endings_do_not_matter (label text : String) :
    Line.parseUnit label (withPairs text) = Line.parseUnit label text ∧
    Command.readSeen (withPairs text) = Command.readSeen text ∧
    (text.toList.head? ≠ some '\ufeff' →
      Line.parseUnit label ("\ufeff" ++ text) = Line.parseUnit label text) ∧
    (∀ records, Line.parseUnit label text = .ok records →
      Line.parseUnit label (withReturns text) = .ok records) ∧
    ∀ error, Line.parseUnit label text = .error error → ∃ number fault fault',
      error = .malformed ⟨label, some number⟩ fault ∧
      Line.parseUnit label (withReturns text) = .error (.malformed ⟨label, some number⟩ fault') := by
  have hadded : (Line.readAll (withReturns text).toList).mapError (·.1) =
      (Line.readAll text.toList).mapError (·.1) := by
    apply Line.readAll_mapError_congr
    rw [withReturns, String.toList_ofList, Text.dropMark_addReturns]
    exact Text.lines_addReturns _
  refine ⟨?_, ?_, ?_, ?_, ?_⟩
  · apply Line.parseUnit_congr
    rw [withPairs, String.toList_ofList, Line.readAll, Text.dropMark_pairNewlines,
      Text.lines_pairNewlines]
    rfl
  · rw [Command.readSeen, withPairs, String.toList_ofList, Text.lines_pairNewlines]
    rfl
  · intro hmark
    apply Line.parseUnit_congr
    rw [String.toList_append, Line.readAll, Line.readAll, Text.dropMark_of_head? hmark]
    rfl
  · intro records hrecords
    rw [Line.parseUnit_eq_ok_iff] at hrecords ⊢
    rw [← Outcome.mapError_eq_ok_iff (f := Prod.fst), hadded, hrecords]
    rfl
  · intro error herror
    obtain ⟨number, fault, rfl, hfault⟩ := Line.parseUnit_eq_error_iff.mp herror
    rw [hfault] at hadded
    obtain ⟨⟨place, fault'⟩, hfault', hplace⟩ := Outcome.mapError_eq_error_iff.mp hadded
    obtain rfl : place = number := hplace
    exact ⟨place, .line fault, .line fault', rfl,
      Line.parseUnit_eq_error_iff.mpr ⟨place, fault', rfl, hfault'⟩⟩

/-- A text of both endings: a record, a comment, a record with a comment behind it, and a fault. -/
def mixedEndings : String := "exclude :a, 'x'\r\n# b\nexclude(:c, 'y') # z\r\n"

/-- The fault is told otherwise where a carriage return stands behind it, but at the same line. -/
theorem line_endings_do_not_matter_mixed :
    mixedEndings.toList.head? ≠ some '\ufeff' ∧
    Line.parseUnit "u" ("\ufeff" ++ mixedEndings) =
      .ok [⟨"a", "x", some 1⟩, ⟨"c", "y", some 3⟩] ∧
    withReturns mixedEndings = "exclude :a, 'x'\r\r\n# b\r\nexclude(:c, 'y') # z\r\r\n" ∧
    Line.parseUnit "u" (withReturns mixedEndings) =
      .ok [⟨"a", "x", some 1⟩, ⟨"c", "y", some 3⟩] ∧
    Line.parseUnit "u" "# a\nexclude\r\n" =
      .error (.malformed ⟨"u", some 2⟩ (.line (.separatorExpected []))) ∧
    ∃ fault, Line.parseUnit "u" (withReturns "# a\nexclude\r\n") =
      .error (.malformed ⟨"u", some 2⟩ fault) := by
  have hmark : mixedEndings.toList.head? ≠ some '\ufeff' := by decide
  have hrecords : Line.parseUnit "u" mixedEndings =
      .ok [⟨"a", "x", some 1⟩, ⟨"c", "y", some 3⟩] := by decide +kernel
  have hfault : Line.parseUnit "u" "# a\nexclude\r\n" =
      .error (.malformed ⟨"u", some 2⟩ (.line (.separatorExpected []))) := by decide +kernel
  obtain ⟨-, -, hmarked, hadded, -⟩ := line_endings_do_not_matter "u" mixedEndings
  obtain ⟨-, -, -, -, hplaced⟩ := line_endings_do_not_matter "u" "# a\nexclude\r\n"
  obtain ⟨number, fault, fault', heq, hfault'⟩ := hplaced _ hfault
  cases heq
  exact ⟨hmark, (hmarked hmark).trans hrecords, by decide +kernel, hadded _ hrecords, hfault,
    fault', hfault'⟩

end TestExclusions
