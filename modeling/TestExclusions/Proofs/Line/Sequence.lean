import TestExclusions.Proofs.Line.Append
import TestExclusions.Proofs.Text.Position

/-! Texts of exclusion lines, one behind the other. What is read from both together is what is read from
each, the lines of the second one counted on from the first; every fault and every record is that
of one line. -/
namespace TestExclusions

/-- The same record, declared further down. -/
def Record.movedDown (record : Record) (lines : Nat) : Record :=
  { record with line := record.line.map (lines + ·) }

namespace Text

theorem dropMark_append {front : List Char} (h : front ≠ []) (back : List Char) :
    dropMark (front ++ back) = dropMark front ++ back := by
  obtain ⟨c, rest, rfl⟩ := List.exists_cons_of_ne_nil h
  by_cases hmark : c = '\ufeff'
  · subst hmark
    rfl
  · rw [dropMark_of_head? (by simpa using hmark), dropMark_of_head? (by simpa using hmark)]

/-- A byte-order mark is no line feed. -/
theorem ended_dropMark {text : List Char} (h : Ended text) :
    Ended (dropMark text) ∧ (dropMark text).count '\n' = text.count '\n' := by
  unfold dropMark
  split
  · rename_i rest
    refine ⟨?_, by simp⟩
    cases rest with
    | nil => exact .inl rfl
    | cons c rest => exact .inr (by simpa [Ended] using h)
  · exact ⟨h, rfl⟩

end Text

namespace Line

/-! ## Lists of lines -/

/-- What is read from lines that stand further down. -/
def laterBy (lines : Nat) :
    Except (Nat × Fault) (List Record) → Except (Nat × Fault) (List Record)
  | .ok records => .ok (records.map (·.movedDown lines))
  | .error (number, fault) => .error (lines + number, fault)

theorem readLines_add (offset number : Nat) (lines : List (List Char)) :
    readLines (offset + number) lines = laterBy offset (readLines number lines) := by
  induction lines generalizing number with
  | nil => rfl
  | cons line lines ih =>
    cases hread : read line with
    | error fault => simp [readLines, hread, laterBy]
    | ok found =>
      rw [readLines_cons hread, readLines_cons hread, Nat.add_assoc, ih]
      cases readLines (number + 1) lines with
      | error e => rfl
      | ok records => cases found <;> rfl

theorem readLines_cons_eq_error_iff {number : Nat} {line : List Char} {rest : List (List Char)}
    {e : Nat × Fault} : readLines number (line :: rest) = .error e ↔
      read line = .error e.2 ∧ e.1 = number ∨
        (∃ found, read line = .ok found) ∧ readLines (number + 1) rest = .error e := by
  obtain ⟨place, fault⟩ := e
  cases hread : read line with
  | error other => simp [readLines, hread, and_comm, eq_comm]
  | ok found =>
    rw [readLines_cons hread, Outcome.map_eq_error_iff]
    simp

/-- Lines fail at the first one that cannot be read. -/
theorem readLines_eq_error_iff {number place : Nat} {fault : Fault} {lines : List (List Char)} :
    readLines number lines = .error (place, fault) ↔ ∃ index line, lines[index]? = some line ∧
      place = number + index ∧ read line = .error fault ∧ ∀ before other, before < index →
        lines[before]? = some other → ∃ found, read other = .ok found := by
  induction lines generalizing number with
  | nil => simp [readLines]
  | cons line rest ih =>
    rw [readLines_cons_eq_error_iff, ih]
    constructor
    · rintro (⟨hread, rfl⟩ | ⟨⟨found, hfound⟩, index, faulty, hfaulty, rfl, hread, hbefore⟩)
      · exact ⟨0, line, rfl, rfl, hread, by simp⟩
      · refine ⟨index + 1, faulty, hfaulty, by omega, hread, fun before other hlt hother => ?_⟩
        cases before with
        | zero =>
          cases hother
          exact ⟨found, hfound⟩
        | succ before => exact hbefore before other (by omega) hother
    · rintro ⟨index, faulty, hfaulty, rfl, hread, hbefore⟩
      cases index with
      | zero =>
        cases hfaulty
        exact .inl ⟨hread, rfl⟩
      | succ index =>
        refine .inr ⟨hbefore 0 line (by omega) rfl, index, faulty, hfaulty, by omega, hread,
          fun before other hlt hother => ?_⟩
        exact hbefore (before + 1) other (by omega) hother

/-- The records come in the order of their lines. -/
theorem pairwise_readLines {number : Nat} {lines : List (List Char)} {records : List Record}
    (h : readLines number lines = .ok records) :
    (records.filterMap (·.line)).Pairwise (· < ·) := by
  induction lines generalizing number records with
  | nil =>
    cases h
    exact .nil
  | cons line rest ih =>
    obtain ⟨first, more, -, hmore, rfl⟩ := readLines_cons_eq_ok_iff.mp h
    cases first with
    | none => exact ih hmore
    | some found =>
      refine List.pairwise_cons.mpr ⟨fun other hother => ?_, ih hmore⟩
      obtain ⟨record, hrecord, hline⟩ := List.mem_filterMap.mp hother
      obtain ⟨index, _, _, _, _, rfl⟩ := (mem_readLines_iff hmore).mp hrecord
      cases hline
      omega

/-! ## Texts -/

theorem parseUnit_eq_error_iff {label text : String} {error : LoadError} :
    parseUnit label text = .error error ↔ ∃ number fault,
      error = .malformed ⟨label, some number⟩ (.line fault) ∧
        readAll text.toList = .error (number, fault) := by
  unfold parseUnit
  cases readAll text.toList with
  | ok records => simp
  | error e => simp [eq_comm, Prod.ext_iff]

theorem readAll_append {front back : List Char} (hfront : front.getLast? = some '\n')
    (hback : back.head? ≠ some '\ufeff') :
    readAll (front ++ back) = (readAll front).bind fun records =>
      (laterBy (front.count '\n') (readAll back)).map (records ++ ·) := by
  have hne : front ≠ [] := by
    rintro rfl
    cases hfront
  obtain ⟨hended, hcount⟩ := Text.ended_dropMark (.inr hfront)
  rw [readAll, readAll, readAll, Text.dropMark_append hne, Text.lines_append hended,
    readLines_append, Text.length_lines hended, hcount, Text.dropMark_of_head? hback, Nat.add_comm,
    readLines_add]

/-- What two texts give together: the fault of the first one, or else that of the second one, or else
the records of both. What comes from the second one is counted on behind some lines. -/
structure ReadsOn (label first second : String) (lines : Nat) : Prop where
  firstFault : ∀ error, parseUnit label first = .error error →
    parseUnit label (first ++ second) = .error error
  secondFault : ∀ records number fault, parseUnit label first = .ok records →
    parseUnit label second = .error (.malformed ⟨label, some number⟩ fault) →
      parseUnit label (first ++ second) = .error (.malformed ⟨label, some (lines + number)⟩ fault)
  records : ∀ records more, parseUnit label first = .ok records →
    parseUnit label second = .ok more →
      parseUnit label (first ++ second) = .ok (records ++ more.map (·.movedDown lines))

theorem readsOn_count (label : String) {first second : String}
    (hfirst : first.toList.getLast? = some '\n') (hsecond : second.toList.head? ≠ some '\ufeff') :
    ReadsOn label first second (first.toList.count '\n') := by
  have hread := readAll_append hfirst hsecond
  rw [← String.toList_append] at hread
  constructor
  · intro error h
    obtain ⟨number, fault, rfl, hfault⟩ := parseUnit_eq_error_iff.mp h
    exact parseUnit_eq_error_iff.mpr ⟨number, fault, rfl, by rw [hread, hfault]; rfl⟩
  · intro records number fault h hsecondFault
    obtain ⟨_, line, heq, hfault⟩ := parseUnit_eq_error_iff.mp hsecondFault
    cases heq
    rw [parseUnit_eq_ok_iff] at h
    exact parseUnit_eq_error_iff.mpr ⟨_, line, rfl, by rw [hread, h, hfault]; rfl⟩
  · intro records more h hmore
    rw [parseUnit_eq_ok_iff] at h hmore ⊢
    rw [hread, h, hmore]
    rfl

/-- A line of a text, behind its byte-order mark, is the first one that cannot be read. -/
def FirstFaulty (text : String) (number : Nat) (fault : Fault) : Prop :=
  ∃ line, Text.LineAt (Text.dropMark text.toList) number line ∧
    parse (String.ofList line) = .error fault ∧
    ∀ before other, before < number → Text.LineAt (Text.dropMark text.toList) before other →
      ∃ found, parse (String.ofList other) = .ok found

/-- A line of a text, behind its byte-order mark, is read as a record, which carries its number. -/
def DeclaredIn (text : String) (record : Record) : Prop :=
  ∃ number line found, Text.LineAt (Text.dropMark text.toList) number line ∧
    parse (String.ofList line) = .ok (some found) ∧ record = found.atLine number

theorem firstFaulty_iff {text : String} {number : Nat} {fault : Fault} :
    FirstFaulty text number fault ↔ readAll text.toList = .error (number, fault) := by
  rw [readAll, readLines_eq_error_iff]
  simp only [FirstFaulty, parse_ofList, Text.lineAt_iff]
  constructor
  · rintro ⟨line, ⟨index, rfl, hline⟩, hread, hbefore⟩
    refine ⟨index, line, hline, Nat.add_comm _ _, hread, fun before other hlt hother => ?_⟩
    exact hbefore (before + 1) other (by omega) ⟨before, rfl, hother⟩
  · rintro ⟨index, line, hline, rfl, hread, hbefore⟩
    refine ⟨line, ⟨index, Nat.add_comm _ _, hline⟩, hread, ?_⟩
    rintro _ other hlt ⟨before, rfl, hother⟩
    exact hbefore before other (by omega) hother

theorem declaredIn_iff {text : String} {records : List Record}
    (h : readAll text.toList = .ok records) {record : Record} :
    DeclaredIn text record ↔ record ∈ records := by
  rw [mem_readLines_iff h]
  simp only [DeclaredIn, parse_ofList, Text.lineAt_iff]
  constructor
  · rintro ⟨_, line, found, ⟨index, rfl, hline⟩, hread, rfl⟩
    exact ⟨index, line, found, hline, hread, by rw [Nat.add_comm]⟩
  · rintro ⟨index, line, found, hline, hread, rfl⟩
    exact ⟨index + 1, line, found, ⟨index, rfl, hline⟩, hread, by rw [Nat.add_comm]⟩

/-- A text whose lines are ended is read apart from what follows it, which goes on behind its lines. The
fault of a text is that of its first faulty line, and the records of a text are those of its lines,
in their order and with their numbers. -/
theorem parseUnit_line_by_line (label : String) :
    (∀ first second : String, first.toList.getLast? = some '\n' →
      second.toList.head? ≠ some '\ufeff' →
        ReadsOn label first second (first.toList.count '\n')) ∧
    (∀ text error, parseUnit label text = .error error ↔ ∃ number fault,
      error = .malformed ⟨label, some number⟩ (.line fault) ∧ FirstFaulty text number fault) ∧
    ∀ text records, parseUnit label text = .ok records →
      (∀ record, record ∈ records ↔ DeclaredIn text record) ∧
        (records.filterMap (·.line)).Pairwise (· < ·) := by
  refine ⟨fun first second => readsOn_count label, fun text error => ?_, fun text records h => ?_⟩
  · simp only [parseUnit_eq_error_iff, firstFaulty_iff]
  · rw [parseUnit_eq_ok_iff] at h
    exact ⟨fun record => (declaredIn_iff h).symm, pairwise_readLines h⟩

/-- A text with a byte-order mark, two ended lines and one record. -/
def markedText : String := "\ufeffexclude :a, \"x\"\r\n# b\n"

/-- The lines behind two others count from the third one. -/
theorem parseUnit_line_by_line_marked :
    markedText.toList.getLast? = some '\n' ∧ markedText.toList.count '\n' = 2 ∧
    parseUnit "u" (markedText ++ "\nexclude :c\n") =
      .error (.malformed ⟨"u", some 4⟩ (.line (.reasonMissing ['c']))) ∧
    FirstFaulty (markedText ++ "\nexclude :c\n") 4 (.reasonMissing ['c']) ∧
    parseUnit "u" (markedText ++ "exclude :c, 'y'") =
      .ok [⟨"a", "x", some 1⟩, ⟨"c", "y", some 3⟩] ∧
    DeclaredIn (markedText ++ "exclude :c, 'y'") ⟨"c", "y", some 3⟩ := by
  have hended : markedText.toList.getLast? = some '\n' := by decide
  have hcount : markedText.toList.count '\n' = 2 := by decide
  have hmarked : parseUnit "u" markedText = .ok [⟨"a", "x", some 1⟩] := by decide +kernel
  have hfaulty : parseUnit "u" "\nexclude :c\n" =
      .error (.malformed ⟨"u", some 2⟩ (.line (.reasonMissing ['c']))) := by decide +kernel
  have hsound : parseUnit "u" "exclude :c, 'y'" = .ok [⟨"c", "y", some 1⟩] := by decide +kernel
  obtain ⟨htogether, hfault, hrecords⟩ := parseUnit_line_by_line "u"
  have herror := (htogether markedText _ hended (by decide)).secondFault _ _ _ hmarked hfaulty
  have hok := (htogether markedText _ hended (by decide)).records _ _ hmarked hsound
  rw [hcount] at herror hok
  obtain ⟨number, fault, heq, hfirst⟩ := (hfault _ _).mp herror
  cases heq
  exact ⟨hended, hcount, herror, hfirst, hok,
    ((hrecords _ _ hok).1 _).mp (by simp [Record.movedDown])⟩

end Line
end TestExclusions
