import TestExclusions.Proofs.Line.Append
import TestExclusions.SuiteFile

/-! Where the records of a unit stand. A record of a unit of lines carries the number of the line
that it is read from, and a record of a manifest none. -/
namespace TestExclusions

/-- Lines that are read give every record its own line, the first of which has the given number. -/
theorem Line.exists_line_of_mem_readLines {number : Nat} {lines : List (List Char)}
    {records : List Record} (h : readLines number lines = .ok records) {record : Record}
    (hrecord : record ∈ records) : ∃ index line, lines[index]? = some line ∧
      record.line = some (number + index) ∧
      read line = .ok (some ⟨record.testId, record.reason, none⟩) := by
  obtain ⟨index, line, found, hline, hread, rfl⟩ := (mem_readLines_iff h).mp hrecord
  obtain ⟨hnone, -⟩ := read_eq_ok_some_iff.mp hread
  refine ⟨index, line, hline, rfl, ?_⟩
  rw [hread, Record.testId_atLine, Record.reason_atLine, ← hnone]

theorem Manifest.line_of_mem_complete {number : Nat} {entries : List Entry}
    {records : List Record} (h : complete number entries = .ok records) {record : Record}
    (hrecord : record ∈ records) : record.line = none := by
  induction entries generalizing number records with
  | nil =>
    cases h
    cases hrecord
  | cons entry rest ih =>
    obtain ⟨id, reason⟩ := entry
    cases id with
    | none => cases h
    | some id =>
      cases reason with
      | none => cases h
      | some reason =>
        obtain ⟨more, hmore, rfl⟩ := Outcome.map_eq_ok_iff.mp h
        rcases List.mem_cons.mp hrecord with rfl | hmem
        · rfl
        · exact ih hmore hmem

/-- Where a text has a record: in a unit of lines, behind a byte-order mark, on the line of the
record's number, counted from one. A manifest does not tell. -/
def Format.Places (text : String) (record : Record) : Format → Prop
  | lines => ∃ number line, record.line = some (number + 1) ∧
      (Text.lines (Text.dropMark text.toList))[number]? = some line ∧
      Line.parse (String.ofList line) = .ok (some ⟨record.testId, record.reason, none⟩)
  | manifest => record.line = none

theorem Format.places_of_parse {format : Format} {label text : String} {records : List Record}
    (h : format.parse label text = .ok records) {record : Record} (hrecord : record ∈ records) :
    format.Places text record := by
  cases format with
  | lines =>
    obtain ⟨index, line, hline, hnumber, hparse⟩ :=
      Line.exists_line_of_mem_readLines (Line.parseUnit_eq_ok_iff.mp h) hrecord
    refine ⟨index, line, by rw [hnumber, Nat.add_comm], hline, ?_⟩
    rwa [Line.parse_ofList]
  | manifest =>
    rw [parse, Manifest.parseUnit] at h
    split at h
    · rename_i read hread
      cases h
      unfold Manifest.read at hread
      split at hread
      · exact Manifest.line_of_mem_complete hread hrecord
      · cases hread
    · cases h

end TestExclusions
