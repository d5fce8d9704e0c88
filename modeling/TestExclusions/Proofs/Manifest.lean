import TestExclusions.Manifest.Reader
import TestExclusions.Proofs.Line.RoundTrip

/-! Exclusion lines are no manifest: a TOML document that begins with their keyword would have to
give that key a value, and no JSON value begins with it. -/
namespace TestExclusions.Manifest
open Line (keyword)

theorem exists_writeTestId (id : List Char) : ∃ rest, Line.writeTestId id = ':' :: rest := by
  unfold Line.writeTestId
  split
  · exact ⟨_, rfl⟩
  · split
    · exact ⟨_, rfl⟩
    · exact ⟨_, rfl⟩

/-- Behind the key there is neither a dot nor an equals sign. -/
theorem toml_keyword (rest : List Char) :
    Toml.read? (keyword ++ ' ' :: ':' :: rest) = none := rfl

theorem json_keyword (rest : List Char) :
    ∃ fault, decoder (keyword ++ ' ' :: ':' :: rest) = .error fault := ⟨_, rfl⟩

/-- A text that begins with a written record cannot be read as a manifest. -/
theorem read_write (record : Record) (text : String)
    (h : Line.write record <+: text.toList) : read text = .error .unreadable := by
  obtain ⟨more, hmore⟩ := h
  obtain ⟨rest, hrest⟩ := exists_writeTestId record.testId.toList
  have htext : ∃ tail, text.toList = keyword ++ ' ' :: ':' :: tail := by
    rw [← hmore, Line.write_eq, hrest]
    simp
  obtain ⟨tail, htail⟩ := htext
  have htoml : readToml? text = none := by
    rw [readToml?, Toml.parse?, htail, toml_keyword]
    rfl
  have hjson : readJson? text = none := by
    obtain ⟨fault, hfault⟩ := json_keyword tail
    rw [readJson?, Json.Decoder.decode, htail, hfault]
    rfl
  rw [read, htoml, hjson]
  rfl

end TestExclusions.Manifest
