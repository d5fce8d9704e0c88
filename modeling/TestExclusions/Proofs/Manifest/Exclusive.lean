import Mathlib.Data.List.DropRight
import TestExclusions.Manifest.Reader
import TestExclusions.Proofs.Json.Reading
import TestExclusions.Proofs.Outcome

/-! No text is a manifest in both formats. Whatever the JSON reader accepts begins, behind white
space, with a brace or with up to two brackets, and where the TOML reader then looks for a key it
finds a mark that begins none. -/
namespace TestExclusions.Manifest
open Json (Decoder Spaces isSpace skipSpace skipSpace_cons)
open Json.Decoder Outcome

/-- The first character that is no JSON white space is a bracket or an opening brace. -/
def Marked (cs : List Char) : Prop :=
  ∃ c ∈ (skipSpace cs).head?, c = '[' ∨ c = ']' ∨ c = '\x7b'

/-! ## What JSON accepts -/

section Accepted
variable {α σ : Type}

theorem skipSpace_skipSpace (cs : List Char) : skipSpace (skipSpace cs) = skipSpace cs :=
  List.dropWhile_idempotent _ _

theorem Marked.of_skipSpace {cs : List Char} (h : Marked (skipSpace cs)) : Marked cs := by
  rwa [Marked, skipSpace_skipSpace] at h

/-- Every text that the decoder accepts is marked. -/
def MarkedInput (d : Decoder α) : Prop := ∀ cs x, d cs = .ok x → Marked cs

theorem markedInput_list (d : Decoder α) : MarkedInput (list d) := by
  intro cs x h
  unfold list at h
  split at h
  · rename_i heq
    exact ⟨'[', by rw [heq]; rfl, .inl rfl⟩
  · cases h

theorem markedInput_fields {inOrder : Decoder α} {start : σ}
    {member : σ → String → Except Json.Fault (Decoder σ)} {finish : σ → Except Json.Fault α} :
    MarkedInput (fields inOrder start member finish) := by
  intro cs x h
  unfold fields at h
  split at h
  · rename_i heq
    exact ⟨'[', by rw [heq]; rfl, .inl rfl⟩
  · rename_i heq
    exact ⟨'\x7b', by rw [heq]; rfl, .inr (.inr rfl)⟩
  · cases h

/-- Behind an opening bracket stands the closing one or an element. -/
theorem MarkedInput.element {d : Decoder α} (h : MarkedInput d) :
    MarkedInput (element true d) := by
  intro cs x hx
  obtain ⟨⟨found, after⟩, hnext, hafter⟩ := bind_eq_ok_iff.mp hx
  unfold nextElement at hnext
  split at hnext
  · cases hnext
  · rename_i heq
    exact ⟨']', by rw [heq]; rfl, .inr (.inl rfl)⟩
  · rename_i heq
    cases hnext
    obtain ⟨⟨a, rest⟩, ha, -⟩ := bind_eq_ok_iff.mp hafter
    rw [← heq] at ha
    exact (h _ _ ha).of_skipSpace

theorem MarkedInput.behind_bracket {d : Decoder α} (h : MarkedInput d) {cs : List Char}
    {x : List α × List Char} (hx : list d ('[' :: cs) = .ok x) : Marked cs := by
  obtain ⟨⟨as, after⟩, has, -⟩ := bind_eq_ok_iff.mp hx
  obtain ⟨x, hfirst, -⟩ := bind_eq_ok_iff.mp has
  exact h.element _ _ hfirst

end Accepted

/-- A manifest is an object, or a list that begins with a list of entries if it is not empty. -/
theorem accepted_begins {cs : List Char} {x : List Entry × List Char} (h : decoder cs = .ok x) :
    (∃ rest, skipSpace cs = '\x7b' :: rest) ∨
    ∃ rest, skipSpace cs = '[' :: rest ∧ Marked rest ∧
      ∀ inner, rest = '[' :: inner → Marked inner := by
  have hentry : MarkedInput entryDecoder := markedInput_fields
  unfold decoder fields at h
  split at h
  · rename_i rest heq
    obtain ⟨⟨entries, after⟩, hentries, -⟩ := bind_eq_ok_iff.mp h
    obtain ⟨⟨read, after⟩, hread, -⟩ := bind_eq_ok_iff.mp hentries
    refine .inr ⟨rest, heq, (markedInput_list _).element _ _ hread, ?_⟩
    rintro inner rfl
    obtain ⟨⟨list, after⟩, hlist, -⟩ := bind_eq_ok_iff.mp hread
    exact hentry.behind_bracket hlist
  · rename_i rest heq
    exact .inl ⟨rest, heq⟩
  · cases h

/-! ## What TOML refuses -/

open Toml (Draft dropSpaces isTabOrSpace readKey readLines)

theorem dropSpaces_of_marked {cs : List Char} (h : Marked cs) :
    ∃ c rest, dropSpaces cs = c :: rest ∧
      (c = '\n' ∨ c = '\r' ∨ c = '[' ∨ c = ']' ∨ c = '\x7b') := by
  induction cs with
  | nil =>
    obtain ⟨c, hc, -⟩ := h
    cases hc
  | cons c cs ih =>
    cases hblank : isTabOrSpace c with
    | true =>
      have hspace : isSpace c = true := by
        simp only [isTabOrSpace, Bool.or_eq_true, decide_eq_true_eq] at hblank
        rcases hblank with rfl | rfl
        all_goals rfl
      rw [dropSpaces, List.dropWhile_cons_of_pos hblank]
      rw [Marked, skipSpace, List.dropWhile_cons_of_pos hspace] at h
      exact ih h
    | false =>
      refine ⟨c, cs, List.dropWhile_cons_of_neg (Bool.eq_false_iff.mp hblank), ?_⟩
      cases hspace : isSpace c with
      | true =>
        simp only [isSpace, isTabOrSpace, Bool.or_eq_true, decide_eq_true_eq,
          Bool.or_eq_false_iff, decide_eq_false_iff_not] at hspace hblank
        tauto
      | false =>
        obtain ⟨d, hd, hmark⟩ := h
        rw [skipSpace_cons hspace] at hd
        cases hd
        tauto

/-- No key begins with a mark. -/
theorem readKey_of_marked {cs : List Char} (h : Marked cs) : readKey cs = none := by
  obtain ⟨c, rest, hcs, hc⟩ := dropSpaces_of_marked h
  have hparts : Toml.readKeyParts (cs.length + 1) cs = none := by
    rw [Toml.readKeyParts, hcs]
    rcases hc with rfl | rfl | rfl | rfl | rfl
    all_goals rfl
  rw [readKey, hparts]
  rfl

theorem readHeader_of_marked {rest : List Char} (h : Marked rest)
    (hinner : ∀ inner, rest = '[' :: inner → Marked inner) (draft : Draft) :
    Toml.readHeader draft ('[' :: rest) = none := by
  unfold Toml.readHeader
  split
  · rename_i inner heq
    rw [readKey_of_marked (hinner _ (List.cons.inj heq).2)]
    rfl
  · rename_i heq
    cases heq
    rw [readKey_of_marked h]
    rfl
  · rfl

/-- A carriage return has to end its line. -/
theorem readLines_return {cs : List Char} (h : cs.head? ≠ some '\n') (fuel : Nat) (draft : Draft) :
    readLines fuel draft ('\r' :: cs) = none := by
  cases fuel with
  | zero => rfl
  | succ fuel =>
    have hline : Toml.readLineEnd ('\r' :: cs) = none := by
      change (Toml.dropNewline? ('\r' :: cs)).map _ = none
      rw [Toml.dropNewline?]
      · rfl
      · rintro rest ⟨⟩
      · rintro rest heq
        exact h (by rw [(List.cons.inj heq).2]; rfl)
    change (Toml.readLineEnd ('\r' :: cs)).bind _ = none
    rw [hline]
    rfl

/-- White space in front of something that is refused. -/
theorem readLines_spaces {s cs : List Char} (hs : Spaces s)
    (h : ∀ fuel draft, readLines fuel draft cs = none) (fuel : Nat) (draft : Draft) :
    readLines fuel draft (s ++ cs) = none := by
  induction s generalizing fuel draft with
  | nil => exact h fuel draft
  | cons c s ih =>
    obtain ⟨hc, hspaces⟩ := List.forall_mem_cons.mp hs
    cases fuel with
    | zero => rfl
    | succ fuel =>
      simp only [isSpace, Bool.or_eq_true, decide_eq_true_eq] at hc
      rcases hc with ((rfl | rfl) | rfl) | rfl
      · exact ih hspaces (fuel + 1) draft
      · exact ih hspaces fuel draft
      · exact ih hspaces (fuel + 1) draft
      · by_cases hnext : (s ++ cs).head? = some '\n'
        · -- The line feed ends the same line with and without the carriage return.
          obtain ⟨rest, hrest⟩ := List.head?_eq_some_iff.mp hnext
          have hfeed := ih hspaces (fuel + 1) draft
          rw [List.cons_append, hrest]
          rw [hrest] at hfeed
          exact hfeed
        · exact readLines_return hnext (fuel + 1) draft

theorem readLines_brace (rest : List Char) (fuel : Nat) (draft : Draft) :
    readLines fuel draft ('\x7b' :: rest) = none := by
  cases fuel <;> rfl

theorem readLines_bracket {rest : List Char} (h : Marked rest)
    (hinner : ∀ inner, rest = '[' :: inner → Marked inner) (fuel : Nat) (draft : Draft) :
    readLines fuel draft ('[' :: rest) = none := by
  cases fuel with
  | zero => rfl
  | succ fuel =>
    change (Toml.readHeader draft ('[' :: rest)).bind _ = none
    rw [readHeader_of_marked h hinner]
    rfl

/-- White space is no byte-order mark. -/
theorem dropMark_of_skipSpace {cs : List Char} {c : Char} {rest : List Char}
    (h : skipSpace cs = c :: rest) (hc : c ≠ '\ufeff') : Text.dropMark cs = cs := by
  unfold Text.dropMark
  split
  · rw [skipSpace_cons (by decide)] at h
    exact absurd (List.cons.inj h).1.symm hc
  · rfl

/-- What the JSON reader accepts is no TOML document. -/
theorem toml_of_json {cs : List Char} {x : List Entry × List Char} (h : decoder cs = .ok x) :
    Toml.read? cs = none := by
  have hspaces : Spaces (cs.takeWhile isSpace) := fun c hc => List.mem_takeWhile_imp hc
  have hcs : cs = cs.takeWhile isSpace ++ skipSpace cs := List.takeWhile_append_dropWhile.symm
  have hrefused : ∀ fuel draft, readLines fuel draft cs = none := by
    intro fuel draft
    rw [hcs]
    refine readLines_spaces hspaces ?_ fuel draft
    rcases accepted_begins h with ⟨rest, hrest⟩ | ⟨rest, hrest, hmarked, hinner⟩
    · rw [hrest]
      exact readLines_brace rest
    · rw [hrest]
      exact readLines_bracket hmarked hinner
  have hmark : Text.dropMark cs = cs := by
    rcases accepted_begins h with ⟨rest, hrest⟩ | ⟨rest, hrest, -⟩
    · exact dropMark_of_skipSpace hrest (by decide)
    · exact dropMark_of_skipSpace hrest (by decide)
  rw [Toml.read?, hmark, hrefused]
  rfl

/-- What the JSON reader accepts, the TOML reader refuses. -/
theorem parse?_of_readJson? {text : String} {entries : List Entry}
    (h : readJson? text = some entries) : Toml.parse? text = none := by
  unfold readJson? decode at h
  split at h
  · cases h
  · rename_i hread
    exact toml_of_json hread

theorem readToml?_of_readJson? {text : String} {entries : List Entry}
    (h : readJson? text = some entries) : readToml? text = none := by
  rw [readToml?, parse?_of_readJson? h]
  rfl

/-! ## The order of the readers -/

/-- What is said of a unit for a reading of its text. -/
def settle (label : String) : Option (List Entry) → Except LoadError (List Record)
  | some entries =>
    (complete 1 entries).mapError fun fault => .malformed ⟨label, none⟩ (.manifest fault)
  | none => .error (.malformed ⟨label, none⟩ (.manifest .unreadable))

/-- The records of a unit, for which readers are tried in order. -/
def parseInOrder (readers : List (String → Option (List Entry))) (label text : String) :
    Except LoadError (List Record) :=
  settle label (readers.findSome? fun reader => reader text)

theorem parseUnit_eq_parseInOrder (label text : String) :
    parseUnit label text = parseInOrder [readToml?, readJson?] label text := by
  have hboth : [readToml?, readJson?].findSome? (fun reader => reader text) =
      (readToml? text).or (readJson? text) := by
    cases htoml : readToml? text with
    | some entries => simp [htoml]
    | none => cases hjson : readJson? text <;> simp [htoml, hjson]
  rw [parseInOrder, hboth, parseUnit, read]
  cases (readToml? text).or (readJson? text) with
  | none => rfl
  | some entries =>
    simp only [settle]
    cases complete 1 entries <;> rfl

/-- An answer for a TOML text comes from its entries, complete or not. -/
theorem parseUnit_of_readToml? {text : String} {entries : List Entry}
    (h : readToml? text = some entries) (label : String) :
    parseUnit label text = settle label (some entries) := by
  rw [parseUnit_eq_parseInOrder, parseInOrder]
  simp [h]

theorem parseUnit_of_readJson? {text : String} {entries : List Entry}
    (h : readJson? text = some entries) (label : String) :
    parseUnit label text = settle label (some entries) := by
  rw [parseUnit_eq_parseInOrder, parseInOrder]
  simp [h, readToml?_of_readJson? h]

/-- No text is read in both formats, so that the order in which the readers are tried does not
matter. -/
theorem formats_exclusive (text : String) :
    ((readJson? text).isSome → Toml.parse? text = none ∧ readToml? text = none) ∧
    ¬((readToml? text).isSome ∧ (readJson? text).isSome) ∧
    ∀ label, parseInOrder [readJson?, readToml?] label text = parseUnit label text ∧
      parseInOrder [readToml?, readJson?] label text = parseUnit label text := by
  have hrefused : (readJson? text).isSome → Toml.parse? text = none ∧ readToml? text = none := by
    intro hjson
    obtain ⟨entries, hentries⟩ := Option.isSome_iff_exists.mp hjson
    exact ⟨parse?_of_readJson? hentries, readToml?_of_readJson? hentries⟩
  refine ⟨hrefused, ?_, fun label => ⟨?_, (parseUnit_eq_parseInOrder label text).symm⟩⟩
  · rintro ⟨htoml, hjson⟩
    rw [(hrefused hjson).2] at htoml
    cases htoml
  · cases hjson : readJson? text with
    | none =>
      rw [parseUnit_eq_parseInOrder, parseInOrder, parseInOrder]
      cases htoml : readToml? text <;> simp [htoml, hjson]
    | some entries =>
      rw [parseUnit_of_readJson? hjson, parseInOrder]
      simp [hjson]

/-- A list of lists is a manifest although a TOML header begins with two brackets, too. -/
theorem formats_exclusive_list :
    (readJson? "\n[[[\"id\", \"reason\"]]]").isSome ∧
    Toml.parse? "\n[[[\"id\", \"reason\"]]]" = none ∧
    parseInOrder [readJson?, readToml?] "unit" "\n[[[\"id\", \"reason\"]]]" =
      .ok [⟨"id", "reason", none⟩] := by
  have hjson : readJson? "\n[[[\"id\", \"reason\"]]]" = some [⟨some "id", some "reason"⟩] := by
    decide +kernel
  obtain ⟨hrefused, -, horder⟩ := formats_exclusive "\n[[[\"id\", \"reason\"]]]"
  obtain ⟨hparse, -⟩ := hrefused (by rw [hjson]; rfl)
  refine ⟨by rw [hjson]; rfl, hparse, ?_⟩
  rw [(horder "unit").1, parseUnit_of_readJson? hjson]
  rfl

end TestExclusions.Manifest
