import TestExclusions.Proofs.Manifest.Exclusive
import TestExclusions.Proofs.Toml.Document

/-! Manifests of the same entries in TOML and in JSON. Each reader reads back the entries that a
text of its format writes, whatever strings they hold and whichever names their fields have, so that
both texts make the same records or fail at the same entry. -/
namespace TestExclusions.Manifest
open Json (Items Others Reads ReadsMembers member_compact quoted reads_fields reads_list reads_null
  reads_string spaces_nil)
open Json.Decoder
open Toml (Bare Draft Leads Spells Table arrayOf elementLine leads_element leads_nil leads_string
  stringLine)

/-- The names of the list of entries. -/
def IsListName (name : String) : Prop := name = "exclude" ∨ name = "excludes"

/-- The names of the field for an identifier. -/
def IsIdName (name : String) : Prop := name = "id" ∨ name = "test"

/-! ## JSON texts -/

/-- A field of an entry as members of an object; one that is absent is left out or null. -/
inductive JsonField (key : String) : Option String → List (List Char) → Prop where
  | value (text : String) : JsonField key (some text) [quoted key ++ ':' :: quoted text]
  | omitted : JsonField key none []
  | null : JsonField key none [quoted key ++ [':', 'n', 'u', 'l', 'l']]

/-- The compact text of an entry. -/
inductive JsonEntry : Entry → List Char → Prop where
  | mk {entry : Entry} {key : String} {ids reasons : List (List Char)} (hkey : IsIdName key)
      (hid : JsonField key entry.id ids) (hreason : JsonField "reason" entry.reason reasons) :
      JsonEntry entry ('\x7b' :: ([','].intercalate (ids ++ reasons) ++ ['\x7d']))

/-- The compact text of a JSON manifest. -/
def WritesJson (entries : List Entry) (text : String) : Prop :=
  ∃ name items, IsListName name ∧ List.Forall₂ JsonEntry entries items ∧
    text.toList =
      '\x7b' :: (quoted name ++ ':' :: '[' :: ([','].intercalate items ++ [']', '\x7d']))

theorem items_intercalate (close : Char) (items : List (List Char)) :
    Items close items ([','].intercalate items ++ [close]) := by
  have hothers : ∀ (item : List Char) (items : List (List Char)), ∃ text,
      [','].intercalate (item :: items) ++ [close] = item ++ text ∧ Others close items text := by
    intro item items
    induction items generalizing item with
    | nil => exact ⟨[close], by simp, .nil spaces_nil⟩
    | cons next items ih =>
      obtain ⟨text, htext, hothers⟩ := ih next
      refine ⟨',' :: (next ++ text), ?_, .cons spaces_nil spaces_nil hothers⟩
      rw [← htext]
      simp [List.intercalate]
  cases items with
  | nil => exact .nil spaces_nil
  | cons item items =>
    obtain ⟨text, htext, hothers⟩ := hothers item items
    rw [htext]
    exact .cons spaces_nil hothers

/-- A field is read into the state unless it is left out, and then it is absent. -/
theorem JsonField.reads {key : String} {field : Option String} {items : List (List Char)}
    (h : JsonField key field items) {state : Partial} {set : Option String → Partial}
    (hkey : member state key = .ok (set <$> nullable string)) :
    ∃ final, ReadsMembers member state items final ∧
      (final = set field ∨ final = state ∧ field = none) := by
  cases h with
  | value text =>
    have htext : (quoted text).head? ≠ some 'n' := by simp [quoted]
    exact ⟨set (some text), .cons hkey (member_compact key _)
      (((reads_string text).nullable htext).map set) (.nil _), .inl rfl⟩
  | omitted => exact ⟨state, .nil _, .inr ⟨rfl, rfl⟩⟩
  | null =>
    exact ⟨set none, .cons hkey (member_compact key _) ((reads_null string).map set) (.nil _),
      .inl rfl⟩

theorem member_id {key : String} (h : IsIdName key) :
    member {} key = .ok ((fun id => ({ id := some id } : Partial)) <$> nullable string) := by
  rcases h with rfl | rfl
  all_goals rfl

theorem member_reason {state : Partial} (h : state.reason = none) :
    member state "reason" = .ok ((fun reason => { state with reason := some reason }) <$>
      nullable string) := by
  change once state.reason _ _ = _
  rw [h]
  rfl

theorem JsonEntry.reads {entry : Entry} {text : List Char} (h : JsonEntry entry text) :
    Reads entryDecoder text entry := by
  cases h with
  | mk hkey hid hreason =>
    obtain ⟨read, hids, hread⟩ := hid.reads (member_id hkey)
    have hopen : read.reason = none := by
      rcases hread with rfl | ⟨rfl, -⟩
      all_goals rfl
    obtain ⟨final, hreasons, hfinal⟩ := hreason.reads (member_reason hopen)
    refine reads_fields (hids.append hreasons) ?_ (items_intercalate _ _)
    obtain ⟨id, reason⟩ := entry
    rcases hread with rfl | ⟨rfl, rfl⟩
    all_goals rcases hfinal with rfl | ⟨rfl, rfl⟩
    all_goals rfl

theorem reads_of_writes {entries : List Entry} {text : String} (h : WritesJson entries text) :
    Reads decoder text.toList entries := by
  obtain ⟨name, items, hname, hall, htext⟩ := h
  have hlist : Reads (list entryDecoder) ('[' :: ([','].intercalate items ++ [']'])) entries :=
    reads_list (hall.flip.imp fun _ _ hentry => hentry.reads) (items_intercalate _ _)
  have hkey : (if name = "exclude" || name = "excludes" then
      once (none : Option (List Entry)) (list entryDecoder) some
      else .ok ((fun _ => none) <$> ignored)) = .ok (some <$> list entryDecoder) := by
    rcases hname with rfl | rfl
    all_goals rfl
  have hitems : Items '\x7d' [quoted name ++ ':' :: '[' :: ([','].intercalate items ++ [']'])]
      (quoted name ++ ':' :: '[' :: ([','].intercalate items ++ [']', '\x7d'])) := by
    have hone := items_intercalate '\x7d'
      [quoted name ++ ':' :: '[' :: ([','].intercalate items ++ [']'])]
    simpa using hone
  rw [htext, decoder]
  exact reads_fields (.cons hkey (member_compact name _) (hlist.map some) (.nil _)) rfl hitems

theorem readJson?_of_writes {entries : List Entry} {text : String} (h : WritesJson entries text) :
    readJson? text = some entries := by
  rw [readJson?, (reads_of_writes h).decode]
  rfl

/-! ## TOML texts -/

/-- A field of an entry as a line of its table, in any spelling; one that is absent is left out. -/
inductive TomlField (key : String) : Option String → List Char → Prop where
  | value (text : String) {body : List Char} (h : Spells body text.toList) :
      TomlField key (some text) (stringLine key body)
  | omitted : TomlField key none []

/-- One table of an array for each entry, in order; blank lines may stand before a table. -/
inductive TomlTables (name : String) : List Entry → List Char → Prop where
  | nil : TomlTables name [] []
  | cons {entry : Entry} {entries : List Entry} {key : String} {idLine reasonLine text : List Char}
      (blank : Nat) (hkey : IsIdName key) (hid : TomlField key entry.id idLine)
      (hreason : TomlField "reason" entry.reason reasonLine)
      (others : TomlTables name entries text) :
      TomlTables name (entry :: entries)
        (List.replicate blank '\n' ++ (elementLine name ++ (idLine ++ (reasonLine ++ text))))

/-- The text of a TOML manifest. -/
def WritesToml (entries : List Entry) (text : String) : Prop :=
  ∃ name lines, IsListName name ∧ TomlTables name entries lines ∧ text.toList = lines

/-- What a field adds to its table. -/
def pairsOf (key : String) : Option String → Table
  | some text => [(key, .string text)]
  | none => []

theorem TomlField.leads {key : String} {field : Option String} {line : List Char}
    (h : TomlField key field line) (hkey : Bare key) {draft : Draft}
    (hfree : draft.current.get? key = none) :
    Leads draft line { draft with current := draft.current ++ pairsOf key field } := by
  cases h with
  | value text hbody =>
    have hline := leads_string hkey hbody hfree
    rwa [String.ofList_toList] at hline
  | omitted =>
    rw [pairsOf, List.append_nil]
    exact leads_nil draft

theorem entryOfTable?_pairs {key : String} (hkey : IsIdName key) (entry : Entry) :
    entryOfTable? (pairsOf key entry.id ++ pairsOf "reason" entry.reason) = some entry := by
  obtain ⟨id, reason⟩ := entry
  rcases hkey with rfl | rfl
  all_goals cases id
  all_goals cases reason
  all_goals rfl

theorem leads_blanks (blank : Nat) (draft : Draft) :
    Leads draft (List.replicate blank '\n') draft := by
  induction blank with
  | zero => exact leads_nil draft
  | succ blank ih => exact (Toml.leads_blank draft).append ih

theorem bare_of_isIdName {key : String} (h : IsIdName key) : Bare key := by
  rcases h with rfl | rfl
  all_goals exact ⟨by decide, List.all_eq_true.mp rfl⟩

theorem bare_of_isListName {name : String} (h : IsListName name) : Bare name := by
  rcases h with rfl | rfl
  all_goals exact ⟨by decide, List.all_eq_true.mp rfl⟩

/-- The lines of one entry add its table to the array. -/
theorem leads_entry {name key : String} (hname : IsListName name) (hkey : IsIdName key)
    {entry : Entry} {idLine reasonLine : List Char} (hid : TomlField key entry.id idLine)
    (hreason : TomlField "reason" entry.reason reasonLine) {draft : Draft} {tables : List Table}
    (hdraft : draft.close = arrayOf name tables) :
    ∃ next : Draft, Leads draft (elementLine name ++ (idLine ++ reasonLine)) next ∧
      next.close =
        arrayOf name (tables ++ [pairsOf key entry.id ++ pairsOf "reason" entry.reason]) := by
  have hopen := leads_element (bare_of_isListName hname) (Toml.openElement_arrayOf hdraft)
  have hids : Leads ⟨arrayOf name tables, .element [] name, []⟩ idLine
      ⟨arrayOf name tables, .element [] name, pairsOf key entry.id⟩ :=
    hid.leads (bare_of_isIdName hkey) rfl
  have hfree : Table.get? (pairsOf key entry.id) "reason" = none := by
    rcases hkey with rfl | rfl
    all_goals cases entry.id
    all_goals rfl
  have hreasons : Leads ⟨arrayOf name tables, .element [] name, pairsOf key entry.id⟩ reasonLine
      ⟨arrayOf name tables, .element [] name,
        pairsOf key entry.id ++ pairsOf "reason" entry.reason⟩ :=
    hreason.leads ⟨by decide, List.all_eq_true.mp rfl⟩ hfree
  exact ⟨_, hopen.append (hids.append hreasons), Toml.close_arrayOf name tables _⟩

theorem TomlTables.leads {name : String} (hname : IsListName name) {entries : List Entry}
    {text : List Char} (h : TomlTables name entries text) {draft : Draft} {tables : List Table}
    (hdraft : draft.close = arrayOf name tables) :
    ∃ next more, Leads draft text next ∧ next.close = arrayOf name (tables ++ more) ∧
      more.mapM entryOfTable? = some entries := by
  induction h generalizing draft tables with
  | nil => exact ⟨draft, [], leads_nil draft, by rw [hdraft, List.append_nil], rfl⟩
  | @cons entry entries key idLine reasonLine text blank hkey hid hreason _ ih =>
    obtain ⟨next, hentry, hnext⟩ := leads_entry hname hkey hid hreason hdraft
    obtain ⟨last, more, hmore, hlast, hentries⟩ := ih hnext
    refine ⟨last, (pairsOf key entry.id ++ pairsOf "reason" entry.reason) :: more, ?_, ?_, ?_⟩
    · have hall := (leads_blanks blank draft).append (hentry.append hmore)
      simpa only [List.append_assoc] using hall
    · rw [hlast, List.append_assoc]
      rfl
    · simp [entryOfTable?_pairs hkey, hentries]

theorem ofToml?_arrayOf {name : String} (hname : IsListName name) {tables : List Table}
    {entries : List Entry} (h : tables.mapM entryOfTable? = some entries) :
    ofToml? (arrayOf name tables) = some entries := by
  cases tables with
  | nil =>
    cases h
    rfl
  | cons table tables =>
    rcases hname with rfl | rfl
    all_goals exact h

theorem dropMark_tables {name : String} {entries : List Entry} {text : List Char}
    (h : TomlTables name entries text) : Text.dropMark text = text := by
  cases h with
  | nil => rfl
  | cons blank =>
    cases blank with
    | zero => rfl
    | succ blank => rfl

theorem readToml?_of_writes {entries : List Entry} {text : String} (h : WritesToml entries text) :
    readToml? text = some entries := by
  obtain ⟨name, lines, hname, htables, htext⟩ := h
  have hstart : Draft.close ⟨[], .none, []⟩ = arrayOf name [] := rfl
  obtain ⟨next, tables, hlines, hnext, hentries⟩ := htables.leads hname hstart
  have hparse : Toml.parse? text = some (arrayOf name tables) := by
    rw [Toml.parse?, Toml.read?, htext, dropMark_tables htables, hlines.readLines_eq,
      Option.map_some, hnext, List.nil_append]
  rw [readToml?, hparse, Option.bind_some, ofToml?_arrayOf hname hentries]

/-! ## Answers -/

/-- An entry with both fields. -/
def full (pair : String × String) : Entry := ⟨some pair.1, some pair.2⟩

/-- What is to be said of a unit for its entries: their records, in order and without lines, if
every entry has both fields, and otherwise what the first incomplete entry lacks. -/
inductive Verdict (label : String) (entries : List Entry) :
    Except LoadError (List Record) → Prop where
  | records (pairs : List (String × String)) (hentries : entries = pairs.map full) :
      Verdict label entries (.ok (pairs.map fun pair => ⟨pair.1, pair.2, none⟩))
  | idMissing (pairs : List (String × String)) (reason : Option String) (after : List Entry)
      (hentries : entries = pairs.map full ++ ⟨none, reason⟩ :: after)
      (error : LoadError)
      (herror : error = .malformed ⟨label, none⟩ (.manifest (.idMissing (pairs.length + 1))))
      (hmessage : error.message = label ++ ": " ++
        ("exclude entry " ++ toString (pairs.length + 1) ++ " missing `id`")) :
      Verdict label entries (.error error)
  | reasonMissing (pairs : List (String × String)) (id : String) (after : List Entry)
      (hentries : entries = pairs.map full ++ ⟨some id, none⟩ :: after)
      (error : LoadError)
      (herror : error = .malformed ⟨label, none⟩ (.manifest (.reasonMissing (pairs.length + 1) id)))
      (hmessage : error.message = label ++ ": " ++
        ("exclude entry " ++ toString (pairs.length + 1) ++ " (`" ++ id ++ "`) missing `reason`")) :
      Verdict label entries (.error error)

theorem complete_append (number : Nat) (pairs : List (String × String)) (rest : List Entry) :
    complete number (pairs.map full ++ rest) = (complete (number + pairs.length) rest).map
      (pairs.map (fun pair => ⟨pair.1, pair.2, none⟩) ++ ·) := by
  induction pairs generalizing number with
  | nil => cases hrest : complete number rest <;> simp [hrest, Except.map]
  | cons pair pairs ih =>
    have hnumber : number + 1 + pairs.length = number + (pairs.length + 1) := by omega
    rw [List.map_cons, List.cons_append, full, complete, ih, hnumber, List.length_cons]
    cases complete (number + (pairs.length + 1)) rest <;> rfl

/-- Either all entries have both fields, or there is a first one that does not. -/
theorem exists_full_append (entries : List Entry) :
    ∃ (pairs : List (String × String)) (rest : List Entry), entries = pairs.map full ++ rest ∧
      (rest = [] ∨ (∃ reason after, rest = ⟨none, reason⟩ :: after) ∨
        ∃ id after, rest = ⟨some id, none⟩ :: after) := by
  induction entries with
  | nil => exact ⟨[], [], rfl, .inl rfl⟩
  | cons entry entries ih =>
    match entry with
    | ⟨none, reason⟩ => exact ⟨[], _, rfl, .inr (.inl ⟨reason, entries, rfl⟩)⟩
    | ⟨some id, none⟩ => exact ⟨[], _, rfl, .inr (.inr ⟨id, entries, rfl⟩)⟩
    | ⟨some id, some reason⟩ =>
      obtain ⟨pairs, rest, hentries, hrest⟩ := ih
      exact ⟨(id, reason) :: pairs, rest, by rw [hentries]; rfl, hrest⟩

theorem verdict_settle (label : String) (entries : List Entry) :
    Verdict label entries (settle label (some entries)) := by
  obtain ⟨pairs, rest, hentries, hrest⟩ := exists_full_append entries
  have hnumber : 1 + pairs.length = pairs.length + 1 := Nat.add_comm _ _
  rw [settle, hentries, complete_append, hnumber]
  rcases hrest with rfl | ⟨reason, after, rfl⟩ | ⟨id, after, rfl⟩
  · rw [complete, Except.map, Except.mapError, List.append_nil, List.append_nil]
    exact .records pairs rfl
  · exact .idMissing pairs reason after rfl _ rfl rfl
  · exact .reasonMissing pairs id after rfl _ rfl rfl

/-! ## Every list of entries has texts -/

theorem exists_writesJson (entries : List Entry) : ∃ text, WritesJson entries text := by
  have hfield : ∀ key field, ∃ items, JsonField key field items := by
    intro key field
    cases field with
    | none => exact ⟨_, .omitted⟩
    | some text => exact ⟨_, .value text⟩
  have hentries : ∃ items, List.Forall₂ JsonEntry entries items := by
    induction entries with
    | nil => exact ⟨[], .nil⟩
    | cons entry entries ih =>
      obtain ⟨items, hall⟩ := ih
      obtain ⟨ids, hid⟩ := hfield "id" entry.id
      obtain ⟨reasons, hreason⟩ := hfield "reason" entry.reason
      exact ⟨_, .cons (.mk (.inl rfl) hid hreason) hall⟩
  obtain ⟨items, hall⟩ := hentries
  exact ⟨_, "exclude", items, .inl rfl, hall, String.toList_ofList⟩

theorem exists_writesToml (entries : List Entry) : ∃ text, WritesToml entries text := by
  have hfield : ∀ key field, ∃ line, TomlField key field line := by
    intro key field
    cases field with
    | none => exact ⟨_, .omitted⟩
    | some text =>
      obtain ⟨body, hbody⟩ := Toml.exists_spells text.toList
      exact ⟨_, .value text hbody⟩
  have hentries : ∃ text, TomlTables "exclude" entries text := by
    induction entries with
    | nil => exact ⟨[], .nil⟩
    | cons entry entries ih =>
      obtain ⟨text, hall⟩ := ih
      obtain ⟨idLine, hid⟩ := hfield "id" entry.id
      obtain ⟨reasonLine, hreason⟩ := hfield "reason" entry.reason
      exact ⟨_, .cons 0 (.inl rfl) hid hreason hall⟩
  obtain ⟨text, hall⟩ := hentries
  exact ⟨String.ofList text, "exclude", text, .inl rfl, hall, String.toList_ofList⟩

/-! ## Both formats -/

/-- Texts that write the same entries are told apart by the readers and make the same answer, which
comes from the entries and not from a second attempt with the other reader. -/
theorem formats_agree (entries : List Entry) :
    (∃ json, WritesJson entries json) ∧ (∃ toml, WritesToml entries toml) ∧
    ∀ json toml, WritesJson entries json → WritesToml entries toml →
      readToml? json = none ∧ readJson? json = some entries ∧
      readToml? toml = some entries ∧ readJson? toml = none ∧
      ∀ label, parseUnit label toml = parseUnit label json ∧
        Verdict label entries (parseUnit label json) := by
  refine ⟨exists_writesJson entries, exists_writesToml entries, fun json toml hjson htoml => ?_⟩
  have hreadJson := readJson?_of_writes hjson
  have hreadToml := readToml?_of_writes htoml
  have hrefused : readJson? toml = none := by
    cases hread : readJson? toml with
    | none => rfl
    | some found =>
      rw [readToml?_of_readJson? hread] at hreadToml
      cases hreadToml
  refine ⟨readToml?_of_readJson? hreadJson, hreadJson, hreadToml, hrefused, fun label => ⟨?_, ?_⟩⟩
  · rw [parseUnit_of_readToml? hreadToml, parseUnit_of_readJson? hreadJson]
  · rw [parseUnit_of_readJson? hreadJson]
    exact verdict_settle label entries

/-- Escapes in both texts, both names of an identifier, and the first of two incomplete entries. -/
theorem formats_agree_incomplete :
    let entries : List Entry := [⟨some "a\"b\n", some "é"⟩, ⟨some "x", none⟩, ⟨none, none⟩]
    let json := "\x7b\"excludes\":[\x7b\"test\":\"a\\\"b\\n\",\"reason\":\"é\"\x7d," ++
      "\x7b\"id\":\"x\",\"reason\":null\x7d,\x7b\x7d]\x7d"
    let toml := "[[exclude]]\nid = \"a\\\"b\\u000a\"\nreason = \"é\"\n" ++
      "\n[[exclude]]\ntest = \"x\"\n[[exclude]]\n"
    WritesJson entries json ∧ WritesToml entries toml ∧
      parseUnit "unit" toml = parseUnit "unit" json ∧
      parseUnit "unit" json =
        .error (.malformed ⟨"unit", none⟩ (.manifest (.reasonMissing 2 "x"))) := by
  intro entries json toml
  have hjson : WritesJson entries json :=
    ⟨"excludes", _, .inr rfl, .cons (.mk (.inr rfl) (.value _) (.value _))
      (.cons (.mk (.inl rfl) (.value _) .null) (.cons (.mk (.inl rfl) .omitted .omitted) .nil)),
      by decide +kernel⟩
  have hfeed : Toml.Denotes ['0', '0', '0', 'a'] '\n'.toNat :=
    Toml.denotes_of_lt (show 10 < 0x80 by decide)
  have hvalue : Spells ['a', '\\', '"', 'b', '\\', 'u', '0', '0', '0', 'a'] "a\"b\n".toList := by
    rw [show "a\"b\n".toList = ['a', '"', 'b', '\n'] by decide]
    exact .plain (by decide) (by decide) (by decide) (.letter (by decide)
      (.plain (by decide) (by decide) (by decide) (.four hfeed .nil)))
  have hplain : Spells "é".toList "é".toList := .plain (by decide) (by decide) (by decide) .nil
  have hx : Spells "x".toList "x".toList := .plain (by decide) (by decide) (by decide) .nil
  have htoml : WritesToml entries toml :=
    ⟨"exclude", _, .inl rfl, .cons 0 (.inl rfl) (.value _ hvalue) (.value _ hplain)
      (.cons 1 (.inr rfl) (.value _ hx) .omitted (.cons 0 (.inl rfl) .omitted .omitted .nil)),
      by decide +kernel⟩
  obtain ⟨-, -, hboth⟩ := formats_agree entries
  obtain ⟨-, hread, -, -, hanswers⟩ := hboth json toml hjson htoml
  refine ⟨hjson, htoml, (hanswers "unit").1, ?_⟩
  rw [parseUnit_of_readJson? hread]
  rfl

end TestExclusions.Manifest
