import TestExclusions.Json.Decoder
import TestExclusions.LoadError
import TestExclusions.Record
import TestExclusions.Toml.Document

/-! Manifests: exclusions as data in TOML or JSON. -/
namespace TestExclusions.Manifest
open Json (Decoder)
open Json.Decoder

/-- An entry as it is written; both fields should be there. -/
structure Entry where
  id : Option String := none
  reason : Option String := none
  deriving DecidableEq, Repr

/-! ## TOML -/

/-- A string, if a value is one. -/
def stringOf? : Toml.Value → Option String
  | .string value => some value
  | _ => none

/-- The value that one of two names has in a table; not both may be given. -/
def oneOf? (table : Toml.Table) (name other : String) : Option (Option Toml.Value) :=
  match table.get? name, table.get? other with
  | some _, some _ => none
  | some value, none => some (some value)
  | none, value => some value

/-- The text of a field that may be absent. -/
def textOf? : Option Toml.Value → Option (Option String)
  | none => some none
  | some value => (stringOf? value).map some

def entryOfTable? (table : Toml.Table) : Option Entry := do
  return ⟨← textOf? (← oneOf? table "id" "test"), ← textOf? (table.get? "reason")⟩

/-- An entry is a table of its fields or an array that begins with them. A date has none of the
fields. -/
def entryOf? : Toml.Value → Option Entry
  | .table _ entries => entryOfTable? entries
  | .array (id :: reason :: _) => do return ⟨some (← stringOf? id), some (← stringOf? reason)⟩
  | .dateTime _ => some {}
  | _ => none

def entriesOf? : Toml.Value → Option (List Entry)
  | .array elements => elements.mapM entryOf?
  | .tables elements => elements.mapM entryOfTable?
  | _ => none

/-- The entries of a TOML document; there are none if it does not speak of them. -/
def ofToml? (document : Toml.Table) : Option (List Entry) := do
  match ← oneOf? document "exclude" "excludes" with
  | some value => entriesOf? value
  | none => return []

/-! ## JSON -/

/-- The fields read so far. -/
structure Partial where
  id : Option (Option String) := none
  reason : Option (Option String) := none

def member (soFar : Partial) (key : String) : Except Json.Fault (Decoder Partial) :=
  if key = "id" || key = "test" then
    once soFar.id (nullable string) ({ soFar with id := some · })
  else if key = "reason" then
    once soFar.reason (nullable string) ({ soFar with reason := some · })
  else .ok ((fun _ => soFar) <$> ignored)

def inOrder : Decoder Entry := do
  let id ← elementDue true (nullable string)
  let reason ← elementDue false (nullable string)
  return ⟨id, reason⟩

def entryDecoder : Decoder Entry :=
  fields inOrder {} member fun read => .ok ⟨read.id.join, read.reason.join⟩

/-- The entries of a JSON manifest. -/
def decoder : Decoder (List Entry) :=
  fields
    (return (← element true (list entryDecoder)).getD [])
    (none : Option (List Entry))
    (fun soFar key =>
      if key = "exclude" || key = "excludes" then once soFar (list entryDecoder) some
      else .ok ((fun _ => soFar) <$> ignored))
    (fun soFar => .ok (soFar.getD []))

/-! ## Both -/

/-- The records of entries, the first of which has the given number; fails at the first one that
is not complete. -/
def complete (number : Nat) : List Entry → Except Fault (List Record)
  | [] => .ok []
  | ⟨none, _⟩ :: _ => .error (.idMissing number)
  | ⟨some id, none⟩ :: _ => .error (.reasonMissing number id)
  | ⟨some id, some reason⟩ :: rest =>
    (complete (number + 1) rest).map fun records => ⟨id, reason, none⟩ :: records

def readToml? (text : String) : Option (List Entry) := (Toml.parse? text).bind ofToml?

def readJson? (text : String) : Option (List Entry) := (decode decoder text).toOption

/-- The records of a manifest, which is read as TOML or, failing that, as JSON. -/
def read (text : String) : Except Fault (List Record) :=
  match (readToml? text).or (readJson? text) with
  | some entries => complete 1 entries
  | none => .error .unreadable

/-- The records of a unit; the label only serves to name the place of a fault. -/
def parseUnit (label text : String) : Except LoadError (List Record) :=
  match read text with
  | .ok records => .ok records
  | .error fault => .error (.malformed ⟨label, none⟩ (.manifest fault))

end TestExclusions.Manifest
