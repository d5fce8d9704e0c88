/-! Values of TOML, and tables under construction. -/
namespace TestExclusions.Toml

/-- How a table came to be, which decides what may still be added to it. -/
inductive Origin where
  /-- Opened by a header of its own. -/
  | header
  /-- Named only as a parent in a header. -/
  | implied
  /-- Made by a dotted key. -/
  | dotted
  /-- Written between braces; nothing can be added. -/
  | inline
  deriving DecidableEq, Repr

inductive Value where
  | string (value : String)
  | integer (value : Int)
  /-- A float, by its text. -/
  | float (text : String)
  | boolean (value : Bool)
  /-- A date, a time or both, by its text. -/
  | dateTime (text : String)
  | array (elements : List Value)
  | table (origin : Origin) (entries : List (String × Value))
  /-- The tables that the headers of one array opened. -/
  | tables (elements : List (List (String × Value)))

/-- Keys and values; no key occurs twice. -/
abbrev Table := List (String × Value)

/-- Reads something from the front of a text and returns what stands behind it. -/
abbrev Reader (α : Type) := StateT (List Char) Option α

namespace Table

def get? (table : Table) (key : String) : Option Value := table.lookup key

/-- Gives a key a value, instead of the one it had. -/
def set (key : String) (value : Value) : Table → Table
  | [] => [(key, value)]
  | (k, v) :: rest => if k = key then (key, value) :: rest else (k, v) :: set key value rest

/-- Gives a new key a value behind a dotted path. Tables on the path are made, or belong to
dotted keys or to headers that only imply them; the last one must belong to dotted keys, unless
it is the table one starts from, and `takesKeys` tells whether it does. -/
def define (key : String) (value : Value) :
    List String → Bool → Table → Option Table
  | [], takesKeys, table =>
    if takesKeys && (table.get? key).isNone then some (table ++ [(key, value)]) else none
  | step :: path, _, table =>
    match table.get? step with
    | none => (define key value path true []).map fun child =>
        table.set step (.table .dotted child)
    | some (.table .dotted child) => (define key value path true child).map fun child =>
        table.set step (.table .dotted child)
    | some (.table .implied child) => (define key value path false child).map fun child =>
        table.set step (.table .implied child)
    | some (.tables elements) =>
      match elements.getLast? with
      | none => none
      | some last => (define key value path false last).map fun child =>
          table.set step (.tables (elements.dropLast ++ [child]))
    | some _ => none

/-- The table that the path of a header leads to: the last one of an array, and an empty one
where nothing stands yet. -/
def descend : List String → Table → Option Table
  | [], table => some table
  | step :: path, table =>
    match table.get? step with
    | none => some []
    | some (.table .inline _) => none
    | some (.table _ child) => descend path child
    | some (.tables elements) => elements.getLast?.bind (descend path)
    | some _ => none

/-- Changes the table that the path of a header leads to. -/
def modify (change : Table → Table) : List String → Table → Table
  | [], table => change table
  | step :: path, table =>
    match table.get? step with
    | none => table.set step (.table .implied (modify change path []))
    | some (.table origin child) => table.set step (.table origin (modify change path child))
    | some (.tables elements) =>
      match elements.getLast? with
      | none => table
      | some last => table.set step (.tables (elements.dropLast ++ [modify change path last]))
    | some _ => table

end Table
end TestExclusions.Toml
