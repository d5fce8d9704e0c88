import TestExclusions.Json.Quoted

/-! Values of JSON and their two written forms. -/
namespace TestExclusions

inductive Json where
  | string (value : String)
  | number (value : Nat)
  | array (elements : List Json)
  | object (members : List (String × Json))

namespace Json

def digits (n : Nat) : List Char := (toString n).toList

mutual

/-- The form without white space. -/
def compact : Json → List Char
  | .string value => quoted value
  | .number n => digits n
  | .array [] => ['[', ']']
  | .array (e :: es) => '[' :: e.compact ++ compactElements es ++ [']']
  | .object [] => ['\x7b', '\x7d']
  | .object ((key, value) :: ms) =>
    '\x7b' :: quoted key ++ ':' :: value.compact ++ compactMembers ms ++ ['\x7d']

def compactElements : List Json → List Char
  | [] => []
  | e :: es => ',' :: e.compact ++ compactElements es

def compactMembers : List (String × Json) → List Char
  | [] => []
  | (key, value) :: ms => ',' :: quoted key ++ ':' :: value.compact ++ compactMembers ms

end

/-- A new line, indented by two blanks for each level. -/
def newLine (level : Nat) : List Char := '\n' :: List.replicate (2 * level) ' '

mutual

/-- The form with one element or member a line. -/
def pretty (level : Nat) : Json → List Char
  | .string value => quoted value
  | .number n => digits n
  | .array [] => ['[', ']']
  | .array (e :: es) =>
    '[' :: newLine (level + 1) ++ e.pretty (level + 1) ++ prettyElements (level + 1) es ++
      newLine level ++ [']']
  | .object [] => ['\x7b', '\x7d']
  | .object ((key, value) :: ms) =>
    '\x7b' :: newLine (level + 1) ++ quoted key ++ [':', ' '] ++ value.pretty (level + 1) ++
      prettyMembers (level + 1) ms ++ newLine level ++ ['\x7d']

def prettyElements (level : Nat) : List Json → List Char
  | [] => []
  | e :: es => ',' :: newLine level ++ e.pretty level ++ prettyElements level es

def prettyMembers (level : Nat) : List (String × Json) → List Char
  | [] => []
  | (key, value) :: ms =>
    ',' :: newLine level ++ quoted key ++ [':', ' '] ++ value.pretty level ++
      prettyMembers level ms

end

def compactText (json : Json) : String := String.ofList json.compact

def prettyText (json : Json) : String := String.ofList (json.pretty 0)

end Json
end TestExclusions
