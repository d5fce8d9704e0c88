import TestExclusions.Text.Age
import TestExclusions.Text.Property
import TestExclusions.Text.ScriptExtension
import TestExclusions.Text.Segment

/-! The sets of characters that have names: properties, categories, scripts, values of properties,
and the classes of ASCII characters. -/
namespace TestExclusions.Text.CharSet

/-- A name without what does not count in it: case, blanks, hyphens, underscores and a leading
"is". The name "isc" keeps it, as "c" is another name. -/
def plainName (name : List Char) : String :=
  let plain (cs : List Char) : List Char :=
    (cs.filter fun c => !(c = ' ' || c = '_' || c = '-') && c.toNat < 128).map Char.toLower
  String.ofList <|
    match name with
    | i :: s :: rest =>
      if i.toLower = 'i' && s.toLower = 's' then
        if plain rest = ['c'] then ['i', 's', 'c'] else plain rest
      else plain name
    | _ => plain name

/-- The set of a property, a category or a script that is given by its name alone. -/
def named? (name : String) : Option CharSet :=
  (property? name).or ((category? name).or (script? name))

/-- The sets of the values of a property, if the property has more than two. -/
def values? (property : String) : Option (String → Option CharSet) :=
  match property with
  | "gc" | "generalcategory" => some category?
  | "sc" | "script" => some script?
  | "scx" | "scriptextensions" => some scriptExtension?
  | "age" => some age?
  | "gcb" | "graphemeclusterbreak" => some graphemeBreak?
  | "wb" | "wordbreak" => some wordBreak?
  | "sb" | "sentencebreak" => some sentenceBreak?
  | _ => none

def blanks : CharSet := blankRanges

def asciiDigits : CharSet := [(0x30, 0x39)]

def asciiBlanks : CharSet := [(0x9, 0xd), (0x20, 0x20)]

def asciiWordChars : CharSet := [(0x30, 0x39), (0x41, 0x5a), (0x5f, 0x5f), (0x61, 0x7a)]

/-- The set of a class that is named between colons. -/
def asciiClass? : String → Option CharSet
  | "alnum" => some [(0x30, 0x39), (0x41, 0x5a), (0x61, 0x7a)]
  | "alpha" => some [(0x41, 0x5a), (0x61, 0x7a)]
  | "ascii" => some [(0x0, 0x7f)]
  | "blank" => some [(0x9, 0x9), (0x20, 0x20)]
  | "cntrl" => some [(0x0, 0x1f), (0x7f, 0x7f)]
  | "digit" => some asciiDigits
  | "graph" => some [(0x21, 0x7e)]
  | "lower" => some [(0x61, 0x7a)]
  | "print" => some [(0x20, 0x7e)]
  | "punct" => some [(0x21, 0x2f), (0x3a, 0x40), (0x5b, 0x60), (0x7b, 0x7e)]
  | "space" => some asciiBlanks
  | "upper" => some [(0x41, 0x5a)]
  | "word" => some asciiWordChars
  | "xdigit" => some [(0x30, 0x39), (0x41, 0x46), (0x61, 0x66)]
  | _ => none

end TestExclusions.Text.CharSet
