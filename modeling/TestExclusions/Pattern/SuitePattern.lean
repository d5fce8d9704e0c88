import TestExclusions.Pattern.Glob
import TestExclusions.Pattern.Regex.Reader

/-! Patterns that select suites: globs, which match whole names, and regular expressions, which
match parts of them. -/
namespace TestExclusions

inductive SuitePattern where
  | every
  | glob (parts : List Pattern.Glob)
  | regex (expression : Pattern.Regex)

namespace SuitePattern

def isMatch (pattern : SuitePattern) (suite : String) : Bool :=
  match pattern with
  | every => true
  | glob parts => Pattern.Glob.isMatch parts suite
  | regex expression => expression.isMatch suite

/-- A text is a glob if it can be read as one, and else a regular expression. -/
def ofText (text : String) : Except Pattern.Regex.Fault SuitePattern :=
  match Pattern.Glob.read text with
  | .ok parts => .ok (.glob parts)
  | .error _ => (Pattern.Regex.read text).map .regex

/-- Without a text every suite is selected. -/
def ofOption : Option String → Except Pattern.Regex.Fault SuitePattern
  | some text => ofText text
  | none => .ok every

end SuitePattern
end TestExclusions
