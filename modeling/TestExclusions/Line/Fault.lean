import TestExclusions.Line.Literal

/-! What can be wrong with an exclusion line. -/
namespace TestExclusions.Line

/-- A fault and the data its message shows; `rest` is the text not yet read. -/
inductive Fault where
  | keywordExpected (rest : List Char)
  | unknownDirective (word : List Char)
  | separatorExpected (rest : List Char)
  | symbolExpected (rest : List Char)
  | testIdExpected (rest : List Char)
  | commaExpected (rest : List Char)
  | reasonMissing (testId : List Char)
  | reasonExpected (rest : List Char)
  | unterminated (quote : Quote)
  | parenthesisExpected (rest : List Char)
  | trailing (rest : List Char)
  deriving DecidableEq, Repr

namespace Fault

/-- What stands next: sixteen characters of it at most. -/
def found (rest : List Char) : String :=
  if rest.isEmpty then "end of line" else "`" ++ String.ofList (rest.take 16) ++ "`"

def message : Fault → String
  | keywordExpected rest => "expected `exclude`, found " ++ found rest
  | unknownDirective word =>
    "unknown directive `" ++ String.ofList word ++ "`, expected `exclude`"
  | separatorExpected rest =>
    "expected whitespace or `(` after `exclude`, found " ++ found rest
  | symbolExpected rest => "expected symbol name after `:`, found " ++ found rest
  | testIdExpected rest => "expected test identifier, found " ++ found rest
  | commaExpected rest => "expected `,` after test identifier, found " ++ found rest
  | reasonMissing testId => "missing reason for `" ++ String.ofList testId ++ "`"
  | reasonExpected rest => "expected reason string literal, found " ++ found rest
  | unterminated quote =>
    "unterminated string literal (missing closing " ++ quote.char.toString ++ ")"
  | parenthesisExpected rest => "expected `)` to close `exclude(`, found " ++ found rest
  | trailing rest => "unexpected trailing input " ++ found rest

end Fault
end TestExclusions.Line
