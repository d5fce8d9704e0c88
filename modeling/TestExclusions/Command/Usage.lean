import TestExclusions.Command.Arguments

/-! What is printed about command lines that are not carried out. -/
namespace TestExclusions

def Arguments.usage : String :=
  "Check, query, audit and edit test exclusions\n\n" ++
  "Usage: test-exclusions [OPTIONS] <COMMAND>\n\n" ++
  "Commands:\n" ++
  "  check [--deny-failures]                                     Load everything and count\n" ++
  "  query <SUITE> <TEST>                                        Say why a test is excluded\n" ++
  "  list [--suite <PATTERN>] [--json]                           List exclusions\n" ++
  "  audit --seen <PATH> [--report <PATH>] [--fail-on-stale]     Replay the tests of a run\n" ++
  "  add <SUITE> <TEST> [--reason <REASON>]                      Add an exclusion\n\n" ++
  "Options:\n" ++
  "      --excludes-dir <DIR>  Where the files are [default: " ++ defaultRoot ++ "]\n" ++
  "      --mode <MODE>         What a file that fails does: strict or best-effort\n" ++
  "  -v, --verbose             Say more\n" ++
  "  -h, --help                Print this\n" ++
  "  -V, --version             Print the version\n"

namespace UsageError

/-- What is wrong with a command line, or what it asks for. -/
def message : UsageError → String
  | helpRequested => Arguments.usage
  | versionRequested => "test-exclusions 0.1.0\n"
  | nothingGiven => Arguments.usage
  | commandMissing => "error: a command is needed\n"
  | unknownCommand => "error: there is no such command\n"
  | unknownArgument => "error: an argument is not known\n"
  | argumentMissing => "error: an argument is missing\n"
  | invalidValue => "error: an option has no value or one that is not allowed\n"
  | repeated => "error: an option is given twice\n"
  | unexpectedValue => "error: an option has a value but takes none\n"

end UsageError
end TestExclusions
