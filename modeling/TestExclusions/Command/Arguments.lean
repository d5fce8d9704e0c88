import TestExclusions.Command.Basic

/-! Command lines: options, the name of a command and its operands. The options that all commands
share may stand before the name or behind it. -/
namespace TestExclusions

/-- Why a command line is not carried out. -/
inductive UsageError where
  | helpRequested
  | versionRequested
  /-- Nothing was given at all. -/
  | nothingGiven
  | commandMissing
  | unknownCommand
  | unknownArgument
  /-- An operand or an option that the command needs was not given. -/
  | argumentMissing
  | invalidValue
  /-- An option was given twice. -/
  | repeated
  /-- An option that stands alone was given a value. -/
  | unexpectedValue
  deriving DecidableEq, Repr

/-- Asking for help or for the version is no failure. -/
def UsageError.isFailure : UsageError → Bool
  | helpRequested => false
  | versionRequested => false
  | _ => true

namespace Arguments

inductive Setting where
  | excludesDir
  | mode
  | verbose
  | help
  | version
  | denyFailures
  | suite
  | json
  | seen
  | report
  | failOnStale
  | reason
  deriving DecidableEq, Repr

/-- What has to follow an option. -/
inductive Wanted where
  | nothing
  | text
  | path
  | mode
  deriving DecidableEq, Repr

namespace Setting

def long : Setting → String
  | excludesDir => "excludes-dir"
  | mode => "mode"
  | verbose => "verbose"
  | help => "help"
  | version => "version"
  | denyFailures => "deny-failures"
  | suite => "suite"
  | json => "json"
  | seen => "seen"
  | report => "report"
  | failOnStale => "fail-on-stale"
  | reason => "reason"

def short? : Setting → Option Char
  | verbose => some 'v'
  | help => some 'h'
  | version => some 'V'
  | _ => none

def wanted : Setting → Wanted
  | excludesDir => .path
  | mode => .mode
  | suite => .text
  | seen => .path
  | report => .path
  | reason => .text
  | _ => .nothing

end Setting

def modeOfName? : String → Option LoadMode
  | "strict" => some .strict
  | "best-effort" => some .bestEffort
  | _ => none

/-- Whether a text may follow an option. -/
def Wanted.accepts : Wanted → String → Bool
  | path, value => value ≠ ""
  | mode, value => (modeOfName? value).isSome
  | _, _ => true

inductive CommandName where
  | check
  | query
  | list
  | audit
  | add
  deriving DecidableEq, Repr

namespace CommandName

def ofText? : String → Option CommandName
  | "check" => some check
  | "query" => some query
  | "list" => some list
  | "audit" => some audit
  | "add" => some add
  | _ => none

/-- The options of a command. -/
def settings : CommandName → List Setting
  | check => [.excludesDir, .mode, .verbose, .help, .denyFailures]
  | query => [.excludesDir, .mode, .verbose, .help]
  | list => [.excludesDir, .mode, .verbose, .help, .suite, .json]
  | audit => [.excludesDir, .mode, .verbose, .help, .seen, .report, .failOnStale]
  | add => [.excludesDir, .mode, .verbose, .help, .reason]

/-- The number of its operands. -/
def operands : CommandName → Nat
  | query => 2
  | add => 2
  | _ => 0

end CommandName

/-- The options that may stand before the name of the command. -/
def leadingSettings : List Setting := [.excludesDir, .mode, .verbose, .help, .version]

/-- What has been read before or behind the name of the command. -/
structure Scan where
  given : List (Setting × String) := []
  /-- An option that waits for its value, or has one that was not yet looked at. -/
  pending : Option (Setting × Option String) := none
  operands : List String := []
  /-- Two hyphens were read, behind which nothing is an option. -/
  trailing : Bool := false

namespace Scan

def isGiven (scan : Scan) (setting : Setting) : Bool := scan.given.any (·.1 = setting)

def value? (scan : Scan) (setting : Setting) : Option String := scan.given.lookup setting

/-- How often an option was given. -/
def count (scan : Scan) (setting : Setting) : Nat :=
  (scan.given.filter (·.1 = setting)).length

/-- Takes an option with its value; only the verbosity may be given again. -/
def accept (scan : Scan) (setting : Setting) (value : String) : Except UsageError Scan :=
  if setting = .help then .error .helpRequested
  else if setting = .version then .error .versionRequested
  else if scan.isGiven setting && setting ≠ .verbose then .error .repeated
  else if !setting.wanted.accepts value then .error .invalidValue
  else .ok { scan with given := scan.given ++ [(setting, value)] }

/-- Takes the option that waits, if there is one. -/
def settle (scan : Scan) : Except UsageError Scan :=
  match scan.pending with
  | none => .ok scan
  | some (_, none) => .error .invalidValue
  | some (setting, some value) => { scan with pending := none }.accept setting value

def isWaiting (scan : Scan) : Bool :=
  match scan.pending with
  | some (_, none) => true
  | _ => false

/-- Reads an option behind its two hyphens. -/
def readLong (settings : List Setting) (scan : Scan) (text : List Char) :
    Except UsageError Scan :=
  let (name, attached) :=
    match Text.splitFirst? '=' text with
    | some (name, value) => (name, some (String.ofList value))
    | none => (text, none)
  match settings.find? (·.long = String.ofList name) with
  | none => .error .unknownArgument
  | some setting =>
    if setting.wanted = .nothing then
      if attached.isSome then .error .unexpectedValue
      else do (← scan.settle).accept setting ""
    else do
      let scan ← scan.settle
      match attached with
      | some value => scan.accept setting value
      | none => return { scan with pending := some (setting, none) }

/-- Reads options of one letter behind their hyphen. -/
def readShort (settings : List Setting) : Scan → List Char → Except UsageError Scan
  | scan, [] => .ok scan
  | scan, c :: rest =>
    match settings.find? (·.short? = some c) with
    | none => .error .unknownArgument
    | some setting =>
      match scan.settle with
      | .error e => .error e
      | .ok scan =>
        match scan.accept setting "" with
        | .error e => .error e
        | .ok scan => readShort settings scan rest

/-- Reads options and operands of a command. -/
def readCommand (name : CommandName) : Scan → List String → Except UsageError Scan
  | scan, [] => scan.settle
  | scan, arg :: rest =>
    let operand : Except UsageError Scan :=
      if scan.operands.length < name.operands then
        scan.settle.map fun scan => { scan with operands := scan.operands ++ [arg] }
      else .error .unknownArgument
    let next : Except UsageError Scan :=
      if scan.trailing then operand
      else match arg.toList with
        | ['-', '-'] => .ok { scan with trailing := true }
        | '-' :: '-' :: text => readLong name.settings scan text
        | '-' :: c :: text => readShort name.settings scan (c :: text)
        | _ =>
          match scan.pending with
          | some (setting, none) => .ok { scan with pending := some (setting, some arg) }
          | _ => operand
    match next with
    | .error e => .error e
    | .ok scan => readCommand name scan rest

end Scan

/-- What comes of asking for help on the given commands. -/
def help : List String → UsageError
  | [] => .helpRequested
  | [name] =>
    if (CommandName.ofText? name).isSome || name = "help" then .helpRequested
    else .unknownCommand
  | _ :: _ :: _ => .unknownCommand

/-- Reads the options before the name of the command, the name, and what follows it. -/
def readLeading : Scan → List String → Except UsageError (Scan × Option (CommandName × Scan))
  | scan, [] =>
    match scan.settle with
    | .ok scan => .ok (scan, none)
    | .error e => .error e
  | scan, arg :: rest =>
    let known := (CommandName.ofText? arg).isSome || arg = "help"
    if scan.trailing then .error (if known then .unknownArgument else .unknownCommand)
    else if known && !scan.isWaiting then
      match CommandName.ofText? arg with
      | none => .error (help rest)
      | some name =>
        match Scan.readCommand name {} rest with
        | .error e => .error e
        | .ok inner =>
          if inner.operands.length < name.operands ||
              (name = .audit && !inner.isGiven .seen) then .error .argumentMissing
          else match scan.settle with
            | .ok scan => .ok (scan, some (name, inner))
            | .error e => .error e
    else
      let next : Except UsageError Scan :=
        match arg.toList with
        | ['-', '-'] => .ok { scan with trailing := true }
        | '-' :: '-' :: text => scan.readLong leadingSettings text
        | '-' :: c :: text => Scan.readShort leadingSettings scan (c :: text)
        | _ =>
          match scan.pending with
          | some (setting, none) => .ok { scan with pending := some (setting, some arg) }
          | _ => .error .unknownCommand
      match next with
      | .error e => .error e
      | .ok scan => readLeading scan rest

/-- The root and the reason that are used where none is given. -/
def defaultRoot : String := "test/mri/excludes"

def defaultReason : String := "needs investigation"

/-- The command that a name, options and operands amount to. -/
def commandOf (name : CommandName) (scan : Scan) : Command :=
  match name with
  | .check => .check (scan.isGiven .denyFailures)
  | .query => .query (scan.operands[0]?.getD "") (scan.operands[1]?.getD "")
  | .list => .list (scan.value? .suite) (scan.isGiven .json)
  | .audit =>
    .audit ⟨(scan.value? .seen).getD ""⟩ ((scan.value? .report).map Path.mk)
      (scan.isGiven .failOnStale)
  | .add =>
    .add (scan.operands[0]?.getD "") (scan.operands[1]?.getD "")
      ((scan.value? .reason).getD defaultReason)

/-- Reads a command line. An option behind the name of the command outweighs the same one
before it. -/
def parse (args : List String) : Except UsageError Invocation :=
  match readLeading {} args with
  | .error e => .error e
  | .ok (outer, none) => .error (if outer.given.isEmpty then .nothingGiven else .commandMissing)
  | .ok (outer, some (name, inner)) =>
    let value? (setting : Setting) := (inner.value? setting).or (outer.value? setting)
    let verbosity := inner.count .verbose
    .ok {
      root := ⟨(value? .excludesDir).getD defaultRoot⟩
      mode := ((value? .mode).bind modeOfName?).getD .strict
      verbosity := if verbosity = 0 then outer.count .verbose else verbosity
      command := commandOf name inner }

end Arguments
end TestExclusions
