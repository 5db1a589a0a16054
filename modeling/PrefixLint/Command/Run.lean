import PrefixLint.Command.Arguments
import PrefixLint.Command.Usage
import PrefixLint.Policy
import PrefixLint.Units

/-!
# Running a command

A run reads its arguments, then the policy, then checks the units and reports. Violations of all
units come first, in the order of checking, and the units that could not be loaded after them. The
exit code is that of the first such unit, else it tells whether there were violations. All log
records of a run precede its report.

The environment decides the level of the log and the name of the policy file. An empty level stands
for the default, an empty name of a file counts.
-/

namespace PrefixLint.Command

open Disk

structure Settings where
  logLevel : String := "WARNING"
  policyFile : String := "classname-prefix.toml"
  deriving DecidableEq, Repr

namespace Settings

def levelOf (value : Option String) : String :=
  match value with
  | none | some "" => "WARNING"
  | some level => Text.upper level

def ofEnvironment (lookup : String → Option String) : Settings where
  logLevel := levelOf (lookup "CLASSNAME_PREFIX_LOG_LEVEL")
  policyFile := (lookup "CLASSNAME_PREFIX_POLICY").getD ({} : Settings).policyFile

end Settings

def violationsHeader : String := "Class name prefix violations"

def report (header : String) (violations : List String) : List String × Nat :=
  if violations.isEmpty then ([], exitOk) else ((header ++ ":") :: violations, exitViolations)

def violationLine (unit : String) (d : Diagnostic) : Except Failure String :=
  match d.format? (some unit) with
  | some text => .ok ("  " ++ text)
  | none => .error .unwritableInteger

def violationLines (r : Results) : Except Failure (List String) :=
  r.units.flatMapM fun u => u.2.mapM (violationLine u.1)

def failureLine (message : String) : String := s!"[{ruleId}] {message}"

def conclude (r : Results) : Except Failure (List String × Nat) :=
  (violationLines r).map fun violations =>
    let (lines, code) := report violationsHeader violations
    let failures := r.errors.map fun f => failureLine f.message
    let code := match r.errors with
      | [] => code
      | f :: _ => (Failure.input f).exitCode
    (lines ++ failures, code)

def ruleTable (policy : Policy) (prefixType : Option Setting) : List (String × Setting) :=
  match prefixType with
  | none => Policy.settings policy.rule
  | some value =>
    let kept := Policy.settings policy.rule
    if kept.any (·.1 == prefixTypeOption) then
      kept.map fun m => if m.1 = prefixTypeOption then (m.1, value) else m
    else
      kept ++ [(prefixTypeOption, value)]

def policyPath (settings : Settings) (disk : Disk) (arguments : Arguments) :
    Except Failure (Option Path) :=
  match arguments.config with
  | some config => .ok (some (Path.ofString config))
  | none => (Policy.find disk settings.policyFile).mapError .unsearchable

/-- The room that a command leaves for nested values in its policy file, and in the units that it
checks one call further down. -/
def policyRoom : Nat := Policy.room - 3
def treeRoom : Nat := unitRoom - 4

def policyOf (settings : Settings) (disk : Disk) (arguments : Arguments) :
    Except Failure Policy := do
  Policy.load policyRoom disk (← policyPath settings disk arguments)

def check (settings : Settings) (disk : Disk) (arguments : Arguments) :
    EStateM Failure Session (List String × Nat) := fun s =>
  match policyOf settings disk arguments with
  | .error e => .error e s
  | .ok policy =>
    match s.options (ruleTable policy arguments.prefixType) with
    | .error f => .error (.options f) s
    | .ok (options, s) =>
      let message := s!"checking with prefixType={options.prefixType}"
      let journal := s.journal.write .info .command message
      let paths := arguments.paths.map Path.ofString
      match lintPaths treeRoom disk options.convention policy.patterns paths journal with
      | .error e journal => .error e { s with journal }
      | .ok results journal =>
        match conclude results with
        | .error e => .error e { s with journal }
        | .ok report => .ok report { s with journal }

/-- What a run leaves behind: how it ended, what it printed, and what it wrote to the log and then
to the error output. -/
structure Outcome where
  exit : Except Failure Nat
  output : List String := []
  records : Array Record := #[]
  lines : List String := []

def startJournal (settings : Settings) (arguments : Arguments) (s : Session) :
    Except Failure Session :=
  let level := Text.upper (arguments.logLevel.getD settings.logLevel)
  match thresholds.lookup level with
  | some threshold => .ok { s with journal := { threshold } }
  | none => .error (.unknownLevel level)

/-- A fault of the program's own is reported in one line; any other failure ends the run. -/
def outcomeOf (result : EStateM.Result Failure Session (List String × Nat)) : Outcome × Session :=
  match result with
  | .ok (lines, code) s => ({ exit := .ok code, records := s.journal.records, lines }, s)
  | .error e s =>
    let records := s.journal.records
    if e.code?.isSome then
      ({ exit := .ok e.exitCode, records, lines := [failureLine e.message] }, s)
    else
      ({ exit := .error e, records }, s)

def run (settings : Settings) (disk : Disk) (argv : List String) (s : Session) :
    Outcome × Session :=
  match parseArguments argv with
  | .help =>
    match helpLines settings.policyFile with
    | .ok output => ({ exit := .ok exitOk, output }, s)
    | .error f => ({ exit := .error (.template f) }, s)
  | .refuse fault => ({ exit := .ok exitUsage, lines := refusalLines fault.message }, s)
  | .check arguments =>
    match startJournal settings arguments s with
    | .error e => ({ exit := .error e }, s)
    | .ok s => outcomeOf (check settings disk arguments s)

def Outcome.errorLines (o : Outcome) : List String := o.records.toList.map Record.line ++ o.lines

end PrefixLint.Command
