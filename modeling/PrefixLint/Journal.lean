/-!
# The journal and its sessions

Log records in the order in which they were written. A record is kept when its level reaches the
threshold, and it carries the unit that was being checked at that moment. Units nest: entering one
remembers the unit that was current before, and leaving it brings that unit back. Entering without a
unit changes nothing but must be left all the same.

A session spans several checks. It remembers the key of every warning it has given, so that a
warning is written once however often its cause recurs, and a warning that the threshold kept out of
the journal counts as given.
-/

namespace PrefixLint

inductive Level where
  | debug
  | info
  | warning
  deriving DecidableEq, Repr

def Level.rank : Level → Nat
  | .debug => 10
  | .info => 20
  | .warning => 30

def Level.name : Level → String
  | .debug => "DEBUG"
  | .info => "INFO"
  | .warning => "WARNING"

def thresholds : List (String × Nat) :=
  [("CRITICAL", 50), ("FATAL", 50), ("ERROR", 40), ("WARN", 30), ("WARNING", 30), ("INFO", 20),
    ("DEBUG", 10), ("NOTSET", 0)]

structure Source where
  name : String
  deriving DecidableEq, Repr

namespace Source

def warnings : Source := ⟨"classname_prefix.helpers.dedupe"⟩
def rule : Source := ⟨"classname_prefix.rule"⟩
def units : Source := ⟨"classname_prefix.runner"⟩
def command : Source := ⟨"classname_prefix.cli"⟩

end Source

structure Record where
  level : Level
  source : Source
  unit : String
  message : String
  deriving DecidableEq, Repr

def Record.line (r : Record) : String :=
  s!"{r.level.name} [{r.source.name}] [{r.unit}] {r.message}"

def noUnit : String := "-"

structure Journal where
  threshold : Nat := Level.warning.rank
  unit : String := noUnit
  outer : List String := []
  records : Array Record := #[]
  deriving DecidableEq, Repr

namespace Journal

def write (j : Journal) (level : Level) (source : Source) (message : String) : Journal :=
  if j.threshold ≤ level.rank then
    { j with records := j.records.push ⟨level, source, j.unit, message⟩ }
  else
    j

def enter (unit : Option String) (j : Journal) : Journal :=
  { j with unit := unit.getD j.unit, outer := j.unit :: j.outer }

def leave (j : Journal) : Journal :=
  match j.outer with
  | [] => j
  | unit :: outer => { j with unit, outer }

/-- Runs an action inside a unit, which is left whether or not the action fails. -/
def within {ε α : Type} (unit : String) (action : EStateM ε Journal α) : EStateM ε Journal α :=
  fun j =>
    match action (j.enter (some unit)) with
    | .ok a after => .ok a after.leave
    | .error e after => .error e after.leave

end Journal

structure Session where
  warned : List String := []
  journal : Journal := {}
  deriving DecidableEq, Repr

namespace Session

def hasWarned (s : Session) (key : String) : Bool := s.warned.contains key

def warningText (label message : String) : String :=
  if label = "" then s!"Warning: {message}" else s!"{label} Warning: {message}"

/-- Gives the warning unless one with its key was given before; says whether it was given now. -/
def warnOnce (s : Session) (key message : String) (label : String := "[config]") :
    Bool × Session :=
  if s.hasWarned key then
    (false, s)
  else
    (true,
      { warned := s.warned ++ [key]
        journal := s.journal.write .warning .warnings (warningText label message) })

def forgetWarnings (s : Session) : Session := { s with warned := [] }

end Session

end PrefixLint
