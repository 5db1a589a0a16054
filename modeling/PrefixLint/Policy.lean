import PrefixLint.Failure

/-!
# Policies

A policy file has a table `rule` with the options of the rule and a table `paths` whose member
`include` lists the patterns by which units are found under a directory. Without a policy file the
rule has its default options and every JSON file below a directory is a unit.
-/

namespace PrefixLint

open Disk

def defaultInclude : List String := ["**/*.json"]

structure Policy where
  rule : Toml.Table := []
  patterns : List String := defaultInclude
  source : Option Path := none

namespace Policy

def tableOf (data : Toml.Table) (key : String) : Except PolicyCause Toml.Table :=
  match data.lookup key with
  | none => .ok []
  | some (.table t) => .ok t
  | some _ => .error (.notTable key)

def texts? (items : List Toml.Value) : Option (List String) :=
  items.mapM fun
    | .text s => some s
    | _ => none

def includeOf (paths : Toml.Table) : Except PolicyCause (List String) :=
  match paths.lookup "include" with
  | none => .ok defaultInclude
  | some v =>
    match v.items?.bind texts? with
    | some patterns => .ok patterns
    | none => .error .badInclude

def ofTable (path : Path) (data : Toml.Table) : Except PolicyCause Policy := do
  let rule ← tableOf data "rule"
  let patterns ← includeOf (← tableOf data "paths")
  return { rule, patterns, source := some path }

/-- The room for nested values in a policy file that is read by itself. -/
def room : Nat := 991

def read (room : Nat) (disk : Disk) (path : Path) : Except Failure Policy :=
  match disk.readText path with
  | .error (.access f) => .error (.policy ⟨path, .inaccessible f⟩)
  | .error (.undecodable f) => .error (.undecodable f)
  | .error .nullByte => .error .nullByte
  | .ok text =>
    match Toml.parse room text with
    | .error (.malformed f) => .error (.policy ⟨path, .malformed f⟩)
    | .error (.longInteger digits) => .error (.longInteger digits)
    | .error (.tooDeep shortage) => .error (.tooDeep shortage)
    | .ok data =>
      match ofTable path data with
      | .error cause => .error (.policy ⟨path, cause⟩)
      | .ok policy => .ok policy

def load (room : Nat) (disk : Disk) : Option Path → Except Failure Policy
  | none => .ok {}
  | some path => read room disk path

def find (disk : Disk) (name : String) : Except Unsearchable (Option Path) :=
  let candidate := Path.join ⟨.slash, disk.working⟩ (.ofString name)
  (disk.isFile candidate).map fun found => if found then some candidate else none

def settingOf (v : Toml.Value) : Setting :=
  match v with
  | .text s => .text s
  | v => .other v.kind

def settings (table : Toml.Table) : List (String × Setting) :=
  table.map fun m => (m.1, settingOf m.2)

end Policy

end PrefixLint
