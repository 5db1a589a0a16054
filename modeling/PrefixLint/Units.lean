import PrefixLint.Failure
import PrefixLint.Visitor

/-!
# Units

A unit is a file that holds the syntax tree of a program. Units are found under directories by
patterns, in the order of their paths; a path that is no directory counts as a unit as it stands,
and no unit is checked twice. A unit that cannot be loaded is remembered and skipped.
-/

namespace PrefixLint

open Ast Disk

def rootTypes : List String := ["Program", "File"]

/-- The room for nested values in a unit that is loaded by itself. -/
def unitRoom : Nat := 990

def treeOf (room : Nat) (path : Path) (text : List Char) : Except Failure Value :=
  match Json.parse room text with
  | .error (.malformed f) => .error (.input ⟨path, .malformed f⟩)
  | .error .tooDeep => .error (.input ⟨path, .tooDeep⟩)
  | .error (.longInteger digits) => .error (.longInteger digits)
  | .ok tree =>
    if (tree.nodeType?.map rootTypes.contains).getD false then .ok tree
    else .error (.input ⟨path, .notProgram⟩)

def loadTree (room : Nat) (disk : Disk) (path : Path) : Except Failure Value :=
  match disk.readText path with
  | .error (.access f) => .error (.input ⟨path, .inaccessible f⟩)
  | .error (.undecodable f) => .error (.input ⟨path, .undecodable f⟩)
  | .error .nullByte => .error .nullByte
  | .ok text => treeOf room path text

def filesMatching (disk : Disk) (directory : Path) (pattern : String) :
    Except Failure (List Path) := do
  let pattern ← (Pattern.ofString pattern).mapError .pattern
  (glob disk directory pattern).mapError .unsearchable

def filesBelow (disk : Disk) (patterns : List String) (directory : Path) :
    Except Failure (List Path) :=
  (patterns.flatMapM (filesMatching disk directory)).map fun found =>
    found.eraseDups.mergeSort Path.le

/-- The units that one path stands for. Patterns are read only when a directory is searched. -/
def unitsAt (disk : Disk) (patterns : List String) (path : Path) : Except Failure (List Path) := do
  if ← (disk.isDirectory path).mapError .unsearchable then filesBelow disk patterns path
  else return [path]

def unitPaths (disk : Disk) (patterns : List String) (paths : List Path) :
    Except Failure (List Path) :=
  (paths.flatMapM (unitsAt disk patterns)).map (·.eraseDups)

structure Results where
  units : List (String × List Diagnostic) := []
  errors : List InputFault := []

def Results.record (r : Results) (unit : String) (found : List Diagnostic) : Results :=
  if r.units.any (·.1 == unit) then
    { r with units := r.units.map fun u => if u.1 = unit then (unit, found) else u }
  else
    { r with units := r.units ++ [(unit, found)] }

def lintUnit (room : Nat) (disk : Disk) (convention : Option Convention) (r : Results)
    (path : Path) : EStateM Failure Journal Results := fun journal =>
  let unit := path.toString
  match loadTree room disk path with
  | .error (.input f) =>
    .ok { r with errors := r.errors ++ [f] }
      (journal.write .debug .units s!"skipping unit {unit}: {f.code}")
  | .error e => .error e journal
  | .ok tree =>
    match lintTree convention unit tree journal with
    | .ok found journal => .ok (r.record unit found) journal
    | .error f journal => .error (.tree f) journal

def lintUnits (room : Nat) (disk : Disk) (convention : Option Convention) (r : Results) :
    List Path → EStateM Failure Journal Results
  | [] => pure r
  | path :: rest => do
    let r ← lintUnit room disk convention r path
    lintUnits room disk convention r rest

def lintPaths (room : Nat) (disk : Disk) (convention : Option Convention)
    (patterns : List String) (paths : List Path) : EStateM Failure Journal Results :=
  match unitPaths disk patterns paths with
  | .error f => throw f
  | .ok units => lintUnits room disk convention {} units

end PrefixLint
