import PrefixLint.Command.Run

/-!
# The program

Reads the environment and the files that the arguments name, runs the command and prints what it
leaves behind. Nothing is decided here.
-/

namespace PrefixLint.Main

open Disk Command

partial def entryAt (path : String) : IO (Option Entry) := do
  try
    let real ← IO.FS.realPath path
    if ← real.isDir then
      let mut entries := []
      for e in ← real.readDir do
        if let some entry ← entryAt e.path.toString then
          entries := (e.fileName, entry) :: entries
      return some (.directory entries)
    else
      return some (.file (← IO.FS.readBinFile real).toList)
  catch _ => return none

def namesTo (path : String) : IO (Option (List String)) := do
  try
    return some (Path.ofString (← IO.FS.realPath path).toString).names
  catch _ => return none

/-- Copies what lies at a path onto the disk, with the places on the way to it. -/
def copy (disk : Disk) (path : Path) : IO Disk := do
  let mut disk := disk
  for n in List.range path.names.length do
    let place := { path with names := path.names.take n }
    if let some names ← namesTo place.toString then
      unless (disk.find ⟨.slash, names⟩).toBool do
        disk := { disk with top := put (.directory []) names disk.top }
  if let some names ← namesTo path.toString then
    if let some entry ← entryAt path.toString then
      disk := { disk with top := put entry names disk.top }
  return disk

def variableNames : List String :=
  ["CLASSNAME_PREFIX_LOG_LEVEL", "CLASSNAME_PREFIX_POLICY"]

def readSettings : IO Settings := do
  let values ← variableNames.filterMapM fun name => do
    return (← IO.getEnv name).map (name, ·)
  return .ofEnvironment fun name => values.lookup name

def pathsOf (settings : Settings) (argv : List String) : List Path :=
  match parseArguments argv with
  | .check arguments =>
    (settings.policyFile :: arguments.config.toList ++ arguments.paths).map Path.ofString
  | _ => []

end PrefixLint.Main

open PrefixLint PrefixLint.Command PrefixLint.Main in
def main (argv : List String) : IO UInt32 := do
  let settings ← readSettings
  let working := (Disk.Path.ofString (← IO.currentDir).toString).names
  let empty : Disk := { top := Disk.put (.directory []) working (.directory []), working }
  let disk ← (pathsOf settings argv).foldlM copy empty
  let (outcome, _) := Command.run settings disk argv {}
  outcome.output.forM IO.println
  outcome.errorLines.forM IO.eprintln
  match outcome.exit with
  | .ok code => return code.toUInt32
  | .error failure =>
    IO.eprintln failure.message
    return 1
