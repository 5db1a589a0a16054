import PrefixLint.Disk.Path
import PrefixLint.Text.Utf8

/-!
# The disk

A disk is a tree of directories and files together with the place of the working directory. A path
is followed name by name; a double dot leads to the directory above, wherever the path came from,
and the directory above the topmost one is that directory itself. The system follows no path that is
too long and looks up no name that is too long. To ask what lies at such a path is a fault, while
any other path that leads nowhere is only said to hold nothing.
-/

namespace PrefixLint

inductive Disk.Entry where
  | file (bytes : List UInt8)
  | directory (entries : List (String × Disk.Entry))
  deriving Inhabited

structure Disk where
  top : Disk.Entry
  working : List String

namespace Disk

inductive AccessFault where
  | missing
  | notDirectory
  | isDirectory
  | nameTooLong
  deriving DecidableEq, Repr

def AccessFault.number : AccessFault → Nat
  | .missing => 2
  | .notDirectory => 20
  | .isDirectory => 21
  | .nameTooLong => 36

def AccessFault.text : AccessFault → String
  | .missing => "No such file or directory"
  | .notDirectory => "Not a directory"
  | .isDirectory => "Is a directory"
  | .nameTooLong => "File name too long"

def AccessFault.report (f : AccessFault) (path : Path) : String :=
  s!"[Errno {f.number}] {f.text}: {Text.quoted path.toString}"

inductive ReadFault where
  | access (fault : AccessFault)
  | undecodable (fault : Text.Utf8.Fault)
  | nullByte
  deriving DecidableEq, Repr

def nameLimit : Nat := 255

def pathLimit : Nat := 4095

/-- A directory or file that a path has reached, with the directories above it, nearest first. -/
structure Place where
  here : Entry
  above : List Entry

namespace Place

def step (p : Place) (name : String) : Except AccessFault Place :=
  match p.here with
  | .file _ => .error .notDirectory
  | .directory entries =>
    if name = ".." then
      match p.above with
      | [] => .ok p
      | parent :: above => .ok ⟨parent, above⟩
    else if nameLimit < name.utf8ByteSize then
      .error .nameTooLong
    else
      match entries.lookup name with
      | some entry => .ok ⟨entry, p.here :: p.above⟩
      | none => .error .missing

def follow (p : Place) : List String → Except AccessFault Place
  | [] => .ok p
  | name :: rest =>
    match p.step name with
    | .ok q => q.follow rest
    | .error f => .error f

end Place

def route (disk : Disk) (path : Path) : List String :=
  match path.root with
  | .relative => disk.working ++ path.names
  | _ => path.names

def find (disk : Disk) (path : Path) : Except AccessFault Entry :=
  if path.hasNull then .error .missing
  else if pathLimit < path.toString.utf8ByteSize then .error .nameTooLong
  else (Place.follow ⟨disk.top, []⟩ (disk.route path)).map (·.here)

/-- A path of which the system does not say what lies there. -/
structure Unsearchable where
  path : Path
  deriving DecidableEq, Repr

def Unsearchable.message (u : Unsearchable) : String := AccessFault.nameTooLong.report u.path

def entry? (disk : Disk) (path : Path) : Except Unsearchable (Option Entry) :=
  match disk.find path with
  | .ok entry => .ok (some entry)
  | .error .nameTooLong => .error ⟨path⟩
  | .error _ => .ok none

def Entry.isDirectory : Entry → Bool
  | .directory _ => true
  | .file _ => false

def exists? (disk : Disk) (path : Path) : Except Unsearchable Bool :=
  (disk.entry? path).map (·.isSome)

def isDirectory (disk : Disk) (path : Path) : Except Unsearchable Bool :=
  (disk.entry? path).map fun entry => (entry.map Entry.isDirectory).getD false

def isFile (disk : Disk) (path : Path) : Except Unsearchable Bool :=
  (disk.entry? path).map fun entry => (entry.map (!·.isDirectory)).getD false

def readText (disk : Disk) (path : Path) : Except ReadFault (List Char) :=
  if path.hasNull then
    .error .nullByte
  else
    match disk.find path with
    | .error f => .error (.access f)
    | .ok (.directory _) => .error (.access .isDirectory)
    | .ok (.file bytes) =>
      match Text.Utf8.decode bytes with
      | .error f => .error (.undecodable f)
      | .ok cs => .ok (Text.unifyNewlines cs)

def put (entry : Entry) : List String → Entry → Entry
  | [], _ => entry
  | name :: rest, here =>
    let entries := match here with
      | .directory entries => entries
      | .file _ => []
    let below := put entry rest ((entries.lookup name).getD (.directory []))
    if entries.any (·.1 == name) then
      .directory (entries.map fun e => if e.1 = name then (name, below) else e)
    else
      .directory (entries ++ [(name, below)])

end Disk

end PrefixLint
