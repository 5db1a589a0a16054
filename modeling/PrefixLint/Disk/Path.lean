import PrefixLint.Text.Pieces

/-!
# Paths

A path is a root and a list of names. Reading a path drops empty names and single dots, so that two
spellings of one path are equal; double dots stay, since what they mean depends on the disk. A path
that starts with exactly two slashes keeps them apart from the ordinary root. Paths are ordered by
their names, not by their spelling.
-/

namespace PrefixLint.Disk

inductive Root where
  | relative
  | slash
  | doubleSlash
  deriving DecidableEq, Repr

def Root.text : Root → String
  | .relative => ""
  | .slash => "/"
  | .doubleSlash => "//"

structure Path where
  root : Root
  names : List String
  deriving DecidableEq, Repr

namespace Path

def rootOf : List Char → Root
  | '/' :: '/' :: '/' :: _ => .slash
  | '/' :: '/' :: _ => .doubleSlash
  | '/' :: _ => .slash
  | _ => .relative

def namesOf (cs : List Char) : List String :=
  ((Text.splitAt '/' cs).map String.ofList).filter fun name => name ≠ "" && name ≠ "."

def ofString (s : String) : Path := ⟨rootOf s.toList, namesOf s.toList⟩

def toString (p : Path) : String :=
  match p.root, p.names with
  | .relative, [] => "."
  | root, names => root.text ++ "/".intercalate names

instance : ToString Path := ⟨toString⟩

def join (p q : Path) : Path :=
  match q.root with
  | .relative => { p with names := p.names ++ q.names }
  | _ => q

def child (p : Path) (name : String) : Path := { p with names := p.names ++ [name] }

def key (p : Path) : List String :=
  match p.root with
  | .relative => p.names
  | root => root.text :: p.names

def namesLe : List String → List String → Bool
  | [], _ => true
  | _ :: _, [] => false
  | a :: as, b :: bs => if a = b then namesLe as bs else decide (a ≤ b)

def le (p q : Path) : Bool := namesLe p.key q.key

/-- A path with a null character names nothing on any disk and cannot be opened. -/
def hasNull (p : Path) : Bool := p.names.any fun name => name.toList.contains '\x00'

end Path

end PrefixLint.Disk
