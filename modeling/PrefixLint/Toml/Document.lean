import PrefixLint.Toml.Inline

/-!
# Documents

A document is a list of statements, one on a line: members, table headers and array headers. A table
may be opened by a header only once; tables that dotted keys made can no longer be opened by a
header once another header has come; and arrays and tables written inline take nothing more. A
fault is reported by line and column, both from one.
-/

namespace PrefixLint.Toml

open Text

inductive Position where
  | endOfDocument
  | at (line column : Nat)
  deriving DecidableEq, Repr

def Position.text : Position → String
  | .endOfDocument => "end of document"
  | .at line column => s!"line {line}, column {column}"

structure Fault where
  cause : Cause
  position : Position
  deriving DecidableEq, Repr

def Fault.message (f : Fault) : String := s!"{f.cause.message} (at {f.position.text})"

def positionOf (src left : List Char) : Position :=
  if left.isEmpty then .endOfDocument
  else
    let before := src.take (src.length - left.length)
    .at ((before.filter (· = '\n')).length + 1) ((before.reverse.takeWhile (· ≠ '\n')).length + 1)

/-- What the statements so far have built: the tables, the header that members belong to, the keys
that no header may open, those that will be so at the next header, and those that are closed. -/
structure Document where
  root : Table := []
  header : Key := []
  opened : List Key := []
  pending : List Key := []
  closed : List Key := []

namespace Document

/-- From a header on, the tables that dotted keys made count as opened. -/
def settle (d : Document) : Document :=
  { d with opened := d.pending ++ d.opened, pending := [] }

def openTable (d : Document) (k : Key) : Except Cause Document :=
  if d.opened.contains k || isClosed d.closed k then .error (.declaredTwice k)
  else
    match Table.update true .ok k d.root with
    | .error _ => .error .overwritten
    | .ok root => .ok { d with root, header := k, opened := k :: d.opened }

/-- A new table at the end of the array named by a header. What was said about an earlier table of
the array does not bind it. -/
def openArray (d : Document) (k : Key) : Except Cause Document :=
  if isClosed d.closed k then .error (.frozen k)
  else
    match Table.update true (Table.appendTable (k.getLast?.getD "")) k.dropLast d.root with
    | .error _ => .error .overwritten
    | .ok root =>
      .ok { d with
        root
        header := k
        opened := k :: d.opened.filter (!k.isPrefixOf ·)
        closed := d.closed.filter (!k.isPrefixOf ·) }

def passed (d : Document) (k : Key) : List Key :=
  (List.range' 1 (k.length - 1)).map fun n => d.header ++ k.take n

def addMember (d : Document) (k : Key) (v : Value) : Except Cause Document :=
  let parent := d.header ++ k.dropLast
  match (d.passed k).find? d.opened.contains with
  | some k => .error (.redefined k)
  | none =>
    if isClosed d.closed parent then .error (.frozen parent)
    else
      match Table.update true (Table.insertNew (k.getLast?.getD "") v) parent d.root with
      | .error _ => .error .overwritten
      | .ok root =>
        .ok { d with
          root
          pending := d.passed k ++ d.pending
          closed := if v.isNest then (d.header ++ k) :: d.closed else d.closed }

def lift (change : Except Cause Document) : Scan Document :=
  match change with
  | .ok d => pure d
  | .error cause => fail cause

def tableHeader (d : Document) : Scan Document := do
  Scan.drop 1
  Scan.skipWhile isBlank
  let d ← lift (d.openTable (← key))
  if ← Scan.accept "]" then return d else fail .expectedTableEnd

def arrayHeader (d : Document) : Scan Document := do
  Scan.drop 2
  Scan.skipWhile isBlank
  let d ← lift (d.openArray (← key))
  if ← Scan.accept "]]" then return d else fail .expectedArrayEnd

def member (room : Nat) (d : Document) : Scan Document := do
  let k ← keyAndEquals
  let v ← anyValue room
  lift (d.addMember k v)

def isKeyStart (c : Char) : Bool := isBareKeyChar c || c = '"' || c = '\''

def statement (room : Nat) (d : Document) : Scan Document := do
  match ← Scan.left with
  | '[' :: '[' :: _ => arrayHeader d.settle
  | '[' :: _ => tableHeader d.settle
  | c :: _ =>
    if isKeyStart c then member room d
    else if c = '#' then return d
    else fail .invalidStatement
  | [] => return d

def line (room : Nat) (d : Document) : Scan Document := do
  Scan.skipWhile isBlank
  if (← Scan.peek) = some '\n' then return d
  else
    let d ← statement room d
    Scan.skipWhile isBlank
    comment
    return d

def lines (room : Nat) (d : Document) (cs : List Char) : Except Refusal Document :=
  match line room d cs (.whole cs) with
  | .error e => .error e
  | .ok (d, ⟨next, hnext⟩) =>
    match after? '\n' next with
    | some ⟨rest, hrest⟩ =>
      have : rest.length < cs.length := (hrest.within hnext).shorter
      lines room d rest
    | none => if next.isEmpty then .ok d else .error (.malformed .expectedLineEnd next)
termination_by cs.length

end Document

inductive Rejection where
  | malformed (fault : Fault)
  | longInteger (digits : Nat)
  | tooDeep (shortage : Shortage)
  deriving DecidableEq, Repr

def parse (room : Nat) (src : List Char) : Except Rejection Table :=
  match ({} : Document).lines room src with
  | .ok d => .ok d.root
  | .error (.malformed cause left) => .error (.malformed ⟨cause, positionOf src left⟩)
  | .error (.longInteger digits) => .error (.longInteger digits)
  | .error (.tooDeep shortage) => .error (.tooDeep shortage)

end PrefixLint.Toml
