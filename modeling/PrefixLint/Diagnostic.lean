import PrefixLint.Options
import PrefixLint.Ast.Value
import PrefixLint.Number

/-!
# Diagnostics

A diagnostic is a message about a place in the source. The place is taken from the node's `loc`
member as far as it is there; columns are stored from zero and shown from one. A unit, line or
column that is not known is left out of the text, and a place whose numbers are too long to be
written has none.
-/

namespace PrefixLint

open Ast

inductive Coordinate where
  | number (n : Int)
  | flag (b : Bool)
  deriving DecidableEq, Repr

namespace Coordinate

def ofValue? : Value → Option Coordinate
  | .int n => some (.number n)
  | .bool b => some (.flag b)
  | _ => none

def value : Coordinate → Int
  | number n => n
  | flag b => if b then 1 else 0

def text? : Coordinate → Option String
  | number n => Number.decimal? n
  | flag true => some "True"
  | flag false => some "False"

end Coordinate

structure Diagnostic where
  anchor : Value
  message : String
  ruleId : String := ruleId
  line : Option Coordinate
  column : Option Coordinate

namespace Diagnostic

def startOf (node : Value) : Option Value := (node.object? "loc").bind (·.object? "start")

def coordinate? (node : Value) (key : String) : Option Coordinate :=
  ((startOf node).bind (·.get? key)).bind Coordinate.ofValue?

def ofNode (node : Value) (message : String) (rule : String) : Diagnostic :=
  { anchor := node
    message
    ruleId := rule
    line := coordinate? node "line"
    column := coordinate? node "column" }

def place? (d : Diagnostic) (unit : Option String) : Option (List String) := do
  let line ← d.line.mapM Coordinate.text?
  let column ← d.column.mapM fun c => Number.decimal? (c.value + 1)
  return unit.toList ++ line.toList ++ column.toList

def format? (d : Diagnostic) (unit : Option String) : Option String :=
  (d.place? unit).map fun place =>
    let location := ":".intercalate place
    if location = "" then d.message else s!"{location}: {d.message}"

end Diagnostic

end PrefixLint
