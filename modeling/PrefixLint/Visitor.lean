import PrefixLint.Markup
import PrefixLint.Ast.Walk

/-!
# The visitor of a unit

While a unit is walked the visitor notes the first name that is exported by default, the first name
of a class declaration and the elements with a class attribute. The declaration that names the
component may follow the markup, so elements are judged only when a program is left. Then the notes
are cleared, whatever the outcome, and the visitor is ready for another unit. A tree is checked by
one walk of a fresh visitor, inside the journal's context of its unit.
-/

namespace PrefixLint

open Ast

structure Notes where
  exported : Option String := none
  defined : Option String := none
  pending : Array Value := #[]

namespace Notes

def firstName (held given : Option String) : Option String := held.or (given.filter (· ≠ ""))

def recordExport (n : Notes) (name : Option String) : Notes :=
  { n with exported := firstName n.exported name }

def recordClass (n : Notes) (name : Option String) : Notes :=
  { n with defined := firstName n.defined name }

def recordElement (n : Notes) (element : Value) : Notes :=
  { n with pending := n.pending.push element }

def component (n : Notes) : Option String := n.exported.or n.defined

end Notes

def identifierName? (node : Value) : Option String :=
  if node.getText? "type" = some "Identifier" then node.getText? "name" else none

/-- The name that a default export binds: an identifier, or the identifier of what is declared. -/
def exportName? (node : Value) : Option String :=
  (node.object? "declaration").bind fun declaration =>
    (identifierName? declaration).or ((declaration.get? "id").bind identifierName?)

def className? (node : Value) : Option String := (node.get? "id").bind identifierName?

def missingPrefixMessage : String :=
  "Cannot find class prefix (no default export and no class definition)"

structure Visitor where
  convention : Option Convention
  unit : String
  notes : Notes := {}
  diagnostics : Array Diagnostic := #[]
  journal : Journal := {}

namespace Visitor

def onExport (name : Option String) (v : Visitor) : Visitor :=
  { v with notes := v.notes.recordExport name }

def onClass (name : Option String) (v : Visitor) : Visitor :=
  { v with notes := v.notes.recordClass name }

def onElement (element : Value) (v : Visitor) : Visitor :=
  { v with notes := v.notes.recordElement element }

def reset (v : Visitor) : Visitor := { v with notes := {} }

def add (found : List Diagnostic) (v : Visitor) : Visitor :=
  { v with diagnostics := v.diagnostics ++ found }

def report (node : Value) (message : String) (v : Visitor) : Visitor :=
  v.add [.ofNode node message ruleId]

def log (message : String) (v : Visitor) : Visitor :=
  { v with journal := v.journal.write .debug .rule message }

def resolvePrefix? (v : Visitor) : Option String :=
  v.notes.component.map fun name => transform v.convention name ++ separator

/-- Judges the pending elements and clears the notes. Diagnostics are added all together or, when
judging fails, not at all. -/
def resolve (node : Value) : EStateM Ast.Fault Visitor Unit := fun v =>
  if v.notes.pending.isEmpty then
    .ok () v.reset
  else
    match v.resolvePrefix? with
    | none =>
      let v := v.log s!"no prefix for {v.notes.pending.size} element(s) in {v.unit}"
      .ok () (v.report node missingPrefixMessage).reset
    | some pre =>
      let v := v.log s!"resolved prefix {Text.quoted pre} for {v.unit}"
      match Markup.validate pre v.notes.pending.toList with
      | .ok found => .ok () (v.add found).reset
      | .error f => .error f v.reset

def onNode (node : Value) (v : Visitor) : Visitor :=
  if Markup.hasClassAttribute node then v.onElement node else v

def handlers : Handlers Ast.Fault Visitor
  | "ExportDefaultDeclaration" => some fun node => modify (onExport (exportName? node))
  | "ClassDeclaration" => some fun node => modify (onClass (className? node))
  | "JSXElement" => some fun node => modify (onNode node)
  | "Program:exit" => some resolve
  | _ => none

end Visitor

def inspect (convention : Option Convention) (unit : String) (tree : Value) :
    EStateM Ast.Fault Journal (List Diagnostic) := fun journal =>
  match walk Visitor.handlers id tree { convention, unit, journal } with
  | .ok _ v => .ok v.diagnostics.toList v.journal
  | .error f v => .error f v.journal

def lintTree (convention : Option Convention) (unit : String) (tree : Value) :
    EStateM Ast.Fault Journal (List Diagnostic) :=
  Journal.within unit do
    modify (·.write .debug .units "checking unit")
    let found ← inspect convention unit tree
    modify (·.write .debug .units s!"finished unit with {found.length} diagnostic(s)")
    return found

end PrefixLint
