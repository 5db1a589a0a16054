import PrefixLint.Diagnostic
import PrefixLint.Ast.Node
import PrefixLint.Text.Pieces

/-!
# Class names in markup

A markup element lists its attributes under `openingElement`. A class attribute is one whose name
is `className`; only a literal value is judged, and expressions are left alone. The value is cut at
spaces into tokens, and a token is right if it starts with the prefix or is the prefix without its
separator.
-/

namespace PrefixLint

open Ast

def separator : String := "__"

def classAttribute : String := "className"

namespace Markup

def attributes (element : Value) : List Value :=
  let listed := ((element.object? "openingElement").bind (·.get? "attributes")).bind Value.items?
  (listed.getD []).filter Value.isObject

def isClassAttribute (attr : Value) : Bool :=
  ((attr.object? "name").bind (·.getText? "name")) == some classAttribute

def hasClassAttribute (element : Value) : Bool := (attributes element).any isClassAttribute

def literalTypes : List String := ["Literal", "StringLiteral"]

/-- The string that an attribute gives literally. A value whose type is a list or an object cannot
be looked up among the literal types, and that is a fault. -/
def literalClass? (attr : Value) : Except Ast.Fault (Option String) :=
  match attr.object? "value" with
  | none => .ok none
  | some v =>
    match v.get? "type" with
    | some (.text type) => .ok (if literalTypes.contains type then v.getText? "value" else none)
    | some (.list _) => .error (.compositeType .list)
    | some (.object _) => .error (.compositeType .table)
    | _ => .ok none

def classTokens (value : String) : List String :=
  ((Text.splitAt ' ' value.toList).filter (!·.isEmpty)).map String.ofList

def bareName (pre : String) : String :=
  if separator.toList.isSuffixOf pre.toList then
    String.ofList (pre.toList.take (pre.length - separator.length))
  else
    pre

def tokenMatches (pre token : String) : Bool :=
  pre.toList.isPrefixOf token.toList || token == bareName pre

def violationMessage (pre token : String) : String :=
  s!"Class \"{token}\" name should starts with \"{pre}\""

def attributeViolations (pre : String) (attr : Value) : Except Ast.Fault (List String) :=
  match literalClass? attr with
  | .error f => .error f
  | .ok none => .ok []
  | .ok (some value) => .ok ((classTokens value).filter (!tokenMatches pre ·))

def violations (pre : String) (element : Value) : Except Ast.Fault (List String) :=
  ((attributes element).filter isClassAttribute).flatMapM (attributeViolations pre)

def elementDiagnostics (pre : String) (element : Value) : Except Ast.Fault (List Diagnostic) :=
  (violations pre element).map fun tokens =>
    tokens.map fun token => .ofNode element (violationMessage pre token) ruleId

def validate (pre : String) (elements : List Value) : Except Ast.Fault (List Diagnostic) :=
  elements.flatMapM (elementDiagnostics pre)

end Markup

end PrefixLint
