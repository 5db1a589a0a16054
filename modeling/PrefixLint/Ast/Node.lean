import PrefixLint.Ast.Value

/-!
# Nodes and their children

A node is an object whose member `type` is a string. Its children are the nodes among its member
values and the nodes in its member lists, apart from members that hold positions, back references
or token streams. Children are visited by their offset in the source when every child has one, and
in the order of members and list items otherwise.
-/

namespace PrefixLint.Ast

/-- What stops a check on a tree of an unexpected shape. -/
inductive Fault where
  | notNode (found : Kind)
  | compositeType (found : Kind)
  deriving DecidableEq, Repr

def Fault.message : Fault → String
  | .notNode found => s!"expected an ESTree node, got {found.name}"
  | .compositeType found => s!"unhashable type: '{found.name}'"

def metadataKeys : List String :=
  ["loc", "range", "start", "end", "parent", "comments", "tokens", "extra"]

namespace Value

def nodeType? (v : Value) : Option String := v.getText? "type"

def isNode (v : Value) : Bool := v.nodeType?.isSome

def nodeType (v : Value) : String := v.nodeType?.getD ""

def offset? (v : Value) : Option Int :=
  ((v.get? "start").bind integer?).or
    (((v.get? "range").bind items?).bind fun items => items.head?.bind integer?)

def nodesOf (v : Value) : List Value :=
  if v.isNode then [v] else (v.items?.getD []).filter isNode

def childrenOf (members : List (String × Value)) : List Value :=
  members.flatMap fun m => if metadataKeys.contains m.1 then [] else m.2.nodesOf

def byOffset (vs : List Value) : List Value :=
  if vs.all (·.offset?.isSome) then
    vs.mergeSort fun a b => decide (a.offset?.getD 0 ≤ b.offset?.getD 0)
  else
    vs

def children (v : Value) : List Value := byOffset (childrenOf v.members)

end Value

end PrefixLint.Ast
