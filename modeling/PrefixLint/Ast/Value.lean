/-!
# Values of a syntax tree

A syntax tree arrives as a document of objects and lists. Members of an object stay in the order in
which they were written, because that order decides how children without offsets are visited. No
rule reads the magnitude of a fractional number, so such a number keeps none.

Messages name a value by its kind. Policy files have the same kinds and dates and times besides.
-/

namespace PrefixLint

inductive Kind where
  | null
  | bool
  | int
  | float
  | text
  | list
  | table
  | datetime
  | date
  | time
  deriving DecidableEq, Repr

def Kind.name : Kind → String
  | .null => "NoneType"
  | .bool => "bool"
  | .int => "int"
  | .float => "float"
  | .text => "str"
  | .list => "list"
  | .table => "dict"
  | .datetime => "datetime"
  | .date => "date"
  | .time => "time"

namespace Ast

inductive Value where
  | null
  | bool (b : Bool)
  | int (n : Int)
  | float
  | text (s : String)
  | list (items : List Value)
  | object (members : List (String × Value))
  deriving Inhabited

namespace Value

def kind : Value → Kind
  | null => .null
  | bool _ => .bool
  | int _ => .int
  | float => .float
  | text _ => .text
  | list _ => .list
  | object _ => .table

def members : Value → List (String × Value)
  | object ms => ms
  | _ => []

def get? (v : Value) (key : String) : Option Value := v.members.lookup key

def text? : Value → Option String
  | text s => some s
  | _ => none

def items? : Value → Option (List Value)
  | list vs => some vs
  | _ => none

def isObject : Value → Bool
  | object _ => true
  | _ => false

def object? (v : Value) (key : String) : Option Value := (v.get? key).filter isObject

def getText? (v : Value) (key : String) : Option String := (v.get? key).bind text?

/-- Truth values count as the integers one and zero. -/
def integer? : Value → Option Int
  | int n => some n
  | bool b => some (if b then 1 else 0)
  | _ => none

end Value

def putMember (key : String) (v : Value) : List (String × Value) → List (String × Value)
  | [] => [(key, v)]
  | (k, w) :: rest => if k = key then (k, v) :: rest else (k, w) :: putMember key v rest

end Ast

end PrefixLint
