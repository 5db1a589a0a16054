import PrefixLint.Ast.Value
import PrefixLint.Number

/-!
# Values of a policy file

Tables keep their members in the order in which they were written. A date or time is kept as it was
given, with fractions of a second cut to millionths.
-/

namespace PrefixLint.Toml

structure Date where
  year : Nat
  month : Nat
  day : Nat
  deriving DecidableEq, Repr

structure Time where
  hour : Nat
  minute : Nat
  second : Nat
  micros : Nat
  deriving DecidableEq, Repr

structure Offset where
  negative : Bool
  hours : Nat
  minutes : Nat
  deriving DecidableEq, Repr

inductive Moment where
  | date (d : Date)
  | time (t : Time)
  | datetime (d : Date) (t : Time) (offset : Option Offset)
  deriving DecidableEq, Repr

def isLeap (year : Nat) : Bool := year % 4 = 0 && (year % 100 ≠ 0 || year % 400 = 0)

def daysIn (year month : Nat) : Nat :=
  if month = 2 then if isLeap year then 29 else 28
  else if month = 4 || month = 6 || month = 9 || month = 11 then 30
  else 31

-- The calendar has no year zero; the bounds of the month were checked when it was read.
def Date.isValid (d : Date) : Bool := 1 ≤ d.year && d.day ≤ daysIn d.year d.month

/-- A value, where an array is either written in one piece or made of tables that headers add to it.
The tables of the latter come with the newest first. -/
inductive Value where
  | text (s : String)
  | int (n : Int)
  | float (x : Number.Binary64)
  | bool (b : Bool)
  | moment (m : Moment)
  | list (items : List Value)
  | tables (newestFirst : List (List (String × Value)))
  | table (members : List (String × Value))
  deriving Inhabited

abbrev Table := List (String × Value)

namespace Value

def kind : Value → Kind
  | text _ => .text
  | int _ => .int
  | float _ => .float
  | bool _ => .bool
  | moment (.date _) => .date
  | moment (.time _) => .time
  | moment (.datetime ..) => .datetime
  | list _ => .list
  | tables _ => .list
  | table _ => .table

def items? : Value → Option (List Value)
  | list vs => some vs
  | tables newestFirst => some (newestFirst.reverse.map table)
  | _ => none

def isNest : Value → Bool
  | list _ => true
  | table _ => true
  | _ => false

end Value

namespace Table

inductive Clash where
  | noTable
  | taken
  deriving DecidableEq, Repr

def alter (key : String) (f : Option Value → Except Clash Value) : Table → Except Clash Table
  | [] => (f none).map fun v => [(key, v)]
  | (k, v) :: rest =>
    if k = key then (f (some v)).map fun w => (k, w) :: rest
    else (alter key f rest).map fun rest => (k, v) :: rest

/-- Changes the table that a key leads to, making tables on the way where there are none. With
`throughLists` the way leads through the newest table of an array. -/
def update (throughLists : Bool) (f : Table → Except Clash Table) :
    List String → Table → Except Clash Table
  | [], t => f t
  | key :: rest, t =>
    t.alter key fun
      | none => (update throughLists f rest []).map .table
      | some (.table below) => (update throughLists f rest below).map .table
      | some (.tables (newest :: older)) =>
        if throughLists then
          (update throughLists f rest newest).map fun newest => .tables (newest :: older)
        else
          .error .noTable
      | some _ => .error .noTable

def insertNew (key : String) (v : Value) (t : Table) : Except Clash Table :=
  t.alter key fun
    | none => .ok v
    | some _ => .error .taken

def appendTable (key : String) (t : Table) : Except Clash Table :=
  t.alter key fun
    | none => .ok (.tables [[]])
    | some (.tables newestFirst) => .ok (.tables ([] :: newestFirst))
    | some _ => .error .noTable

end Table

end PrefixLint.Toml
