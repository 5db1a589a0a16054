import PrefixLint.Disk.Pattern
import PrefixLint.Options
import PrefixLint.Text.Template
import PrefixLint.Toml.Document
import PrefixLint.Ast.Json
import PrefixLint.Ast.Node

/-!
# Failures

Everything that can end a check before its time. Faults of options, policies and inputs are the
program's own: they carry a code and are reported to the user. The others are not expected by the
program and end it.
-/

namespace PrefixLint

open Disk

inductive InputCause where
  | inaccessible (fault : AccessFault)
  | undecodable (fault : Text.Utf8.Fault)
  | malformed (fault : Ast.Json.Fault)
  | tooDeep
  | notProgram
  deriving DecidableEq, Repr

structure InputFault where
  path : Path
  cause : InputCause
  deriving DecidableEq, Repr

def InputFault.code (f : InputFault) : String :=
  match f.cause with
  | .inaccessible _ | .undecodable _ => "unreadable"
  | .malformed _ => "invalid_json"
  | .tooDeep => "too_deep"
  | .notProgram => "not_program"

def InputFault.message (f : InputFault) : String :=
  let name := f.path.toString
  match f.cause with
  | .inaccessible a => s!"{name}: cannot read AST ({a.report f.path})"
  | .undecodable u => s!"{name}: cannot read AST ({u.message})"
  | .malformed j => s!"{name}: invalid JSON ({j.message})"
  | .tooDeep => s!"{name}: JSON nesting too deep to decode"
  | .notProgram => s!"{name}: root is not an ESTree Program"

inductive PolicyCause where
  | inaccessible (fault : AccessFault)
  | malformed (fault : Toml.Fault)
  | notTable (key : String)
  | badInclude
  deriving DecidableEq, Repr

structure PolicyFault where
  path : Path
  cause : PolicyCause
  deriving DecidableEq, Repr

def PolicyFault.code (f : PolicyFault) : String :=
  match f.cause with
  | .inaccessible _ => "unreadable_policy"
  | _ => "invalid_policy"

def PolicyFault.message (f : PolicyFault) : String :=
  let name := f.path.toString
  match f.cause with
  | .inaccessible a => s!"{name}: {a.text}"
  | .malformed t => s!"{name}: {t.message}"
  | .notTable key => s!"{name}: [{key}] must be a table"
  | .badInclude => s!"{name}: paths.include must be a list of glob strings"

inductive Failure where
  | options (fault : Options.Fault)
  | policy (fault : PolicyFault)
  | input (fault : InputFault)
  | tree (fault : Ast.Fault)
  | pattern (fault : Pattern.Fault)
  | unsearchable (path : Unsearchable)
  | undecodable (fault : Text.Utf8.Fault)
  | tooDeep (shortage : Toml.Shortage)
  | longInteger (digits : Nat)
  | unwritableInteger
  | template (fault : Text.Template.Fault)
  | nullByte
  | unknownLevel (name : String)
  deriving DecidableEq, Repr

namespace Failure

def depthExceeded : String := "maximum recursion depth exceeded"

def integerLimit : String :=
  s!"Exceeds the limit ({Number.digitLimit} digits) for integer string conversion"

def integerHint : String := "use sys.set_int_max_str_digits() to increase the limit"

def message : Failure → String
  | options f => f.message
  | policy f => f.message
  | input f => f.message
  | tree f => f.message
  | pattern f => f.message
  | unsearchable u => u.message
  | undecodable f => f.message
  | tooDeep .plain => depthExceeded
  | tooDeep .calling => depthExceeded ++ " while calling a Python object"
  | longInteger digits => s!"{integerLimit}: value has {digits} digits; {integerHint}"
  | unwritableInteger => s!"{integerLimit}; {integerHint}"
  | template f => f.message
  | nullByte => "embedded null byte"
  | unknownLevel name => s!"Unknown level: {Text.quoted name}"

def code? : Failure → Option String
  | options f => some f.code
  | policy f => some f.code
  | input f => some f.code
  | _ => none

end Failure

def exitOk : Nat := 0
def exitViolations : Nat := 1
def exitUsage : Nat := 2
def exitInput : Nat := 3

def Failure.exitCode : Failure → Nat
  | input _ => exitInput
  | _ => exitUsage

end PrefixLint
