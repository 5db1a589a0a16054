import PrefixLint.Ast.Value
import PrefixLint.Convention
import PrefixLint.Journal
import PrefixLint.Text.Quoted

/-!
# Options of the rule

The rule has one option, the prefix type, which names a convention. Options are given as a table, or
not at all, which counts as an empty one. An empty or missing prefix type stands for the default. A
prefix type that names no convention is kept, with a warning: names are then not transformed. Keys
are judged before values, so an unknown key hides a wrong value.
-/

namespace PrefixLint

/-- An option value as far as the rule looks into it. -/
inductive Setting where
  | null
  | text (s : String)
  | other (kind : Kind)
  deriving DecidableEq, Repr

def Setting.ofValue : Ast.Value → Setting
  | .null => .null
  | .text s => .text s
  | v => .other v.kind

def prefixTypeOption : String := "prefixType"

def defaultPrefixType : String := "dash"

def ruleId : String := "classname-prefix"

structure Options where
  prefixType : String := defaultPrefixType
  convention : Option Convention := some .dash
  deriving DecidableEq, Repr

namespace Options

inductive Fault where
  | notTable (found : Kind)
  | unknownKeys (keys : List String)
  | wrongType (found : Kind)
  deriving DecidableEq, Repr

def Fault.code : Fault → String
  | .notTable _ => "invalid_options"
  | .unknownKeys _ => "unknown_option"
  | .wrongType _ => "invalid_prefix_type"

def Fault.message : Fault → String
  | .notTable found => s!"rule options must be a table, got {found.name}"
  | .unknownKeys keys =>
    let listed := ", ".intercalate keys
    s!"unknown rule option(s): {listed} (allowed: {prefixTypeOption})"
  | .wrongType found => s!"{prefixTypeOption} must be a string, got {found.name}"

def tableOf : Ast.Value → Except Fault (List (String × Setting))
  | .null => .ok []
  | .object members => .ok (members.map fun m => (m.1, .ofValue m.2))
  | v => .error (.notTable v.kind)

def prefixTypeOf (table : List (String × Setting)) : Except Fault String :=
  match (table.map (·.1)).filter (· ≠ prefixTypeOption) with
  | [] =>
    match table.lookup prefixTypeOption with
    | none | some .null => .ok defaultPrefixType
    | some (.text s) => .ok (if s = "" then defaultPrefixType else s)
    | some (.other kind) => .error (.wrongType kind)
  | unknown => .error (.unknownKeys (unknown.mergeSort fun a b => decide (a ≤ b)))

end Options

namespace Session

def unknownConventionKey (name : String) : String := "prefix_type:" ++ name

def unknownConventionText (name : String) : String :=
  s!"unknown prefixType {Text.quoted name}; class prefixes will not be transformed"

def convention (s : Session) (name : String) : Option Convention × Session :=
  match Convention.ofName? name with
  | some c => (some c, s)
  | none =>
    (none, (s.warnOnce (unknownConventionKey name) (unknownConventionText name) s!"[{ruleId}]").2)

/-- The convention that a prefix type asks for; no prefix type asks for none and is no mistake. -/
def conventionOf (s : Session) : Option String → Option Convention × Session
  | none => (none, s)
  | some name => s.convention name

def options (s : Session) (table : List (String × Setting)) :
    Except Options.Fault (Options × Session) :=
  match Options.prefixTypeOf table with
  | .error f => .error f
  | .ok prefixType =>
    let (convention, s) := s.convention prefixType
    .ok ({ prefixType, convention }, s)

def optionsOf (s : Session) (raw : Ast.Value) : Except Options.Fault (Options × Session) := do
  s.options (← Options.tableOf raw)

end Session

end PrefixLint
