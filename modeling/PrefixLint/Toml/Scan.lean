import PrefixLint.Text.Quoted
import PrefixLint.Text.Scan

/-!
# Scanning policy files

The faults of policy files and the scanners that all parts of them share. A fault remembers what was
left of the text, from which its line and column follow.
-/

namespace PrefixLint.Toml

open Text

abbrev Key := List String

def keyText : Key → String
  | [part] => s!"({Text.quoted part},)"
  | parts =>
    let listed := ", ".intercalate (parts.map Text.quoted)
    s!"({listed})"

inductive Cause where
  | invalidStatement
  | invalidValue
  | badKeyStart
  | expectedLineEnd
  | expectedEquals
  | expectedTableEnd
  | expectedArrayEnd
  | declaredTwice (key : Key)
  | overwritten
  | frozen (key : Key)
  | redefined (key : Key)
  | duplicateInlineKey (name : String)
  | unterminatedString
  | expectedText (text : String)
  | illegalCharacter (c : Char)
  | foundInvalid (c : Char)
  | unescapedBackslash
  | invalidHex
  | notScalarValue
  | unclosedArray
  | unclosedInlineTable
  | invalidDate
  deriving DecidableEq, Repr

def Cause.message : Cause → String
  | .invalidStatement => "Invalid statement"
  | .invalidValue => "Invalid value"
  | .badKeyStart => "Invalid initial character for a key part"
  | .expectedLineEnd => "Expected newline or end of document after a statement"
  | .expectedEquals => "Expected '=' after a key in a key/value pair"
  | .expectedTableEnd => "Expected ']' at the end of a table declaration"
  | .expectedArrayEnd => "Expected ']]' at the end of an array declaration"
  | .declaredTwice key => s!"Cannot declare {keyText key} twice"
  | .overwritten => "Cannot overwrite a value"
  | .frozen key => s!"Cannot mutate immutable namespace {keyText key}"
  | .redefined key => s!"Cannot redefine namespace {keyText key}"
  | .duplicateInlineKey name => s!"Duplicate inline table key {Text.quoted name}"
  | .unterminatedString => "Unterminated string"
  | .expectedText text => s!"Expected {Text.quoted text}"
  | .illegalCharacter c => s!"Illegal character {Text.quoted (String.singleton c)}"
  | .foundInvalid c => s!"Found invalid character {Text.quoted (String.singleton c)}"
  | .unescapedBackslash => "Unescaped '\\' in a string"
  | .invalidHex => "Invalid hex value"
  | .notScalarValue => "Escaped character is not a Unicode scalar value"
  | .unclosedArray => "Unclosed array"
  | .unclosedInlineTable => "Unclosed inline table"
  | .invalidDate => "Invalid date or datetime"

/-- What a value that is nested too deep is refused with: the lack of room is met in the reading of
the nest itself or in a call for a part of it. -/
inductive Shortage where
  | plain
  | calling
  deriving DecidableEq, Repr

/-- Why a text is refused. A fault comes with the text that was left where it was found. -/
inductive Refusal where
  | malformed (cause : Cause) (left : List Char)
  | longInteger (digits : Nat)
  | tooDeep (shortage : Shortage)
  deriving DecidableEq, Repr

abbrev Scan (α : Type) := Text.Scan Refusal α

abbrev Scanned (α : Type) (text : List Char) := Text.Scanned Refusal α text

def fail {α : Type} (cause : Cause) : Scan α := Text.Scan.failWith (.malformed cause)

def isBlank (c : Char) : Bool := c = ' ' || c = '\t'

def isBlankOrNewline (c : Char) : Bool := isBlank c || c = '\n'

def isControl (c : Char) : Bool := (c.toNat < 0x20 && c ≠ '\t') || c.toNat = 0x7F

def isControlInLines (c : Char) : Bool := isControl c && c ≠ '\n'

def splitBefore (text : List Char) (done : List Char) :
    List Char → Option (List Char × List Char)
  | [] => if text.isEmpty then some (done.reverse, []) else none
  | c :: rest =>
    if text.isPrefixOf (c :: rest) then some (done.reverse, c :: rest)
    else splitBefore text (c :: done) rest

/-- Reads up to the first occurrence of a text. Characters that are not allowed there are a fault,
but the missing end of a text that must end comes first. -/
def upTo (text : String) (illegal : Char → Bool) (mustEnd : Bool) : Scan (List Char) := do
  let cs ← Scan.left
  let before := (splitBefore text.toList [] cs).map (·.1)
  if before.isNone && mustEnd then
    Scan.drop cs.length
    fail (.expectedText text)
  else
    let body := before.getD cs
    match body.dropWhile (!illegal ·) with
    | [] => Scan.take body.length
    | c :: _ =>
      Scan.skipWhile (!illegal ·)
      fail (.foundInvalid c)

def comment : Scan Unit := do
  if ← Scan.accept "#" then
    let _ ← upTo "\n" isControl false

end PrefixLint.Toml
