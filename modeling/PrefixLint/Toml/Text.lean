import PrefixLint.Toml.Scan

/-!
# Strings and keys

Basic strings stand between double quotes and know escapes; literal strings stand between
apostrophes and know none. Three quotes open a string that may span lines: a line feed right after
them is dropped, up to two further quotes before the closing three belong to the text, and in a
basic one a backslash at the end of a line joins it to the next text.
-/

namespace PrefixLint.Toml

open Text

def isHexDigit (c : Char) : Bool :=
  ('0' ≤ c && c ≤ '9') || ('a' ≤ c && c ≤ 'f') || ('A' ≤ c && c ≤ 'F')

def hexDigit (c : Char) : Nat :=
  if c ≤ '9' then c.toNat - '0'.toNat
  else if c ≤ 'F' then c.toNat - 'A'.toNat + 10
  else c.toNat - 'a'.toNat + 10

def ofDigits (base : Nat) (ds : List Char) : Nat := ds.foldl (fun n d => n * base + hexDigit d) 0

def isScalarValue (n : Nat) : Bool := n ≤ 0xD7FF || (0xE000 ≤ n && n ≤ 0x10FFFF)

def hexChar (width : Nat) : Scan Char := do
  let digits := (← Scan.left).take width
  if digits.length = width && digits.all isHexDigit then
    Scan.drop width
    let code := ofDigits 16 digits
    if isScalarValue code then return Char.ofNat code else fail .notScalarValue
  else
    fail .invalidHex

def letterEscape? : Char → Option Char
  | 'b' => some '\x08'
  | 't' => some '\t'
  | 'n' => some '\n'
  | 'f' => some '\x0c'
  | 'r' => some '\r'
  | '"' => some '"'
  | '\\' => some '\\'
  | _ => none

def joinLines : Scan Unit := do
  Scan.skipWhile isBlank
  match ← Scan.peek with
  | none => return
  | some '\n' => Scan.skipWhile isBlankOrNewline
  | some _ => fail .unescapedBackslash

def escape (multiline : Bool) : Scan (List Char) := do
  let c ← Scan.peek
  match c with
  | some 'u' => Scan.drop 1; return [← hexChar 4]
  | some 'U' => Scan.drop 1; return [← hexChar 8]
  | some c =>
    if multiline && isBlankOrNewline c then
      joinLines
      return []
    else
      Scan.drop 1
      match letterEscape? c with
      | some e => return [e]
      | none => fail .unescapedBackslash
  | none => fail .unescapedBackslash

def basicChars (multiline : Bool) (done text : List Char) (cs : Rest text) :
    Scanned (List Char) text :=
  match cs with
  | ⟨[], _⟩ => .error (.malformed .unterminatedString [])
  | ⟨c :: rest, hcs⟩ =>
    if c = '\\' then
      match escape multiline rest (.whole rest) with
      | .error e => .error e
      | .ok (chars, ⟨next, hnext⟩) =>
        have hlt : Behind next (c :: rest) := .cons c hnext
        basicChars multiline (chars.reverse ++ done) text ⟨next, hlt.suffix.trans hcs⟩
    else if c = '"' && !multiline then
      .ok (done.reverse, ⟨rest, (List.suffix_cons c rest).trans hcs⟩)
    else if c = '"' && "\"\"".toList.isPrefixOf rest then
      .ok (done.reverse, Rest.drop 3 ⟨c :: rest, hcs⟩)
    else if (if multiline then isControlInLines c else isControl c) then
      .error (.malformed (.illegalCharacter c) (c :: rest))
    else
      basicChars multiline (c :: done) text ⟨rest, (List.suffix_cons c rest).trans hcs⟩
termination_by cs.1.length
decreasing_by
  · exact hlt.shorter
  · exact Nat.lt_succ_self _

def basicString : Scan String := do
  Scan.drop 1
  return String.ofList (← basicChars false [])

def literalString : Scan String := do
  Scan.drop 1
  let body ← upTo "'" isControl true
  Scan.drop 1
  return String.ofList body

def extraQuotes (mark : String) : Scan String := do
  if ← Scan.accept mark then
    if ← Scan.accept mark then return mark ++ mark else return mark
  else
    return ""

def multilineBasic : Scan String := do
  Scan.drop 3
  let _ ← Scan.accept "\n"
  let body ← basicChars true []
  return String.ofList body ++ (← extraQuotes "\"")

def multilineLiteral : Scan String := do
  Scan.drop 3
  let _ ← Scan.accept "\n"
  let body ← upTo "'''" isControlInLines true
  Scan.drop 3
  return String.ofList body ++ (← extraQuotes "'")

def isBareKeyChar (c : Char) : Bool := c.isAlphanum || c = '-' || c = '_'

def keyPart : Scan String := do
  match ← Scan.peek with
  | some '\'' => literalString
  | some '"' => basicString
  | some c =>
    if isBareKeyChar c then return String.ofList (← Scan.takeWhile isBareKeyChar)
    else fail .badKeyStart
  | none => fail .badKeyStart

def keyRest (done : Key) (text : List Char) (cs : Rest text) : Scanned Key text :=
  match (Rest.whole cs.1).dropWhile isBlank with
  | ⟨stop, hstop⟩ =>
    match after? '.' stop with
    | none => .ok (done.reverse, ⟨stop, hstop.trans cs.2⟩)
    | some ⟨rest, hrest⟩ =>
      match (Rest.whole rest).dropWhile isBlank with
      | ⟨start, hstart⟩ =>
        match keyPart start (.whole start) with
        | .error e => .error e
        | .ok (part, ⟨next, hnext⟩) =>
          have hlt := (hrest.within hstop).before (hnext.trans hstart)
          keyRest (part :: done) text ⟨next, hlt.suffix.trans cs.2⟩
termination_by cs.1.length
decreasing_by exact hlt.shorter

def key : Scan Key := do
  let first ← keyPart
  keyRest [first]

end PrefixLint.Toml
