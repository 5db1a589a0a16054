import PrefixLint.Text.Quoted
import PrefixLint.Text.Scan

/-!
# Templates

A template is a text with placeholders that show values from a table. A placeholder starts with a
percent sign, and two percent signs stand for one. It may name a value between parentheses, which
may nest; then come flags, a width, a precision and the letter that says how the value is shown.

There is one argument at a time. At first it is the whole table, later the value that was named
last, and it can be taken once: by the letter, or by a star in the place of a width or precision.
Placeholders are filled in from left to right, and the first that cannot be ends the work, as does
the first that makes the text too long.

The filled text is written as runs, each a character and how many times it stands in a row. What is
filled to a width of many millions is then as small as what is not.
-/

namespace PrefixLint.Text

structure Run where
  char : Char
  count : Nat
  deriving DecidableEq, Repr

abbrev Runs := List Run

namespace Runs

def ofChars (cs : List Char) : Runs := cs.map (⟨·, 1⟩)

def ofString (s : String) : Runs := ofChars s.toList

def size (runs : Runs) : Nat := runs.foldl (fun n run => n + run.count) 0

end Runs

namespace Template

inductive Item where
  | null
  | truth (b : Bool)
  | text (s : String)
  | texts (items : List String)
  | object (kind shown : String)
  deriving DecidableEq, Repr

abbrev Values := List (String × Item)

inductive Argument where
  | item (i : Item)
  | table (values : Values)
  deriving DecidableEq, Repr

inductive Fault where
  | incomplete
  | incompleteKey
  | unknownKey (key : String)
  | noArgument
  | starNotInteger
  | widthTooBig
  | precisionTooBig
  | tooManyDigits
  | tooLong
  | notInteger (letter : Char) (kind : String)
  | notNumber (letter : Char) (kind : String)
  | notReal (kind : String)
  | notCharacter
  | unsupported (letter : Char) (index : Nat)
  deriving DecidableEq, Repr

def letterText (c : Char) : String :=
  let shown := if 31 ≤ c.toNat && c.toNat ≤ 126 then c else '?'
  s!"'{shown}' (0x{String.ofList (Nat.toDigits 16 c.toNat)})"

def Fault.message : Fault → String
  | .incomplete => "incomplete format"
  | .incompleteKey => "incomplete format key"
  | .unknownKey key => quoted key
  | .noArgument => "not enough arguments for format string"
  | .starNotInteger => "* wants int"
  | .widthTooBig => "width too big"
  | .precisionTooBig => "precision too big"
  | .tooManyDigits => "precision too large"
  | .tooLong => ""
  | .notInteger letter kind => s!"%{letter} format: an integer is required, not {kind}"
  | .notNumber letter kind => s!"%{letter} format: a real number is required, not {kind}"
  | .notReal kind => s!"must be real number, not {kind}"
  | .notCharacter => "%c requires int or char"
  | .unsupported letter index =>
    s!"unsupported format character {letterText letter} at index {index}"

namespace Item

def kind : Item → String
  | null => "NoneType"
  | truth _ => "bool"
  | text _ => "str"
  | texts _ => "list"
  | object kind _ => kind

def quoted : Item → String
  | null => "None"
  | truth b => if b then "True" else "False"
  | text s => Text.quoted s
  | texts items =>
    let listed := ", ".intercalate (items.map Text.quoted)
    s!"[{listed}]"
  | object _ shown => shown

end Item

namespace Argument

def kind : Argument → String
  | item i => i.kind
  | table _ => "dict"

def quoted : Argument → String
  | item i => i.quoted
  | table values =>
    let listed := ", ".intercalate (values.map fun v => s!"{Text.quoted v.1}: {v.2.quoted}")
    s!"\x7b{listed}\x7d"

def plain : Argument → String
  | item (.text s) => s
  | a => a.quoted

end Argument

def asciiChars (cs : List Char) : List Char :=
  cs.flatMap fun c => if c.toNat < 0x80 then [c] else codeEscape c

def greatestWidth : Nat := 0x7FFFFFFFFFFFFFFF
def greatestPrecision : Nat := 0x7FFFFFFF

/-- The most digits of an integer, which leave room for a sign and a mark of two characters. -/
def greatestDigits : Nat := greatestPrecision - 3

def greatestSize : Nat := 0x40000000

structure Style where
  left : Bool
  plus : Bool
  blank : Bool
  alternate : Bool
  zeros : Bool
  width : Nat := 0
  precision : Option Nat := none
  deriving DecidableEq, Repr

namespace Style

def ofFlags (flags : List Char) : Style where
  left := flags.contains '-'
  plus := flags.contains '+'
  blank := flags.contains ' '
  alternate := flags.contains '#'
  zeros := flags.contains '0'

def text (s : Style) (cs : List Char) : Runs :=
  let body := match s.precision with
    | some n => cs.take n
    | none => cs
  let space : Run := ⟨' ', s.width - body.length⟩
  if s.left then Runs.ofChars body ++ [space] else space :: Runs.ofChars body

def number (s : Style) (mark : List Char) (body : Runs) : Runs :=
  let sign := if s.plus then ['+'] else if s.blank then [' '] else []
  let front := Runs.ofChars (sign ++ mark)
  let missing := s.width - (front.size + body.size)
  if s.left then front ++ body ++ [⟨' ', missing⟩]
  else if s.zeros then front ++ ⟨'0', missing⟩ :: body
  else ⟨' ', missing⟩ :: front ++ body

def integer (s : Style) (letter digit : Char) : Except Fault Runs :=
  let marked := s.alternate && (letter = 'o' || letter = 'x' || letter = 'X')
  let digits := s.precision.getD 1
  if greatestDigits < digits then .error .tooManyDigits
  else .ok (s.number (if marked then ['0', letter] else []) [⟨'0', digits - 1⟩, ⟨digit, 1⟩])

/-- The zeros behind the point. With an exponent, the digit before the point is counted with them,
and the greatest precision, which has no room for it, asks for none. -/
def places (s : Style) (letter : Char) : Nat :=
  let asked := s.precision.getD 6
  if letter = 'g' || letter = 'G' then if s.alternate then asked - 1 else 0
  else if (letter = 'e' || letter = 'E') && asked = greatestPrecision then 0
  else asked

def fractional (s : Style) (letter digit : Char) : Runs :=
  let places := s.places letter
  let point := if s.alternate || 0 < places then ['.'] else []
  let exponent :=
    if letter = 'e' then ['e', '+', '0', '0']
    else if letter = 'E' then ['E', '+', '0', '0']
    else []
  s.number [] (Runs.ofChars (digit :: point) ++ ⟨'0', places⟩ :: Runs.ofChars exponent)

end Style

def digitOf (b : Bool) : Char := if b then '1' else '0'

/-- Shows an argument in the way that a letter asks for. Truth values are the only numbers. -/
def present (s : Style) (letter : Char) (index : Nat) (a : Argument) : Except Fault Runs :=
  match letter with
  | 's' => .ok (s.text a.plain.toList)
  | 'r' => .ok (s.text a.quoted.toList)
  | 'a' => .ok (s.text (asciiChars a.quoted.toList))
  | 'c' =>
    let whole := { s with precision := none }
    match a with
    | .item (.truth b) => .ok (whole.text [Char.ofNat b.toNat])
    | .item (.text t) => if t.length = 1 then .ok (whole.text t.toList) else .error .notCharacter
    | _ => .error .notCharacter
  | 'd' | 'i' | 'u' =>
    match a with
    | .item (.truth b) => s.integer letter (digitOf b)
    | a => .error (.notNumber letter a.kind)
  | 'o' | 'x' | 'X' =>
    match a with
    | .item (.truth b) => s.integer letter (digitOf b)
    | a => .error (.notInteger letter a.kind)
  | 'e' | 'E' | 'f' | 'F' | 'g' | 'G' =>
    match a with
    | .item (.truth b) => .ok (s.fractional letter (digitOf b))
    | a => .error (.notReal a.kind)
  | _ => .error (.unsupported letter index)

def fail {α : Type} (fault : Fault) : Scan Fault α := Scan.failWith fun _ => fault

/-- The text before the parenthesis that closes the one before it; `done` holds the earlier
characters in reverse, and `depth` parentheses have been opened among them. -/
def splitKey (depth : Nat) (done : List Char) : List Char → Option (List Char)
  | [] => none
  | c :: rest =>
    if c = ')' then
      match depth with
      | 0 => some done.reverse
      | depth + 1 => splitKey depth (c :: done) rest
    else
      splitKey (if c = '(' then depth + 1 else depth) (c :: done) rest

def argument (values : Values) (held : Option Argument) : Scan Fault (Option Argument) := do
  if ← Scan.accept "(" then
    match splitKey 0 [] (← Scan.left) with
    | none => fail .incompleteKey
    | some key =>
      Scan.drop (key.length + 1)
      match values.lookup (String.ofList key) with
      | some i => return some (.item i)
      | none => fail (.unknownKey (String.ofList key))
  else
    return held

def count (greatest : Nat) (tooBig : Fault) (held : Option Argument) :
    Scan Fault (Option Nat × Option Argument) := do
  if ← Scan.accept "*" then
    match held with
    | some (.item (.truth b)) => return (some b.toNat, none)
    | some _ => fail .starNotInteger
    | none => fail .noArgument
  else
    let digits ← Scan.takeWhile Char.isDigit
    let n := digits.foldl (fun n d => n * 10 + (d.toNat - '0'.toNat)) 0
    if digits.isEmpty then return (none, held)
    else if greatest < n then fail tooBig
    else return (some n, held)

def isFlag (c : Char) : Bool := "-+ #0".toList.contains c

def style (held : Option Argument) : Scan Fault (Style × Option Argument) := do
  let flags ← Scan.takeWhile isFlag
  let (width, held) ← count greatestWidth .widthTooBig held
  let s := { Style.ofFlags flags with width := width.getD 0 }
  if ← Scan.accept "." then
    let (precision, held) ← count greatestPrecision .precisionTooBig held
    return ({ s with precision := some (precision.getD 0) }, held)
  else
    return (s, held)

/-- A placeholder after its percent sign, in a template of `size` characters. An `h`, `l` or `L`
before the letter means nothing. -/
def placeholder (values : Values) (size : Nat) (held : Option Argument) :
    Scan Fault Runs := do
  let held ← argument values held
  let (s, held) ← style held
  let next ← Scan.peek
  if next = some 'h' || next = some 'l' || next = some 'L' then Scan.drop 1
  match ← Scan.left with
  | [] => fail .incomplete
  | letter :: rest =>
    Scan.drop 1
    match held with
    | none => fail .noArgument
    | some a =>
      match present s letter (size - (rest.length + 1)) a with
      | .ok runs => return runs
      | .error f => fail f

def expandFrom (values : Values) (size : Nat) (held : Option Argument) (written : Nat)
    (done : Runs) (cs : List Char) : Except Fault Runs :=
  match cs with
  | [] => .ok done.reverse
  | c :: rest =>
    if c = '%' then
      match after? '%' rest with
      | some ⟨next, hnext⟩ =>
        have : next.length < (c :: rest).length := Nat.lt_succ_of_lt hnext.shorter
        expandFrom values size held (written + 1) (⟨'%', 1⟩ :: done) next
      | none =>
        match placeholder values size held rest (.whole rest) with
        | .error f => .error f
        | .ok (runs, ⟨next, hnext⟩) =>
          have : next.length < (c :: rest).length := Nat.lt_succ_of_le hnext.length_le
          if greatestSize < written + runs.size then .error .tooLong
          else expandFrom values size none (written + runs.size) (runs.reverse ++ done) next
    else
      have : rest.length < (c :: rest).length := Nat.lt_succ_self _
      expandFrom values size held (written + 1) (⟨c, 1⟩ :: done) rest
termination_by cs.length
decreasing_by all_goals exact this

def expand (values : Values) (template : String) : Except Fault Runs :=
  expandFrom values template.length (some (.table values)) 0 [] template.toList

end Template

end PrefixLint.Text
