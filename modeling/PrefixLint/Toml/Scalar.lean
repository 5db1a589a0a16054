import PrefixLint.Number
import PrefixLint.Toml.Text
import PrefixLint.Toml.Value

/-!
# Scalars

Dates and times, numbers and truth values. Each form takes the longest text that fits it, and what
comes after it is judged by its surroundings. Digits may be grouped by single underscores.
-/

namespace PrefixLint.Toml

open Text

def isDigitOf (base : Nat) (c : Char) : Bool := isHexDigit c && hexDigit c < base

def fixedDigits (width low high : Nat) : Scan Nat := do
  let digits ← Scan.take width
  let n := ofDigits 10 digits
  if digits.length = width && digits.all (isDigitOf 10) && low ≤ n && n ≤ high then return n
  else fail .invalidValue

def oneOf (texts : List String) : Scan Unit := do
  match texts with
  | [] => fail .invalidValue
  | text :: rest => if ← Scan.accept text then return else oneOf rest

def date : Scan Date := do
  let year ← fixedDigits 4 0 9999
  oneOf ["-"]
  let month ← fixedDigits 2 1 12
  oneOf ["-"]
  let day ← fixedDigits 2 1 31
  return { year, month, day }

def fraction : Scan Nat := do
  oneOf ["."]
  let digits ← Scan.takeWhile (isDigitOf 10)
  if digits.isEmpty then fail .invalidValue
  else
    let kept := digits.take 6
    return ofDigits 10 (kept ++ List.replicate (6 - kept.length) '0')

def time : Scan Time := do
  let hour ← fixedDigits 2 0 23
  oneOf [":"]
  let minute ← fixedDigits 2 0 59
  oneOf [":"]
  let second ← fixedDigits 2 0 59
  let micros := (← Scan.attempt fraction).getD 0
  return { hour, minute, second, micros }

def signedOffset : Scan Offset := do
  let negative ← Scan.accept "-"
  if !negative then oneOf ["+"]
  let hours ← fixedDigits 2 0 23
  oneOf [":"]
  let minutes ← fixedDigits 2 0 59
  return { negative, hours, minutes }

def offset : Scan Offset := do
  match ← Scan.attempt (oneOf ["Z", "z"]) with
  | some _ => return { negative := false, hours := 0, minutes := 0 }
  | none => signedOffset

def dateMoment : Scan Moment := do
  let d ← date
  match ← Scan.attempt (do oneOf ["T", "t", " "]; time) with
  | none => return .date d
  | some t => return .datetime d t (← Scan.attempt offset)

def Moment.isValid : Moment → Bool
  | date d => d.isValid
  | time _ => true
  | datetime d _ _ => d.isValid

/-- The length of a run of digits in which single underscores may stand between two digits, for a
text whose last `counted` characters taken belong to the run and end with a digit. -/
def runLength (base counted : Nat) : List Char → Nat
  | [] => counted
  | '_' :: c :: rest => if isDigitOf base c then runLength base (counted + 2) rest else counted
  | c :: rest => if isDigitOf base c then runLength base (counted + 1) rest else counted

def digitRun (base : Nat) : Scan (List Char) := do
  let cs ← Scan.left
  match cs with
  | c :: rest =>
    if isDigitOf base c then
      let run ← Scan.take (runLength base 1 rest)
      return run.filter (· ≠ '_')
    else fail .invalidValue
  | [] => fail .invalidValue

def radixInteger : Scan Int := do
  oneOf ["0"]
  let base ← if ← Scan.accept "x" then pure 16
    else if ← Scan.accept "b" then pure 2
    else do oneOf ["o"]; pure 8
  return ofDigits base (← digitRun base)

def wholeDigits : Scan (List Char) := do
  if ← Scan.accept "0" then return ['0'] else digitRun 10

def exponentPart : Scan Int := do
  oneOf ["e", "E"]
  let negative ← Scan.accept "-"
  if !negative then let _ ← Scan.accept "+"
  let n : Int := ofDigits 10 (← digitRun 10)
  return if negative then -n else n

/-- The digits of a decimal that decide to which number it is nearest. Of what follows them it only
matters whether all of it is zero. -/
def decisiveDigits : Nat := 800

def floatOf (negative : Bool) (digits : List Char) (exponent : Int) : Number.Binary64 :=
  let digits := digits.dropWhile (· = '0')
  let kept := ofDigits 10 (digits.take decisiveDigits)
  let cut := digits.drop decisiveDigits
  if cut.any (· ≠ '0') then .ofDecimal negative (kept * 10 + 1) (exponent + cut.length - 1)
  else .ofDecimal negative kept (exponent + cut.length)

def decimalNumber : Scan (Except Nat Value) := do
  let negative ← Scan.accept "-"
  if !negative then let _ ← Scan.accept "+"
  let whole ← wholeDigits
  let places ← Scan.attempt (do oneOf ["."]; digitRun 10)
  let power ← Scan.attempt exponentPart
  if places.isSome || power.isSome then
    let digits := whole ++ places.getD []
    let exponent := power.getD 0 - (places.getD []).length
    return .ok (.float (floatOf negative digits exponent))
  else if Number.digitLimit < whole.length then
    return .error whole.length
  else
    let n : Int := ofDigits 10 whole
    return .ok (.int (if negative then -n else n))

def words : List (String × Value) :=
  [("inf", .float (.infinite false)), ("nan", .float .nan), ("-inf", .float (.infinite true)),
    ("+inf", .float (.infinite false)), ("-nan", .float .nan), ("+nan", .float .nan)]

def word : List (String × Value) → Scan Value
  | [] => fail .invalidValue
  | (text, v) :: rest => do
    if ← Scan.accept text then return v else word rest

def scalar : Scan Value := do
  let start ← Scan.left
  match ← Scan.attempt (word [("true", .bool true), ("false", .bool false)]) with
  | some v => return v
  | none =>
  match ← Scan.attempt dateMoment with
  | some m =>
    if m.isValid then return .moment m
    else Scan.failWith fun _ => .malformed .invalidDate start
  | none =>
  match ← Scan.attempt time with
  | some t => return .moment (.time t)
  | none =>
  match ← Scan.attempt radixInteger with
  | some n => return .int n
  | none =>
  match ← Scan.attempt decimalNumber with
  | some (.ok v) => return v
  | some (.error digits) => Scan.failWith fun _ => .longInteger digits
  | none => word words

end PrefixLint.Toml
