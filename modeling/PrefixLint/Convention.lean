import PrefixLint.Text.Casing

/-!
# Naming conventions

A convention says how the name of a component is spelled in its class names. The dash and underscore
conventions put their separator before every uppercase character, lower the whole, and drop one
leading separator. The camel case convention joins the parts between dashes and then keeps a capital
only at the front: `my-class` becomes `Myclass`. Without a convention a name stays as it is.
-/

namespace PrefixLint

inductive Convention where
  | dash
  | camelCase
  | underscore
  deriving DecidableEq, Repr

namespace Convention

open Text

def all : List Convention := [dash, camelCase, underscore]

def name : Convention → String
  | dash => "dash"
  | camelCase => "camelCase"
  | underscore => "underscore"

def ofName? (s : String) : Option Convention := all.find? fun c => c.name = s

def separated (separator : Char) (cs : List Char) : List Char :=
  cs.flatMap fun c => if isUpper c then [separator, c] else [c]

def dropLeading (separator : Char) : List Char → List Char
  | [] => []
  | c :: rest => if c = separator then rest else c :: rest

def splitOnUpper (separator : Char) (cs : List Char) : List Char :=
  dropLeading separator (lowerChars (separated separator cs))

def isSmallLetter (c : Char) : Bool := 'a' ≤ c && c ≤ 'z'

/-- Drops every dash before a small ASCII letter and capitalises the letter; `done` holds what came
before, in reverse. -/
def joinDashedFrom (done : List Char) : List Char → List Char
  | [] => done.reverse
  | [c] => (c :: done).reverse
  | c :: d :: rest =>
    if c = '-' && isSmallLetter d then joinDashedFrom ((upperChar d).reverse ++ done) rest
    else joinDashedFrom (c :: done) (d :: rest)

def joinDashed (cs : List Char) : List Char := joinDashedFrom [] cs

def capitalised : List Char → List Char
  | [] => []
  | c :: rest => upperChar c ++ lowerChars rest

def spell : Convention → List Char → List Char
  | dash => splitOnUpper '-'
  | underscore => splitOnUpper '_'
  | camelCase => fun cs => capitalised (joinDashed cs)

end Convention

def transform (convention : Option Convention) (name : String) : String :=
  match convention with
  | some c => String.ofList (c.spell name.toList)
  | none => name

end PrefixLint
