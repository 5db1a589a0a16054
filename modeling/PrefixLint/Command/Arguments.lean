import PrefixLint.Options
import PrefixLint.Text.WordChar

/-!
# Command line arguments

Options may be written in full, by a unique beginning, and with their value in the same argument
after an equals sign. A double dash in the place of such a value stands for no value: the prefix
type is then an empty list, and the other options count as not given. Everything after a double dash
of its own is an operand, and so are a single dash, negative numbers, arguments with a space and all
that does not begin with a dash. The operands are the paths; they must be adjacent, since the first
run of them is taken and later ones are not recognised.

Arguments are judged from left to right. Help asked for before the first fault is given.
-/

namespace PrefixLint.Command

inductive Flag where
  | help
  | prefixType
  | config
  | logLevel
  deriving DecidableEq, Repr

def spellings : List (String × Flag) :=
  [("-h", .help), ("--help", .help), ("--prefix-type", .prefixType), ("--config", .config),
    ("--log-level", .logLevel)]

def Flag.name (flag : Flag) : String :=
  "/".intercalate ((spellings.filter (·.2 = flag)).map (·.1))

def levelChoices : List String := ["DEBUG", "INFO", "WARNING", "ERROR", "CRITICAL"]

inductive UsageFault where
  | missingPaths
  | unrecognized (texts : List String)
  | expectedValue (flag : Flag)
  | invalidLevel (value : String)
  | ignoredValue (flag : Flag) (value : String)
  | ambiguous (text : String) (candidates : List String)
  deriving DecidableEq, Repr

def UsageFault.message : UsageFault → String
  | .missingPaths => "the following arguments are required: paths"
  | .unrecognized texts =>
    let listed := " ".intercalate texts
    s!"unrecognized arguments: {listed}"
  | .expectedValue flag => s!"argument {flag.name}: expected one argument"
  | .invalidLevel value =>
    let listed := ", ".intercalate (levelChoices.map Text.quoted)
    s!"argument {Flag.logLevel.name}: invalid choice: {Text.quoted value} (choose from {listed})"
  | .ignoredValue flag value =>
    s!"argument {flag.name}: ignored explicit argument {Text.quoted value}"
  | .ambiguous text candidates =>
    let listed := ", ".intercalate candidates
    s!"ambiguous option: {text} could match {listed}"

/-- An option as it was written: which one, by which spelling, and with which value attached, either
by an equals sign or, to a short option, directly. -/
structure Occurrence where
  flag : Flag
  spelling : String
  attached : Option String
  deriving DecidableEq, Repr

inductive Token where
  | operand (text : String)
  | doubleDash
  | option (occurrence : Occurrence)
  | unknown (text : String)
  deriving DecidableEq, Repr

def splitEquals (text : String) : String × Option String :=
  let cs := text.toList
  let before := String.ofList (cs.takeWhile (· ≠ '='))
  match cs.dropWhile (· ≠ '=') with
  | [] => (before, none)
  | _ :: after => (before, some (String.ofList after))

def exactly? (text : String) : Option Occurrence :=
  (spellings.lookup text).map fun flag => ⟨flag, text, none⟩

def exactlyWithValue? (text : String) : Option Occurrence := do
  let (before, value) := splitEquals text
  let value ← value
  let flag ← spellings.lookup before
  return ⟨flag, before, some value⟩

def candidates (text : String) : List Occurrence :=
  match text.toList with
  | '-' :: '-' :: _ =>
    let (start, value) := splitEquals text
    (spellings.filter fun s => start.toList.isPrefixOf s.1.toList).map fun s =>
      ⟨s.2, s.1, value⟩
  | cs =>
    let short := String.ofList (cs.take 2)
    spellings.filterMap fun s =>
      if s.1 = short then some ⟨s.2, s.1, some (String.ofList (cs.drop 2))⟩
      else if cs.isPrefixOf s.1.toList then some ⟨s.2, s.1, none⟩
      else none

def isNegativeNumber (cs : List Char) : Bool :=
  match cs with
  | '-' :: rest =>
    let body := if rest.getLast? = some '\n' then rest.dropLast else rest
    let fraction := body.dropWhile Text.isDecimal
    match fraction with
    | [] => !body.isEmpty
    | '.' :: places => !places.isEmpty && places.all Text.isDecimal
    | _ => false
  | _ => false

def tokenOf (text : String) : Except UsageFault Token :=
  let cs := text.toList
  if cs.head? ≠ some '-' then .ok (.operand text)
  else
    match exactly? text with
    | some o => .ok (.option o)
    | none =>
      if cs.length = 1 then .ok (.operand text)
      else
        match exactlyWithValue? text with
        | some o => .ok (.option o)
        | none =>
          match candidates text with
          | [o] => .ok (.option o)
          | [] =>
            if isNegativeNumber cs || cs.contains ' ' then .ok (.operand text)
            else .ok (.unknown text)
          | many => .error (.ambiguous text (many.map (·.spelling)))

def tokens : List String → Except UsageFault (List Token)
  | [] => .ok []
  | "--" :: rest => .ok (.doubleDash :: rest.map .operand)
  | text :: rest => do
    let token ← tokenOf text
    return token :: (← tokens rest)

structure Arguments where
  paths : List String := []
  prefixType : Option Setting := none
  config : Option String := none
  logLevel : Option String := none
  deriving DecidableEq, Repr

inductive Request where
  | check (arguments : Arguments)
  | help
  | refuse (fault : UsageFault)
  deriving DecidableEq, Repr

structure Progress where
  arguments : Arguments := {}
  paths : Option (List String) := none
  extras : List String := []

inductive Stop where
  | help
  | fault (fault : UsageFault)

def setValue (flag : Flag) (value : String) (a : Arguments) : Except Stop Arguments :=
  match flag with
  | .help => .error .help
  | .prefixType => .ok { a with prefixType := some (.text value) }
  | .config => .ok { a with config := some value }
  | .logLevel =>
    let level := Text.upper value
    if levelChoices.contains level then .ok { a with logLevel := some level }
    else .error (.fault (.invalidLevel level))

def unsetValue (flag : Flag) (a : Arguments) : Arguments :=
  match flag with
  | .help => a
  | .prefixType => { a with prefixType := some (.other .list) }
  | .config => { a with config := none }
  | .logLevel => { a with logLevel := none }

def setAttached (flag : Flag) (value : String) (a : Arguments) : Except Stop Arguments :=
  if value = "--" then .ok (unsetValue flag a) else setValue flag value a

/-- Help takes no value. What is attached to its short spelling is read as more short options, of
which there is only help itself. -/
def helpWith : List Char → Stop
  | [] => .help
  | c :: rest =>
    if c = 'h' then helpWith rest else .fault (.ignoredValue .help (String.ofList (c :: rest)))

def helpStop (o : Occurrence) : Stop :=
  match o.attached with
  | none => .help
  | some value =>
    if o.spelling = "-h" && value ≠ "" then helpWith value.toList
    else .fault (.ignoredValue .help value)

def Token.isOption : Token → Bool
  | .option _ | .unknown _ => true
  | _ => false

def Token.text : Token → String
  | .operand text => text
  | .doubleDash => "--"
  | .option o => o.spelling
  | .unknown text => text

def Token.operand? : Token → Option String
  | .operand text => some text
  | _ => none

def takeOperands (p : Progress) (run : List Token) : Progress :=
  let operands := run.filterMap Token.operand?
  if p.paths.isNone && !operands.isEmpty then { p with paths := some operands }
  else { p with extras := p.extras ++ run.map Token.text }

def readTokens (p : Progress) (ts : List Token) : Except Stop Progress :=
  match ts with
  | [] => .ok p
  | .unknown text :: rest => readTokens { p with extras := p.extras ++ [text] } rest
  | .option o :: rest =>
    if o.flag = .help then .error (helpStop o)
    else
      match o.attached with
      | some value => do
        let arguments ← setAttached o.flag value p.arguments
        readTokens { p with arguments } rest
      | none =>
        match rest with
        | .operand value :: later => do
          let arguments ← setValue o.flag value p.arguments
          readTokens { p with arguments } later
        | _ => .error (.fault (.expectedValue o.flag))
  | t :: rest =>
    have : (rest.dropWhile (!·.isOption)).length ≤ rest.length :=
      (List.dropWhile_suffix _).length_le
    readTokens (takeOperands p (t :: rest.takeWhile (!·.isOption)))
      (rest.dropWhile (!·.isOption))
termination_by ts.length

/-- What a command line asks for. Missing paths are reported before arguments that were not
recognised. -/
def parseArguments (argv : List String) : Request :=
  match tokens argv with
  | .error fault => .refuse fault
  | .ok ts =>
    match readTokens {} ts with
    | .error .help => .help
    | .error (.fault fault) => .refuse fault
    | .ok p =>
      match p.paths with
      | none => .refuse .missingPaths
      | some paths =>
        if p.extras.isEmpty then .check { p.arguments with paths }
        else .refuse (.unrecognized p.extras)

end PrefixLint.Command
