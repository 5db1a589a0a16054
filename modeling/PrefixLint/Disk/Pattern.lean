import PrefixLint.Disk.Entry
import PrefixLint.Text.Quoted

/-!
# Patterns

A pattern is matched against the disk name by name. A name with a star, a question mark or a bracket
is matched against the entries of a directory; other names, double dots among them, are followed as
they stand; two stars alone stand for a directory and every directory below it. A pattern that goes
on after a name, or ends with a slash, asks that name to be a directory.

Inside brackets a dash between two characters spans a range, a range that runs backwards is cut out
together with its ends, and an exclamation mark at the front of what is left asks for a character
outside the set. A bracket that is never closed stands for itself.
-/

namespace PrefixLint.Disk

inductive Glyph where
  | anyRun
  | anyChar
  | oneOf (negated : Bool) (ranges : List (Char × Char))
  deriving DecidableEq, Repr

namespace Glyph

def literal (c : Char) : Glyph := oneOf false [(c, c)]

def inRanges (ranges : List (Char × Char)) (c : Char) : Bool :=
  ranges.any fun r => r.1 ≤ c && c ≤ r.2

def accepts : Glyph → Char → Bool
  | anyRun, _ => true
  | anyChar, _ => true
  | oneOf negated ranges, c => inRanges ranges c != negated

/-- A row tells for every end of a list of glyphs whether it matches some text. This is the row of
the empty text. -/
def rowNil (gs : List Glyph) : List Bool :=
  gs.foldr (fun g row => (g = anyRun && row.headD false) :: row) [true]

def rowCons (gs : List Glyph) (c : Char) (row : List Bool) : List Bool :=
  let step (g : Glyph) (here later next : Bool) : Bool :=
    if g = anyRun then next || here else g.accepts c && later
  (gs.zip (row.zip row.tail)).foldr
    (fun (g, here, later) next => step g here later (next.headD false) :: next) [false]

def matchAll (gs : List Glyph) (cs : List Char) : Bool :=
  (cs.foldr (rowCons gs) (rowNil gs)).headD false

inductive Mark where
  | char (c : Char)
  | dash
  deriving DecidableEq, Repr

/-- Cuts the inside of brackets at the dashes that may span a range. No two such dashes come closer
than two characters, and the first has at least `least` characters before it. -/
def chunksFrom (least : Nat) (done : List Char) : List Char → List (List Char)
  | [] => [done.reverse]
  | c :: rest =>
    if c = '-' && least ≤ done.length then done.reverse :: chunksFrom 2 [] rest
    else chunksFrom least (c :: done) rest

def closeChunks (chunks : List (List Char)) : List (List Char) :=
  match chunks.reverse with
  | [] :: last :: front => ((last ++ ['-']) :: front).reverse
  | _ => chunks

/-- Joins two neighbours whose range runs backwards, from the last pair to the first. -/
def mergeBackward : List (List Char) → List (List Char)
  | [] => []
  | chunk :: rest =>
    match mergeBackward rest with
    | [] => [chunk]
    | next :: more =>
      match chunk.getLast?, next with
      | some a, b :: _ =>
        if b < a then (chunk.dropLast ++ next.tail) :: more else chunk :: next :: more
      | _, _ => chunk :: next :: more

def marksOf : List (List Char) → List Mark
  | [] => []
  | [chunk] => chunk.map .char
  | chunk :: rest => chunk.map .char ++ .dash :: marksOf rest

def rangesOf : List Mark → List (Char × Char)
  | .char a :: .dash :: .char b :: rest => (a, b) :: rangesOf rest
  | .char a :: rest => (a, a) :: rangesOf rest
  | .dash :: rest => ('-', '-') :: rangesOf rest
  | [] => []

def ofBrackets (inside : List Char) : Glyph :=
  let least := if inside.head? = some '!' then 2 else 1
  match marksOf (mergeBackward (closeChunks (chunksFrom least [] inside))) with
  | [.char '!'] => anyChar
  | .char '!' :: marks => oneOf true (rangesOf marks)
  | marks => oneOf false (rangesOf marks)

def bracketFront : List Char → List Char × List Char
  | '!' :: ']' :: rest => (['!', ']'], rest)
  | '!' :: rest => (['!'], rest)
  | ']' :: rest => ([']'], rest)
  | rest => ([], rest)

def splitBrackets (cs : List Char) : Option (List Char × List Char) :=
  let (front, body) := bracketFront cs
  match body.dropWhile (· ≠ ']') with
  | ']' :: after => some (front ++ body.takeWhile (· ≠ ']'), after)
  | _ => none

theorem length_bracketFront_le (cs : List Char) : (bracketFront cs).2.length ≤ cs.length := by
  unfold bracketFront
  split <;> (simp only [List.length_cons]; omega)

theorem length_lt_of_splitBrackets {cs inside after : List Char}
    (h : splitBrackets cs = some (inside, after)) : after.length < cs.length := by
  have hfront := length_bracketFront_le cs
  simp only [splitBrackets] at h
  split at h
  · rename_i hbody
    cases h
    have hdrop := (List.dropWhile_suffix (l := (bracketFront cs).2) (· ≠ ']')).length_le
    rw [hbody, List.length_cons] at hdrop
    omega
  · cases h

def parse (cs : List Char) : List Glyph :=
  match cs with
  | [] => []
  | '*' :: rest => anyRun :: parse rest
  | '?' :: rest => anyChar :: parse rest
  | '[' :: rest =>
    match h : splitBrackets rest with
    | some (inside, after) =>
      have := length_lt_of_splitBrackets h
      ofBrackets inside :: parse after
    | none => literal '[' :: parse rest
  | c :: rest => literal c :: parse rest
termination_by cs.length
decreasing_by all_goals simp only [List.length_cons]; omega

end Glyph

inductive Selector where
  | name (text : String)
  | wild (glyphs : List Glyph)
  | anyDepth
  deriving DecidableEq, Repr

structure Pattern where
  selectors : List Selector
  directoriesOnly : Bool
  deriving DecidableEq, Repr

namespace Pattern

inductive Fault where
  | empty
  | absolute
  | misplacedStars
  | noNames
  | onlySlash
  | tooManyNames
  deriving DecidableEq, Repr

def Fault.message : Fault → String
  | .empty => "Unacceptable pattern: ''"
  | .absolute => "Non-relative patterns are unsupported"
  | .misplacedStars => "Invalid pattern: '**' can only be an entire path component"
  | .noNames => "tuple index out of range"
  | .onlySlash => "'_TerminatingSelector' object has no attribute 'select_from'"
  | .tooManyNames => "maximum recursion depth exceeded"

def hasTwoStars : List Char → Bool
  | '*' :: '*' :: _ => true
  | _ :: rest => hasTwoStars rest
  | [] => false

def isMagic (cs : List Char) : Bool := cs.any fun c => c = '*' || c = '?' || c = '['

def selector (text : String) : Except Fault Selector :=
  let cs := text.toList
  if text = "**" then .ok .anyDepth
  else if hasTwoStars cs then .error .misplacedStars
  else if isMagic cs then .ok (.wild (Glyph.parse cs))
  else .ok (.name text)

/-- The most names that a pattern may have. A slash at the end counts as one. -/
def lengthLimit : Nat := 198

def ofString (s : String) : Except Fault Pattern := do
  let path := Path.ofString s
  let directoriesOnly := s.toList.getLast? = some '/'
  if s = "" then throw .empty
  else if path.root ≠ .relative then throw .absolute
  else if path.names.isEmpty then throw (if directoriesOnly then .onlySlash else .noNames)
  else
    let selectors ← (path.names.take lengthLimit).mapM selector
    let count := path.names.length + (if directoriesOnly then 1 else 0)
    if lengthLimit < count then throw .tooManyNames else return { selectors, directoriesOnly }

end Pattern

mutual

def directoriesBelow : Entry → List (List String)
  | .file _ => []
  | .directory entries => [] :: directoriesAmong entries

def directoriesAmong : List (String × Entry) → List (List String)
  | [] => []
  | (name, entry) :: rest => (directoriesBelow entry).map (name :: ·) ++ directoriesAmong rest

end

def select (disk : Disk) (directoriesOnly : Bool) :
    List Selector → Path → Except Unsearchable (List Path)
  | [], path => do
    if ← disk.isFile path then return [path] else return []
  | .name text :: rest, path => do
    let next := path.child text
    let found ←
      if directoriesOnly || !rest.isEmpty then disk.isDirectory next else disk.exists? next
    if found then select disk directoriesOnly rest next else return []
  | .wild glyphs :: rest, path => do
    let suits (e : String × Entry) : Bool :=
      (e.2.isDirectory || !(directoriesOnly || !rest.isEmpty)) && Glyph.matchAll glyphs e.1.toList
    match ← disk.entry? path with
    | some (.directory entries) =>
      (entries.filter suits).flatMapM fun e => select disk directoriesOnly rest (path.child e.1)
    | _ => return []
  | .anyDepth :: rest, path => do
    let below := ((← disk.entry? path).map directoriesBelow).getD []
    below.flatMapM fun names =>
      select disk directoriesOnly rest { path with names := path.names ++ names }

def glob (disk : Disk) (path : Path) (pattern : Pattern) : Except Unsearchable (List Path) := do
  if ← disk.isDirectory path then select disk pattern.directoriesOnly pattern.selectors path
  else return []

end PrefixLint.Disk
