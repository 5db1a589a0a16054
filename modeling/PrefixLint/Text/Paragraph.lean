import PrefixLint.Text.Template
import PrefixLint.Text.WordChar

/-!
# Filling paragraphs

A paragraph is cut into chunks, and lines are filled with as many chunks as fit. Chunks are runs of
spaces, words, the parts of a word up to and including a hyphen between letters, and long dashes
between words. A chunk wider than a line is broken, behind a hyphen if it has one. Spaces at a line
break are dropped, white space of any kind: the characters of bidirectional class WS, B or S or of
general category Zs in Unicode 14.0.
-/

namespace PrefixLint.Text

def blankRanges : List (Nat × Nat) := [
  (0x9, 0xD), (0x1C, 0x20), (0x85, 0x85), (0xA0, 0xA0), (0x1680, 0x1680), (0x2000, 0x200A),
  (0x2028, 0x2029), (0x202F, 0x202F), (0x205F, 0x205F), (0x3000, 0x3000)]

def isBlank (c : Char) : Bool := blankRanges.any fun r => r.1 ≤ c.toNat && c.toNat ≤ r.2

inductive ChunkKind where
  | spaces
  | dashes
  | word
  | closed
  deriving DecidableEq, Repr

def isWordPunct (c : Char) : Bool := isWordChar c || "!\"'&.,?".toList.contains c

def longDashAt (before cs : List Char) : Bool :=
  (before.head?.map isWordPunct).getD false &&
    2 ≤ (cs.takeWhile (· = '-')).length &&
    ((cs.dropWhile (· = '-')).head?.map isWordChar).getD false

/-- Whether a text, read away from a hyphen, has two letters next to it, a hyphen between them or
not. -/
def lettersBeside : List Char → Bool
  | a :: '-' :: b :: _ => isWordLetter a && isWordLetter b
  | a :: b :: _ => isWordLetter a && isWordLetter b
  | _ => false

def chunkStart (before : List Char) (c : Char) (rest : List Char) : ChunkKind :=
  if c = ' ' then .spaces else if longDashAt before (c :: rest) then .dashes else .word

/-- The kind of the current chunk once a character has joined it, or nothing if the character begins
another chunk. -/
def chunkStep (kind : ChunkKind) (before : List Char) (c : Char) (rest : List Char) :
    Option ChunkKind :=
  match kind with
  | .spaces => if c = ' ' then some .spaces else none
  | .dashes => if c = '-' then some .dashes else none
  | .closed => none
  | .word =>
    if c = '-' && lettersBeside before && lettersBeside rest then some .closed
    else if c = ' ' || longDashAt before (c :: rest) then none
    else some .word

def chunksFrom (kind : ChunkKind) (chunk before : List Char) : List Char → List (List Char)
  | [] => [chunk.reverse]
  | c :: rest =>
    match chunkStep kind before c rest with
    | some kind => chunksFrom kind (c :: chunk) (c :: before) rest
    | none => chunk.reverse :: chunksFrom (chunkStart before c rest) [c] (c :: before) rest

def chunks : List Char → List (List Char)
  | [] => []
  | c :: rest => chunksFrom (chunkStart [] c rest) [c] [c] rest

def isSpaces (chunk : List Char) : Bool := chunk.all isBlank

def fits (room : Nat) (chunk : List Char) : Bool := (chunk.drop room).isEmpty

def takeFitting (room : Nat) : List (List Char) → List (List Char) × List (List Char)
  | [] => ([], [])
  | chunk :: rest =>
    if fits room chunk then
      let (line, left) := takeFitting (room - chunk.length) rest
      (chunk :: line, left)
    else
      ([], chunk :: rest)

/-- Where a chunk that fits no line is broken: behind the last hyphen in the room that is left, if
something else stands before it. -/
def breakPoint (room : Nat) (chunk : List Char) : Nat :=
  let upToHyphen := ((chunk.take room).reverse.dropWhile (· ≠ '-')).length
  if (chunk.take (upToHyphen - 1)).any (· ≠ '-') then upToHyphen else room

def takeLine (width : Nat) (cs : List (List Char)) : List (List Char) × List (List Char) :=
  let (line, left) := takeFitting width cs
  match left with
  | chunk :: rest =>
    if fits width chunk then
      (line, left)
    else
      let n := breakPoint (width - line.flatten.length) chunk
      (line ++ [chunk.take n], chunk.drop n :: rest)
  | [] => (line, [])

def dropTrailingSpaces (line : List (List Char)) : List (List Char) :=
  match line.getLast? with
  | some chunk => if isSpaces chunk then line.dropLast else line
  | none => line

/-- Fills lines; there are never more lines than characters. -/
def fillLines (width : Nat) : Nat → List (List Char) → List (List Char)
  | 0, _ => []
  | _, [] => []
  | most + 1, cs =>
    let (line, left) := takeLine width cs
    let left := match left with
      | chunk :: rest => if isSpaces chunk then rest else left
      | [] => []
    let line := dropTrailingSpaces line
    if line.isEmpty then fillLines width most left
    else line.flatten :: fillLines width most left

def isAsciiBlank (c : Char) : Bool := c = ' ' || (9 ≤ c.toNat && c.toNat ≤ 13)

/-- Makes all white space in a row one space; `done` holds the earlier text in reverse, and `spaced`
says whether white space before the next character would be in vain. -/
def squeezeFrom (spaced : Bool) (done : List Char) : Runs → List Char
  | [] => done.reverse
  | run :: rest =>
    if run.count = 0 then squeezeFrom spaced done rest
    else if isAsciiBlank run.char then squeezeFrom true (if spaced then done else ' ' :: done) rest
    else squeezeFrom false (List.replicate run.count run.char ++ done) rest

def squeeze (runs : Runs) : List Char := squeezeFrom true [] runs

def wrap (width : Nat) (text : Runs) : List String :=
  let cs := squeeze text
  (fillLines width (2 * cs.length) (chunks cs)).map String.ofList

end PrefixLint.Text
