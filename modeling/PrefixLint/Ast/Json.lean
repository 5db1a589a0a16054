import PrefixLint.Ast.Value
import PrefixLint.Number
import PrefixLint.Text.Scan

/-!
# Reading JSON documents

One pass from left to right. Of several faults the first in the text is reported. Beyond the
standard grammar the words `NaN`, `Infinity` and `-Infinity` are numbers. A number ends at its
longest valid form, and what follows it is judged by its surroundings. A repeated member keeps the
place of its first occurrence and the value of its last. Nesting is limited, and so is the number of
digits of an integer.

Texts are made of characters, and a surrogate that is escaped without its partner is none. It is
read as U+FFFD, so texts that differ in such surrogates alone are read alike.
-/

namespace PrefixLint.Ast.Json

open Text

inductive Fault where
  | expectedValue
  | expectedKey
  | expectedColon
  | expectedComma
  | extraData
  | unterminatedString
  | controlCharacter
  | badEscape
  | badUnicodeEscape
  | byteOrderMark
  deriving DecidableEq, Repr

def Fault.message : Fault → String
  | .expectedValue => "Expecting value"
  | .expectedKey => "Expecting property name enclosed in double quotes"
  | .expectedColon => "Expecting ':' delimiter"
  | .expectedComma => "Expecting ',' delimiter"
  | .extraData => "Extra data"
  | .unterminatedString => "Unterminated string starting at"
  | .controlCharacter => "Invalid control character at"
  | .badEscape => "Invalid \\escape"
  | .badUnicodeEscape => "Invalid \\uXXXX escape"
  | .byteOrderMark => "Unexpected UTF-8 BOM (decode using utf-8-sig)"

inductive Refusal where
  | malformed (fault : Fault)
  | tooDeep
  | longInteger (digits : Nat)
  deriving DecidableEq, Repr

def isBlank (c : Char) : Bool := c = ' ' || c = '\t' || c = '\n' || c = '\r'

def hexValue? (c : Char) : Option Nat :=
  if '0' ≤ c && c ≤ '9' then some (c.toNat - '0'.toNat)
  else if 'a' ≤ c && c ≤ 'f' then some (c.toNat - 'a'.toNat + 10)
  else if 'A' ≤ c && c ≤ 'F' then some (c.toNat - 'A'.toNat + 10)
  else none

def unit16? (a b c d : Char) : Option Nat := do
  let a ← hexValue? a
  let b ← hexValue? b
  let c ← hexValue? c
  let d ← hexValue? d
  return ((a * 16 + b) * 16 + c) * 16 + d

def isHighSurrogate (n : Nat) : Bool := 0xD800 ≤ n && n ≤ 0xDBFF

def isLowSurrogate (n : Nat) : Bool := 0xDC00 ≤ n && n ≤ 0xDFFF

def charOfUnit (n : Nat) : Char :=
  if 0xD800 ≤ n && n ≤ 0xDFFF then '\ufffd' else Char.ofNat n

def charOfPair (high low : Nat) : Char :=
  Char.ofNat (0x10000 + (high - 0xD800) * 0x400 + (low - 0xDC00))

def letterEscape? : Char → Option Char
  | '"' => some '"'
  | '\\' => some '\\'
  | '/' => some '/'
  | 'b' => some '\x08'
  | 'f' => some '\x0c'
  | 'n' => some '\n'
  | 'r' => some '\r'
  | 't' => some '\t'
  | _ => none

/-- The low half that `\uXXXX` at the start of the text adds to a high one, if it is one. Four wrong
digits are a fault only when more text follows them. -/
def lowHalf : List Char → Except Fault (Option Nat)
  | '\\' :: 'u' :: a :: b :: c :: d :: _ :: _ =>
    match unit16? a b c d with
    | none => .error .badUnicodeEscape
    | some n => .ok (if isLowSurrogate n then some n else none)
  | _ => .ok none

def scanString (done : List Char) : List Char → Except Fault (String × List Char)
  | [] => .error .unterminatedString
  | '"' :: rest => .ok (String.ofList done.reverse, rest)
  | '\\' :: 'u' :: a :: b :: c :: d :: rest =>
    match rest, unit16? a b c d with
    | [], _ => .error .badUnicodeEscape
    | _, none => .error .badUnicodeEscape
    | rest, some n =>
      if isHighSurrogate n then
        match lowHalf rest, rest with
        | .error f, _ => .error f
        | .ok (some low), _ :: _ :: _ :: _ :: _ :: _ :: next =>
          scanString (charOfPair n low :: done) next
        | .ok _, rest => scanString (charOfUnit n :: done) rest
      else
        scanString (charOfUnit n :: done) rest
  | '\\' :: 'u' :: _ => .error .badUnicodeEscape
  | '\\' :: c :: rest =>
    match letterEscape? c with
    | some e => scanString (e :: done) rest
    | none => .error .badEscape
  | '\\' :: [] => .error .unterminatedString
  | c :: rest => if c.toNat < 0x20 then .error .controlCharacter else scanString (c :: done) rest

theorem suffix_of_scanString {done cs rest : List Char} {s : String}
    (h : scanString done cs = .ok (s, rest)) : rest <:+ cs := by
  fun_induction scanString done cs <;> simp_all [List.suffix_cons_iff]

theorem behind_of_scanString {done cs rest : List Char} {s : String}
    (h : scanString done cs = .ok (s, rest)) : Behind rest cs := by
  refine ⟨suffix_of_scanString h, ?_⟩
  fun_induction scanString done cs <;> simp_all <;> omega

def natOfDigits (ds : List Char) : Nat := ds.foldl (fun n d => n * 10 + (d.toNat - '0'.toNat)) 0

def spanDigits (cs : List Char) : List Char × List Char :=
  (cs.takeWhile Char.isDigit, cs.dropWhile Char.isDigit)

def wholeDigits (cs : List Char) : List Char × List Char :=
  match cs with
  | '0' :: rest => (['0'], rest)
  | _ => spanDigits cs

def afterFraction? (cs : List Char) : Option (List Char) :=
  match cs with
  | '.' :: d :: rest => if d.isDigit then some (spanDigits rest).2 else none
  | _ => none

def skipSign (cs : List Char) : List Char :=
  match cs with
  | '+' :: rest => rest
  | '-' :: rest => rest
  | _ => cs

def afterExponent? (cs : List Char) : Option (List Char) :=
  match cs with
  | e :: rest =>
    if e = 'e' || e = 'E' then
      let (digits, next) := spanDigits (skipSign rest)
      if digits.isEmpty then none else some next
    else none
  | [] => none

def afterParts? (cs : List Char) : Option (List Char) :=
  match afterFraction? cs with
  | some next => some ((afterExponent? next).getD next)
  | none => afterExponent? cs

def scanMagnitude (negative : Bool) (cs : List Char) : Except Refusal (Value × List Char) :=
  let (digits, rest) := wholeDigits cs
  if digits.isEmpty then .error (.malformed .expectedValue)
  else
    match afterParts? rest with
    | some next => .ok (.float, next)
    | none =>
      if Number.digitLimit < digits.length then .error (.longInteger digits.length)
      else
        let n : Int := natOfDigits digits
        .ok (.int (if negative then -n else n), rest)

def words : List (List Char × Value) :=
  [("null".toList, .null), ("true".toList, .bool true), ("false".toList, .bool false),
    ("NaN".toList, .float), ("Infinity".toList, .float), ("-Infinity".toList, .float)]

def scanScalar (cs : List Char) : Except Refusal (Value × List Char) :=
  match words.find? fun w => w.1.isPrefixOf cs with
  | some (word, v) => .ok (v, cs.drop word.length)
  | none =>
    match cs with
    | '-' :: rest => scanMagnitude true rest
    | _ => scanMagnitude false cs

theorem suffix_spanDigits (cs : List Char) : (spanDigits cs).2 <:+ cs := List.dropWhile_suffix _

theorem wholeDigits_append (cs : List Char) : (wholeDigits cs).1 ++ (wholeDigits cs).2 = cs := by
  unfold wholeDigits
  split
  · rfl
  · exact List.takeWhile_append_dropWhile

theorem suffix_skipSign (cs : List Char) : skipSign cs <:+ cs := by
  unfold skipSign
  split <;> simp

theorem behind_of_afterFraction? {cs next : List Char} (h : afterFraction? cs = some next) :
    Behind next cs := by
  unfold afterFraction? at h
  split at h
  · rename_i d rest
    split at h
    · cases h
      exact .cons '.' ((suffix_spanDigits rest).trans (List.suffix_cons d rest))
    · cases h
  · cases h

theorem behind_of_afterExponent? {cs next : List Char} (h : afterExponent? cs = some next) :
    Behind next cs := by
  unfold afterExponent? at h
  split at h
  · rename_i e rest
    simp only [Option.ite_none_right_eq_some, Option.ite_none_left_eq_some, Option.some.injEq] at h
    obtain ⟨-, -, rfl⟩ := h
    exact .cons e ((suffix_spanDigits _).trans (suffix_skipSign rest))
  · cases h

theorem behind_of_afterParts? {cs next : List Char} (h : afterParts? cs = some next) :
    Behind next cs := by
  unfold afterParts? at h
  split at h
  · rename_i middle hmiddle
    have hfraction := behind_of_afterFraction? hmiddle
    cases he : afterExponent? middle with
    | none =>
      rw [he] at h
      cases h
      exact hfraction
    | some last =>
      rw [he] at h
      cases h
      exact (behind_of_afterExponent? he).trans hfraction
  · exact behind_of_afterExponent? h

theorem behind_of_scanMagnitude {negative : Bool} {cs rest : List Char} {v : Value}
    (h : scanMagnitude negative cs = .ok (v, rest)) : Behind rest cs := by
  have hcut := wholeDigits_append cs
  simp only [scanMagnitude] at h
  split at h
  · cases h
  · rename_i hdigits
    have hwhole : Behind (wholeDigits cs).2 cs := by
      refine ⟨⟨_, hcut⟩, ?_⟩
      have hlength := congrArg List.length hcut
      rw [List.length_append] at hlength
      have hpos := List.length_pos_iff.mpr (mt List.isEmpty_iff.mpr hdigits)
      omega
    split at h
    · rename_i next hnext
      cases h
      exact (behind_of_afterParts? hnext).trans hwhole
    · split at h
      · cases h
      · cases h
        exact hwhole

theorem words_nonempty {w : List Char × Value} (h : w ∈ words) : 0 < w.1.length := by
  simp only [words, List.mem_cons, List.not_mem_nil, or_false] at h
  rcases h with h | h | h | h | h | h <;> subst h <;> decide

theorem behind_of_scanScalar {cs rest : List Char} {v : Value}
    (h : scanScalar cs = .ok (v, rest)) : Behind rest cs := by
  unfold scanScalar at h
  split at h
  · rename_i word w hfind
    cases h
    have hpos := words_nonempty (List.mem_of_find?_eq_some hfind)
    have hword := List.find?_some hfind
    have hle := (List.isPrefixOf_iff_prefix.mp hword).length_le
    refine ⟨List.drop_suffix _ _, ?_⟩
    simp only [List.length_drop] at hpos hle ⊢
    omega
  · split at h
    · exact (behind_of_scanMagnitude h).within (List.suffix_cons _ _)
    · exact behind_of_scanMagnitude h

abbrev Shorter (text : List Char) := { cs : List Char // Behind cs text }

abbrev Reading (α : Type) (text : List Char) := Except Refusal (α × Shorter text)

def stringRest (cs : List Char) : Reading String cs :=
  match h : scanString [] cs with
  | .error f => .error (.malformed f)
  | .ok (s, next) => .ok (s, ⟨next, behind_of_scanString h⟩)

def scalar (cs : List Char) : Reading Value cs :=
  match h : scanScalar cs with
  | .error e => .error e
  | .ok (v, next) => .ok (v, ⟨next, behind_of_scanScalar h⟩)

def skipBlank (cs : List Char) : Rest cs := (Rest.whole cs).dropWhile isBlank

mutual

/-- Reads one value. At most `depth` more lists or objects may open inside one another. -/
def value (depth : Nat) (cs : List Char) : Reading Value cs :=
  match after? '"' cs with
  | some ⟨rest, hrest⟩ =>
    match stringRest rest with
    | .error e => .error e
    | .ok (s, ⟨next, hnext⟩) => .ok (.text s, ⟨next, hnext.trans hrest⟩)
  | none =>
    match after? '[' cs with
    | some ⟨rest, hrest⟩ =>
      match depth with
      | 0 => .error .tooDeep
      | depth + 1 =>
        match skipBlank rest with
        | ⟨start, hstart⟩ =>
          have hlt := hrest.before hstart
          match after? ']' start with
          | some ⟨next, hnext⟩ => .ok (.list [], ⟨next, hnext.trans hlt⟩)
          | none => items depth [] cs ⟨start, hlt⟩
    | none =>
      match after? '{' cs with
      | some ⟨rest, hrest⟩ =>
        match depth with
        | 0 => .error .tooDeep
        | depth + 1 =>
          match skipBlank rest with
          | ⟨start, hstart⟩ =>
            have hlt := hrest.before hstart
            match after? '}' start with
            | some ⟨next, hnext⟩ => .ok (.object [], ⟨next, hnext.trans hlt⟩)
            | none => members depth [] cs ⟨start, hlt⟩
      | none => scalar cs
termination_by (cs.length, 0)
decreasing_by all_goals exact Prod.Lex.left _ _ hlt.shorter

def items (depth : Nat) (done : List Value) (text : List Char) (cs : Shorter text) :
    Reading Value text :=
  match value depth cs.1 with
  | .error e => .error e
  | .ok (v, ⟨rest, hrest⟩) =>
    match skipBlank rest with
    | ⟨stop, hstop⟩ =>
      have hitem := hrest.before hstop
      match after? ']' stop with
      | some ⟨next, hnext⟩ =>
        .ok (.list (v :: done).reverse, ⟨next, (hnext.trans hitem).trans cs.2⟩)
      | none =>
        match after? ',' stop with
        | none => .error (.malformed .expectedComma)
        | some ⟨next, hnext⟩ =>
          match skipBlank next with
          | ⟨start, hstart⟩ =>
            have hlt := (hnext.trans hitem).before hstart
            items depth (v :: done) text ⟨start, hlt.trans cs.2⟩
termination_by (cs.1.length, 1)
decreasing_by
  · exact Prod.Lex.right _ Nat.zero_lt_one
  · exact Prod.Lex.left _ _ hlt.shorter

def members (depth : Nat) (done : List (String × Value)) (text : List Char) (cs : Shorter text) :
    Reading Value text :=
  match after? '"' cs.1 with
  | none => .error (.malformed .expectedKey)
  | some ⟨rest, hrest⟩ =>
    match stringRest rest with
    | .error e => .error e
    | .ok (key, ⟨afterKey, hkey⟩) =>
      match skipBlank afterKey with
      | ⟨colon, hcolon⟩ =>
        match after? ':' colon with
        | none => .error (.malformed .expectedColon)
        | some ⟨beforeValue, hbefore⟩ =>
          match skipBlank beforeValue with
          | ⟨start, hstart⟩ =>
            have hmember := ((hbefore.within hcolon).before hstart).trans (hkey.trans hrest)
            match value depth start with
            | .error e => .error e
            | .ok (v, ⟨afterValue, hvalue⟩) =>
              match skipBlank afterValue with
              | ⟨stop, hstop⟩ =>
                have hitem := (hvalue.before hstop).trans hmember
                match after? '}' stop with
                | some ⟨next, hnext⟩ =>
                  .ok (.object (putMember key v done), ⟨next, (hnext.trans hitem).trans cs.2⟩)
                | none =>
                  match after? ',' stop with
                  | none => .error (.malformed .expectedComma)
                  | some ⟨next, hnext⟩ =>
                    match skipBlank next with
                    | ⟨again, hagain⟩ =>
                      have hlt := (hnext.trans hitem).before hagain
                      members depth (putMember key v done) text ⟨again, hlt.trans cs.2⟩
termination_by (cs.1.length, 0)
decreasing_by
  · exact Prod.Lex.left _ _ hmember.shorter
  · exact Prod.Lex.left _ _ hlt.shorter

end

def parse (limit : Nat) (text : List Char) : Except Refusal Value :=
  match text with
  | '\ufeff' :: _ => .error (.malformed .byteOrderMark)
  | _ =>
    match value limit (skipBlank text).1 with
    | .error e => .error e
    | .ok (v, rest) =>
      if (skipBlank rest.1).1.isEmpty then .ok v else .error (.malformed .extraData)

end PrefixLint.Ast.Json
