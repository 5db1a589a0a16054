/-!
# Scanners

A scanner takes what is left of a text and gives back what it read and what is then left, which is
an end of the text. The text itself is only there to be compared with: a scanner may be run on what
is left as a text of its own, and then the rest is known to be an end of that. So a loop that also
takes a character of its own comes to its end. What such a loop has gathered so far it holds in
reverse, under the name `done`.
-/

namespace PrefixLint.Text

abbrev Rest (text : List Char) := { cs : List Char // cs <:+ text }

namespace Rest

def whole (text : List Char) : Rest text := ⟨text, List.suffix_rfl⟩

def drop {text : List Char} (n : Nat) (cs : Rest text) : Rest text :=
  ⟨cs.1.drop n, (List.drop_suffix n cs.1).trans cs.2⟩

def dropWhile {text : List Char} (p : Char → Bool) (cs : Rest text) : Rest text :=
  ⟨cs.1.dropWhile p, (List.dropWhile_suffix p).trans cs.2⟩

end Rest

/-- An end of a text that is not the whole of it. -/
structure Behind (cs text : List Char) : Prop where
  suffix : cs <:+ text
  shorter : cs.length < text.length

namespace Behind

variable {cs middle text : List Char}

theorem cons (c : Char) (h : cs <:+ text) : Behind cs (c :: text) :=
  ⟨h.trans (List.suffix_cons c text), Nat.lt_succ_of_le h.length_le⟩

theorem before (hm : Behind middle text) (h : cs <:+ middle) : Behind cs text :=
  ⟨h.trans hm.suffix, Nat.lt_of_le_of_lt h.length_le hm.shorter⟩

theorem within (h : Behind cs middle) (hm : middle <:+ text) : Behind cs text :=
  ⟨h.suffix.trans hm, Nat.lt_of_lt_of_le h.shorter hm.length_le⟩

theorem trans (h : Behind cs middle) (hm : Behind middle text) : Behind cs text :=
  h.within hm.suffix

end Behind

def after? (c : Char) : (cs : List Char) → Option { rest : List Char // Behind rest cs }
  | [] => none
  | d :: rest => if d = c then some ⟨rest, .cons d List.suffix_rfl⟩ else none

theorem eq_cons_of_after? {c : Char} {cs : List Char}
    {rest : { rest : List Char // Behind rest cs }} (h : after? c cs = some rest) :
    cs = c :: rest.1 := by
  obtain _ | ⟨d, tail⟩ := cs
  · cases h
  · simp only [after?, Option.ite_none_right_eq_some, Option.some.injEq] at h
    obtain ⟨rfl, rfl⟩ := h
    rfl

abbrev Scanned (ε α : Type) (text : List Char) := Except ε (α × Rest text)

def Scan (ε α : Type) : Type := (text : List Char) → Rest text → Scanned ε α text

namespace Scan

variable {ε α : Type}

instance : Monad (Scan ε) where
  pure a := fun _ cs => .ok (a, cs)
  bind s f := fun text cs =>
    match s text cs with
    | .ok (a, rest) => f a text rest
    | .error e => .error e

def failWith (fault : List Char → ε) : Scan ε α := fun _ cs => .error (fault cs.1)

/-- Gives nothing, and takes nothing, where the scanner finds a fault. -/
def attempt (s : Scan ε α) : Scan ε (Option α) := fun text cs =>
  match s text cs with
  | .ok (a, rest) => .ok (some a, rest)
  | .error _ => .ok (none, cs)

def peek : Scan ε (Option Char) := fun _ cs => .ok (cs.1.head?, cs)

def left : Scan ε (List Char) := fun _ cs => .ok (cs.1, cs)

def drop (n : Nat) : Scan ε Unit := fun _ cs => .ok ((), cs.drop n)

def take (n : Nat) : Scan ε (List Char) := fun _ cs => .ok (cs.1.take n, cs.drop n)

def skipWhile (p : Char → Bool) : Scan ε Unit := fun _ cs => .ok ((), cs.dropWhile p)

def takeWhile (p : Char → Bool) : Scan ε (List Char) := fun _ cs =>
  .ok (cs.1.takeWhile p, cs.dropWhile p)

def accept (text : String) : Scan ε Bool := fun _ cs =>
  if text.toList.isPrefixOf cs.1 then .ok (true, cs.drop text.length) else .ok (false, cs)

end Scan

end PrefixLint.Text
