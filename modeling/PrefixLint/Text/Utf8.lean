import PrefixLint.Text.Quoted

/-!
# Decoding UTF-8

The decoder takes one byte at a time. A lead byte says how many bytes must follow and between which
bounds the first of them lies, which excludes overlong forms, surrogates and code points past
U+10FFFF. A fault covers the bytes of the sequence that were in order, at least the lead byte.

A decoded text is read with one spelling of line ends: a carriage return, alone or with the line
feed after it, counts as a line feed.
-/

namespace PrefixLint.Text

namespace Utf8

inductive Reason where
  | invalidStart
  | invalidContinuation
  | unexpectedEnd
  deriving DecidableEq, Repr

def Reason.text : Reason → String
  | .invalidStart => "invalid start byte"
  | .invalidContinuation => "invalid continuation byte"
  | .unexpectedEnd => "unexpected end of data"

structure Fault where
  position : Nat
  length : Nat
  lead : UInt8
  reason : Reason
  deriving DecidableEq, Repr

def Fault.message (f : Fault) : String :=
  if f.length = 1 then
    let byte := String.ofList (hexDigits 2 f.lead.toNat)
    s!"'utf-8' codec can't decode byte 0x{byte} in position {f.position}: {f.reason.text}"
  else
    let last := f.position + f.length - 1
    s!"'utf-8' codec can't decode bytes in position {f.position}-{last}: {f.reason.text}"

/-- A sequence that has begun: its lead byte, the bits gathered, the number of bytes still missing
and the bounds of the next one. -/
structure Sequence where
  start : Nat
  lead : UInt8
  bits : Nat
  missing : Nat
  low : UInt8 := 0x80
  high : UInt8 := 0xBF

def Sequence.fault (s : Sequence) (position : Nat) (reason : Reason) : Fault :=
  ⟨s.start, position - s.start, s.lead, reason⟩

def Sequence.begin? (start : Nat) (lead : UInt8) : Option Sequence :=
  let bits (mask : UInt8) := (lead &&& mask).toNat
  if 0xC2 ≤ lead && lead ≤ 0xDF then some { start, lead, bits := bits 0x1F, missing := 1 }
  else if lead = 0xE0 then some { start, lead, bits := bits 0x0F, missing := 2, low := 0xA0 }
  else if lead = 0xED then some { start, lead, bits := bits 0x0F, missing := 2, high := 0x9F }
  else if 0xE1 ≤ lead && lead ≤ 0xEF then some { start, lead, bits := bits 0x0F, missing := 2 }
  else if lead = 0xF0 then some { start, lead, bits := bits 0x07, missing := 3, low := 0x90 }
  else if lead = 0xF4 then some { start, lead, bits := bits 0x07, missing := 3, high := 0x8F }
  else if 0xF1 ≤ lead && lead ≤ 0xF3 then some { start, lead, bits := bits 0x07, missing := 3 }
  else none

def Sequence.extend (s : Sequence) (byte : UInt8) : Sequence :=
  { start := s.start
    lead := s.lead
    bits := s.bits * 64 + (byte &&& 0x3F).toNat
    missing := s.missing - 1 }

def decodeFrom (position : Nat) (pending : Option Sequence) (done : List Char) :
    List UInt8 → Except Fault (List Char)
  | [] =>
    match pending with
    | none => .ok done.reverse
    | some s => .error (s.fault position .unexpectedEnd)
  | byte :: rest =>
    match pending with
    | some s =>
      if s.low ≤ byte && byte ≤ s.high then
        let s := s.extend byte
        if s.missing = 0 then
          decodeFrom (position + 1) none (Char.ofNat s.bits :: done) rest
        else
          decodeFrom (position + 1) (some s) done rest
      else
        .error (s.fault position .invalidContinuation)
    | none =>
      if byte < 0x80 then
        decodeFrom (position + 1) none (Char.ofNat byte.toNat :: done) rest
      else
        match Sequence.begin? position byte with
        | some s => decodeFrom (position + 1) (some s) done rest
        | none => .error ⟨position, 1, byte, .invalidStart⟩

def decode (bytes : List UInt8) : Except Fault (List Char) := decodeFrom 0 none [] bytes

end Utf8

def unifyNewlinesFrom (done : List Char) : List Char → List Char
  | [] => done.reverse
  | '\r' :: '\n' :: rest => unifyNewlinesFrom ('\n' :: done) rest
  | '\r' :: rest => unifyNewlinesFrom ('\n' :: done) rest
  | c :: rest => unifyNewlinesFrom (c :: done) rest

def unifyNewlines (cs : List Char) : List Char := unifyNewlinesFrom [] cs

end PrefixLint.Text
