import StubHttp.Json.Doc
import StubHttp.Text.Utf8

/-!
# Strings of a document

A string runs to the next quote that is not escaped. `Quoted.scan` goes through it piece by piece
and keeps its text, the first fault that only a reader minds, and the fault that ends it early.
`encode` writes a text between quotes.
-/
namespace StubHttp.Json.Quoted

open Utf8 (Piece)

inductive Mode
  | plain
  | escape
  /-- `left` digits of an escape are to come; `high` is the first half of a pair. -/
  | hex (left value : Nat) (high : Option Nat)
  /-- A first half must be followed by an escape. -/
  | pairSlash (high : Nat)
  | pairLetter (high : Nat)

structure State where
  mode : Mode
  /-- The characters so far, the last first. -/
  chars : List Char
  fault : Option Fault
  junk : Bool

inductive Step
  | next (s : State)
  | closed (s : State)
  | stopped (s : State) (f : Fault)

namespace State

def start : State := ⟨.plain, [], none, false⟩

def push (s : State) (c : Char) : Step := .next { s with mode := .plain, chars := c :: s.chars }

def blame (s : State) (f : Fault) : State := { s with mode := .plain, fault := s.fault.or (some f) }

def plain (s : State) : Piece → Step
  | .junk _ => .next { s with junk := true }
  | .char '"' => .closed s
  | .char '\\' => .next { s with mode := .escape }
  | .char c => if c.toNat < 0x20 then .stopped s .controlCharacter else s.push c

def escape (s : State) : Piece → Step
  | .char '"' => s.push '"'
  | .char '\\' => s.push '\\'
  | .char '/' => s.push '/'
  | .char 'b' => s.push '\x08'
  | .char 'f' => s.push '\x0c'
  | .char 'n' => s.push '\n'
  | .char 'r' => s.push '\r'
  | .char 't' => s.push '\t'
  | .char 'u' => .next { s with mode := .hex 4 0 none }
  | _ => .stopped s .badEscape

def unit (s : State) (n : Nat) : Option Nat → Step
  | none =>
    if 0xDC00 ≤ n ∧ n ≤ 0xDFFF then .next (s.blame .loneSurrogate)
    else if 0xD800 ≤ n ∧ n ≤ 0xDBFF then .next { s with mode := .pairSlash n }
    else s.push (Char.ofNat n)
  | some high =>
    if 0xDC00 ≤ n ∧ n ≤ 0xDFFF then
      s.push (Char.ofNat (0x10000 + (high - 0xD800) * 0x400 + (n - 0xDC00)))
    else .next (s.blame .loneSurrogate)

def hexDigit? (c : Char) : Option Nat :=
  if '0' ≤ c ∧ c ≤ '9' then some (c.toNat - 48)
  else if 'a' ≤ c ∧ c ≤ 'f' then some (c.toNat - 87)
  else if 'A' ≤ c ∧ c ≤ 'F' then some (c.toNat - 55)
  else none

def hasBytes : Nat → List Piece → Bool
  | 0, _ => true
  | _, [] => false
  | n, p :: ps => p.size ≥ n || hasBytes (n - p.size) ps

def step (s : State) (p : Piece) (rest : List Piece) : Step :=
  match s.mode with
  | .plain => s.plain p
  | .escape => s.escape p
  | .hex left value high =>
    match p.char? >>= hexDigit? with
    | some d =>
      if left ≤ 1 then s.unit (value * 16 + d) high
      else .next { s with mode := .hex (left - 1) (value * 16 + d) high }
    | none => .stopped s (if hasBytes left (p :: rest) then .badEscape else .endInString)
  | .pairSlash high =>
    if p = .char '\\' then .next { s with mode := .pairLetter high }
    else (s.blame .halfPair).plain p
  | .pairLetter high =>
    if p = .char 'u' then .next { s with mode := .hex 4 0 (some high) }
    else (s.blame .halfPair).escape p

def text (s : State) (stop : Option Fault) : Except Fault String :=
  match s.fault.or stop with
  | some f => .error f
  | none => if s.junk then .error .badText else .ok (String.ofList s.chars.reverse)

end State

structure Scanned where
  text : Except Fault String
  stop : Option Fault
  rest : List Piece

def scan (s : State) : List Piece → Scanned
  | [] => ⟨s.text (some .endInString), some .endInString, []⟩
  | p :: ps =>
    match s.step p ps with
    | .next s' => scan s' ps
    | .closed s' => ⟨s'.text none, none, ps⟩
    | .stopped s' f => ⟨s'.text (some f), some f, ps⟩

def hexDigit (n : Nat) : Char := Nat.digitChar n

def escaped (c : Char) : List Char :=
  match c with
  | '"' => ['\\', '"']
  | '\\' => ['\\', '\\']
  | '\x08' => ['\\', 'b']
  | '\x0c' => ['\\', 'f']
  | '\n' => ['\\', 'n']
  | '\r' => ['\\', 'r']
  | '\t' => ['\\', 't']
  | c =>
    if c.toNat < 0x20 then
      ['\\', 'u', '0', '0', hexDigit (c.toNat / 16), hexDigit (c.toNat % 16)]
    else [c]

def encode (s : String) : List Char :=
  '"' :: (s.toList.flatMap escaped ++ ['"'])

end StubHttp.Json.Quoted
