import StubHttp.Text.Dict
import StubHttp.Text.Search
import StubHttp.Text.Utf8

/-!
# Query strings

A query string lists pairs of a name and a value, each escaped byte by byte: `%` with two
hexadecimal digits stands for a byte, and `+` for a blank. What does not decode to text is kept as
it stands.
-/
namespace StubHttp.Query

def hexDigit? (b : UInt8) : Option UInt8 :=
  if 48 ≤ b ∧ b ≤ 57 then some (b - 48)
  else if 97 ≤ b ∧ b ≤ 102 then some (b - 87)
  else if 65 ≤ b ∧ b ≤ 70 then some (b - 55)
  else none

def unescape : List UInt8 → List UInt8
  | 37 :: a :: b :: rest =>
    match hexDigit? a, hexDigit? b with
    | some x, some y => (x * 16 + y) :: unescape rest
    | _, _ => 37 :: unescape (a :: b :: rest)
  | b :: rest => b :: unescape rest
  | [] => []
termination_by bs => bs.length

def decode (raw : List Char) : String :=
  let spaced := String.ofList (raw.map fun c => if c = '+' then ' ' else c)
  (Utf8.text? (unescape (Utf8.bytes spaced))).getD spaced

def decodePair (raw : List Char) : String × String :=
  let (k, v) := Text.cut '=' raw
  (decode k, decode (v.getD []))

def pairs (query : String) : List (String × String) :=
  ((Text.split '&' query.toList).filter (!·.isEmpty)).map decodePair

def parse (query : String) : Multimap := .ofPairs (pairs query)

def param? (query : Option String) (name : String) : Option String :=
  (query.bind fun q => (parse q).get? name).bind List.head?

def isUnreserved (c : Char) : Bool :=
  c.isAlphanum || c = '-' || c = '.' || c = '_' || c = '~'

def hexUpper (n : Nat) : Char := (Nat.digitChar n).toUpper

def escapeByte (b : UInt8) : List Char := ['%', hexUpper (b.toNat / 16), hexUpper (b.toNat % 16)]

def escapeChar (plus : Bool) (c : Char) : List Char :=
  if isUnreserved c then [c]
  else if plus && c = ' ' then ['+']
  else (String.utf8EncodeChar c).flatMap escapeByte

def encode (plus : Bool) (s : String) : List Char := s.toList.flatMap (escapeChar plus)

end StubHttp.Query
