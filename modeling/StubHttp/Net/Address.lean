import StubHttp.Text.Search

/-!
# Internet addresses

Addresses of version 4 are four octets, those of version 6 eight groups of sixteen bits. Texts are
read strictly: an octet has no leading zero, and two colons stand for one group at least.
-/
namespace StubHttp

inductive IpAddress
  | v4 (octets : Vector UInt8 4)
  | v6 (groups : Vector UInt16 8)
  deriving DecidableEq

namespace IpAddress

def digit? (radix : Nat) (c : Char) : Option Nat :=
  let value : Option Nat :=
    if '0' ≤ c ∧ c ≤ '9' then some (c.toNat - '0'.toNat)
    else if 'a' ≤ c ∧ c ≤ 'f' then some (c.toNat - 'a'.toNat + 10)
    else if 'A' ≤ c ∧ c ≤ 'F' then some (c.toNat - 'A'.toNat + 10)
    else none
  value.filter (· < radix)

def number? (radix width : Nat) (cs : List Char) : Option (Nat × List Char) :=
  let digits := cs.takeWhile fun c => (digit? radix c).isSome
  let value : Nat := digits.foldl (fun n c => n * radix + (digit? radix c).getD 0) 0
  if digits.isEmpty ∨ width < digits.length then none
  else some (value, cs.drop digits.length)

def octet? (cs : List Char) : Option (UInt8 × List Char) :=
  match number? 10 3 cs with
  | some (n, rest) =>
    if n < 256 ∧ (cs.head? = some '0' → cs.length = rest.length + 1) then some (n.toUInt8, rest)
    else none
  | none => none

def after? {α : Type} (sep : Char) (read : List Char → Option α) : List Char → Option α
  | c :: cs => if c = sep then read cs else none
  | [] => none

def octets? (cs : List Char) : Option (Vector UInt8 4 × List Char) := do
  let (a, cs) ← octet? cs
  let (b, cs) ← after? '.' octet? cs
  let (c, cs) ← after? '.' octet? cs
  let (d, cs) ← after? '.' octet? cs
  return (#v[a, b, c, d], cs)

def groupsOf (o : Vector UInt8 4) : List UInt16 :=
  let pair (high low : UInt8) : UInt16 := high.toUInt16 * 256 + low.toUInt16
  [pair o[0] o[1], pair o[2] o[3]]

/-- The start of a list of groups: as many as there are, at most `limit`, the last two as octets if
they are written so. Tells whether they are. -/
def groups (first : Bool) : Nat → List Char → List UInt16 × Bool × List Char
  | 0, cs => ([], false, cs)
  | limit + 1, cs =>
    let item {α : Type} (read : List Char → Option α) : Option α :=
      if first then read cs else after? ':' read cs
    match if limit = 0 then none else item octets? with
    | some (o, rest) => (groupsOf o, true, rest)
    | none =>
      match item (number? 16 4) with
      | some (n, rest) =>
        let (gs, asOctets, rest) := groups false limit rest
        (n.toUInt16 :: gs, asOctets, rest)
      | none => ([], false, cs)

def groups? (cs : List Char) : Option (List UInt16 × List Char) :=
  let (head, asOctets, rest) := groups true 8 cs
  if head.length = 8 then some (head, rest)
  else if asOctets then none
  else
    match rest with
    | ':' :: ':' :: rest =>
      let (tail, _, rest) := groups true (7 - head.length) rest
      some (head ++ List.replicate (8 - head.length - tail.length) 0 ++ tail, rest)
    | _ => none

def parse? (s : String) : Option IpAddress :=
  match octets? s.toList with
  | some (o, rest) => if rest.isEmpty then some (v4 o) else none
  | none =>
    match groups? s.toList with
    | some (gs, rest) =>
      if h : gs.length = 8 then
        if rest.isEmpty then some (v6 ⟨gs.toArray, by simp [h]⟩) else none
      else none
    | none => none

def renderOctets (os : List UInt8) : String := ".".intercalate (os.map fun o => toString o.toNat)

def renderGroups (gs : List UInt16) : String :=
  ":".intercalate (gs.map fun g => String.ofList (Nat.toDigits 16 g.toNat))

def longestRun : List UInt16 → Nat × Nat
  | [] => (0, 0)
  | g :: gs =>
    let here := ((g :: gs).takeWhile (· = 0)).length
    let (start, length) := longestRun gs
    if length ≤ here then (0, here) else (start + 1, length)

def renderV6 (gs : List UInt16) : String :=
  match gs with
  | [0, 0, 0, 0, 0, 0xffff, a, b] =>
    "::ffff:" ++ renderOctets
      [(a >>> 8).toUInt8, a.toUInt8, (b >>> 8).toUInt8, b.toUInt8]
  | gs =>
    let (start, length) := longestRun gs
    if length ≤ 1 then renderGroups gs
    else renderGroups (gs.take start) ++ "::" ++ renderGroups (gs.drop (start + length))

def render : IpAddress → String
  | v4 os => renderOctets os.toList
  | v6 gs => renderV6 gs.toList

def isAny : IpAddress → Bool
  | v4 os => os.toList.all (· = 0)
  | v6 gs => gs.toList.all (· = 0)

end IpAddress

structure Endpoint where
  ip : IpAddress
  port : UInt16
  deriving DecidableEq

/-- Two listeners cannot be on these endpoints. Port 0 asks for any port that is free. -/
def Endpoint.clashes (d e : Endpoint) : Bool :=
  d.port = e.port && d.port ≠ 0 && (d.ip = e.ip || d.ip.isAny || e.ip.isAny)

def Endpoint.render (e : Endpoint) : String :=
  match e.ip with
  | .v4 _ => s!"{e.ip.render}:{e.port.toNat}"
  | .v6 _ => s!"[{e.ip.render}]:{e.port.toNat}"

end StubHttp
