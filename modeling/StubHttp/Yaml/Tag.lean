import StubHttp.Yaml.Scalar

/-!
# Names and tags

Anchors, tags and directives, each from the text behind its indicator.
-/
namespace StubHttp.Yaml

def anchorName? (cs : List Char) : Option (String × List Char) :=
  let name := cs.takeWhile isWordChar
  let rest := cs.drop name.length
  if name.isEmpty then none
  else if atGap rest || (rest.head?.any fun c => "?:,]\x7d%@`".toList.contains c) then
    some (String.ofList name, rest)
  else none

def isTagChar (verbatim : Bool) (c : Char) : Bool :=
  isWordChar c || ";/?:@&=+$.!~*'()".toList.contains c || (verbatim && ",[]".toList.contains c)

def announced? (b : UInt8) : Option Nat :=
  if b < 0x80 then some 1
  else if b &&& 0xe0 = 0xc0 then some 2
  else if b &&& 0xf0 = 0xe0 then some 3
  else if b &&& 0xf8 = 0xf0 then some 4
  else none

def dueAfter? (due : Nat) (b : UInt8) : Option Nat :=
  if due = 0 then (announced? b).map (· - 1)
  else if b &&& 0xc0 = 0x80 then some (due - 1)
  else none

def tagOctets? (verbatim : Bool) (due : Nat) : List Char → Option (List UInt8 × List Char)
  | '%' :: a :: b :: cs => do
    let octet := ((← hexValue? a) * 16 + (← hexValue? b)).toUInt8
    let (octets, rest) ← tagOctets? verbatim (← dueAfter? due octet) cs
    return (octet :: octets, rest)
  | c :: cs =>
    if due ≠ 0 ∨ c = '%' then none
    else if isTagChar verbatim c then
      (tagOctets? verbatim 0 cs).map fun (octets, rest) => (c.toNat.toUInt8 :: octets, rest)
    else some ([], c :: cs)
  | [] => if due = 0 then some ([], []) else none

def tagPart? (verbatim : Bool) (cs : List Char) : Option (List UInt8 × List Char) :=
  match tagOctets? verbatim 0 cs with
  | some (octets, rest) => if rest.length = cs.length then none else some (octets, rest)
  | none => none

def handleBody (cs : List Char) : List Char × Bool × List Char :=
  let word := cs.takeWhile isWordChar
  match cs.drop word.length with
  | '!' :: rest => (word, true, rest)
  | rest => (word, false, rest)

def endsTag (flow : Bool) (cs : List Char) : Bool :=
  atGap cs || (flow && cs.head? = some ',')

def tag? (flow : Bool) (cs : List Char) : Option (Token × List Char) := do
  let (token, rest) ← match cs with
    | '<' :: cs =>
      match ← tagPart? true cs with
      | (octets, '>' :: rest) => some (Token.tag "" octets, rest)
      | _ => none
    | cs =>
      match handleBody cs with
      | (word, true, rest) =>
        (tagPart? false rest).map fun (octets, rest) =>
          (Token.tag (String.ofList ('!' :: word ++ ['!'])) octets, rest)
      | (word, false, rest) =>
        (tagOctets? false 0 rest).map fun (octets, rest) =>
          let suffix := Utf8.bytes (String.ofList word) ++ octets
          (if suffix.isEmpty then Token.tag "" (Utf8.bytes "!") else Token.tag "!" suffix, rest)
  if endsTag flow rest then some (token, rest) else none

def versionNumber? (cs : List Char) : Option (Nat × List Char) :=
  let digits := cs.takeWhile Char.isDigit
  let value : Nat := digits.foldl (fun n c => n * 10 + (c.toNat - 48)) 0
  if digits.isEmpty ∨ 9 < digits.length then none else some (value, cs.drop digits.length)

def version? (cs : List Char) : Option (Token × List Char) := do
  let (major, cs) ← versionNumber? (cs.dropWhile isBlank)
  match cs with
  | '.' :: cs =>
    let (minor, cs) ← versionNumber? cs
    return (.version major minor, cs)
  | _ => none

def handle? (cs : List Char) : Option (Token × List Char) := do
  match cs.dropWhile isBlank with
  | '!' :: cs =>
    let (word, closed, rest) := handleBody cs
    if !closed && !word.isEmpty then none
    if !rest.head?.any isBlank then none
    let (stem, rest) ← tagPart? true (rest.dropWhile isBlank)
    if !atGap rest then none
    let name := '!' :: word ++ if closed then ['!'] else []
    return (.handle (String.ofList name) stem, rest)
  | _ => none

def directive? (cs : List Char) : Option (Token × List Char) := do
  let name := cs.takeWhile isWordChar
  let rest := cs.drop name.length
  if !atGap rest then none
  let (token, rest) ←
    if name = "YAML".toList then version? rest
    else if name = "TAG".toList then handle? rest
    else none
  return (token, ← restOfLine? rest)

end StubHttp.Yaml
