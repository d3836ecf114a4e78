import StubHttp.Json.Quoted

/-!
# From text to document

`Doc.parse` reads a document off the front of a text. All its functions take fuel, of which the
length of the text is always enough.
-/
namespace StubHttp.Json.Parse

open Utf8 (Piece)

def isSpace : Piece → Bool
  | .char c => c = ' ' || c = '\n' || c = '\t' || c = '\r'
  | .junk _ => false

def skipSpace (s : List Piece) : List Piece := s.dropWhile isSpace

def digit? : Piece → Option Nat
  | .char c => if '0' ≤ c ∧ c ≤ '9' then some (c.toNat - 48) else none
  | .junk _ => none

def digits : List Piece → List Nat × List Piece
  | [] => ([], [])
  | p :: ps =>
    match digit? p with
    | some d =>
      let r := digits ps
      (d :: r.1, r.2)
    | none => ([], p :: ps)

/-- A value and what follows it, if anything that follows can be reached. -/
abbrev Read := Doc × Option (List Piece)

def broken (b : Break) : Read := (.broken b, none)

def unfinished : List Piece → Read
  | [] => broken ⟨.endInValue, .badNumber⟩
  | _ :: _ => broken (.same .badNumber)

def power (negative : Bool) (whole fraction : List Nat) (s : List Piece) : Read :=
  let (minus, s) : Bool × List Piece :=
    match s with
    | .char '+' :: r => (false, r)
    | .char '-' :: r => (true, r)
    | _ => (false, s)
  match digits s with
  | ([], r) => unfinished r
  | (ds, r) =>
    let e : Nat := ds.foldl (fun n d => n * 10 + d) 0
    (.number (.ofParts negative whole fraction (if minus then -(e : Int) else e)), some r)

def afterWhole (negative : Bool) (whole : List Nat) : List Piece → Read
  | .char '.' :: r =>
    match digits r with
    | ([], r) => unfinished r
    | (fraction, .char 'e' :: r) | (fraction, .char 'E' :: r) => power negative whole fraction r
    | (fraction, r) => (.number (.ofParts negative whole fraction 0), some r)
  | .char 'e' :: r | .char 'E' :: r => power negative whole [] r
  | r => (.number (.ofDigits negative whole), some r)

def number (negative : Bool) (s : List Piece) : Read :=
  match digits s with
  | ([], r) => unfinished r
  | (0 :: _ :: _, _) => broken (.same .badNumber)
  | (whole, r) => afterWhole negative whole r

def word (d : Doc) : List Char → List Piece → Read
  | [], s => (d, some s)
  | _ :: _, [] => broken (.same .endInValue)
  | c :: cs, p :: s => if p = .char c then word d cs s else broken (.same .expectedIdent)

def colon (s : List Piece) : Except Fault (List Piece) :=
  match skipSpace s with
  | [] => .error .endInObject
  | .char ':' :: r => .ok r
  | _ => .error .expectedColon

mutual

def value : Nat → List Piece → Read
  | 0, _ => (.absent, none)
  | fuel + 1, s =>
    match skipSpace s with
    | [] => (.absent, none)
    | .char 'n' :: r => word .null "ull".toList r
    | .char 't' :: r => word (.bool true) "rue".toList r
    | .char 'f' :: r => word (.bool false) "alse".toList r
    | .char '"' :: r =>
      let q := Quoted.scan .start r
      match q.stop, q.text with
      | none, t => (.string t, some q.rest)
      | some f, .error e => broken ⟨e, f⟩
      | some f, .ok _ => broken (.same f)
    | .char '-' :: r => number true r
    | .char '[' :: r =>
      let (ds, close, rest) := items fuel true r
      (.array ds close, rest)
    | .char '{' :: r =>
      let (ms, close, rest) := members fuel true r
      (.object ms close, rest)
    | p :: r => if (digit? p).isSome then number false (p :: r) else broken (.same .expectedValue)

def items : Nat → Bool → List Piece → List Doc × Option Break × Option (List Piece)
  | 0, _, _ => ([], some (.same .endInList), none)
  | fuel + 1, first, s =>
    match skipSpace s with
    | [] => ([], some (.same .endInList), none)
    | .char ']' :: r => ([], none, some r)
    | p :: r =>
      if first then item fuel (p :: r)
      else if p = .char ',' then
        match skipSpace r with
        | [] => ([], some (.same .endInValue), none)
        | .char ']' :: _ => ([], some ⟨.trailingComma, .expectedValue⟩, none)
        | r => item fuel r
      else ([], some (.same .expectedListEnd), none)

def item : Nat → List Piece → List Doc × Option Break × Option (List Piece)
  | 0, _ => ([], some (.same .endInList), none)
  | fuel + 1, s =>
    match value fuel s with
    | (d, none) => ([d], none, none)
    | (d, some r) =>
      let (ds, close, rest) := items fuel false r
      (d :: ds, close, rest)

def members : Nat → Bool → List Piece → List (Key × Doc) × Option Break × Option (List Piece)
  | 0, _, _ => ([], some (.same .endInObject), none)
  | fuel + 1, first, s =>
    match skipSpace s with
    | [] => ([], some (.same .endInObject), none)
    | .char '}' :: r => ([], none, some r)
    | p :: r =>
      if first then member fuel (p :: r)
      else if p = .char ',' then
        match skipSpace r with
        | [] => ([], some ⟨.endInValue, .endInObject⟩, none)
        | .char '}' :: _ => ([], some ⟨.trailingComma, .keyNotText⟩, none)
        | r => member fuel r
      else ([], some (.same .expectedObjectEnd), none)

def member : Nat → List Piece → List (Key × Doc) × Option Break × Option (List Piece)
  | 0, _ => ([], some (.same .endInObject), none)
  | fuel + 1, .char '"' :: r =>
    let q := Quoted.scan .start r
    match q.stop, colon q.rest with
    | some f, _ => ([(⟨q.text, some f, none⟩, .absent)], none, none)
    | none, .error f => ([(⟨q.text, none, some f⟩, .absent)], none, none)
    | none, .ok r =>
      match value fuel r with
      | (d, none) => ([(⟨q.text, none, none⟩, d)], none, none)
      | (d, some r) =>
        let (ms, close, rest) := members fuel false r
        ((⟨q.text, none, none⟩, d) :: ms, close, rest)
  | fuel + 1, s =>
    ([(⟨.error .keyNotText, some .keyNotText, none⟩, (value fuel s).1)], none, none)

end

end Parse

structure Parsed where
  doc : Doc
  more : Bool

def Doc.parse (s : List Utf8.Piece) : Parsed :=
  match Parse.value (3 * s.length + 3) s with
  | (d, some r) => ⟨d, !(Parse.skipSpace r).isEmpty⟩
  | (d, none) => ⟨d, false⟩

def pieces (s : String) : List Utf8.Piece := s.toList.map .char

end StubHttp.Json
