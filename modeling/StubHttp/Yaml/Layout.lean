import StubHttp.Yaml.Tag

/-!
# Layout

The tokens of a text. Indentation opens and closes block collections, and what stands before a colon
on one line is a key: the token that says so is put in front of it when the colon is found.
-/
namespace StubHttp.Yaml

/-- What may turn out to be a key: the index of its first token, and its place. It must, if the line
can hold nothing else. -/
structure Candidate where
  must : Bool
  index : Nat
  place : Place

structure Layout where
  rest : List Char
  place : Place
  /-- The columns of the open block collections, the innermost first. -/
  indents : List Nat
  /-- The candidate on the current level, and those on the levels around the open flow
  collections. -/
  candidate : Option Candidate
  outer : List (Option Candidate)
  /-- A candidate may start here. -/
  keyAllowed : Bool
  tokens : Array Token

namespace Layout

def start (cs : List Char) : Layout := ⟨cs, ⟨0, 0⟩, [], none, [], true, #[]⟩

def inFlow (s : Layout) : Bool := !s.outer.isEmpty

def margin (s : Layout) : Nat := match s.indents with | [] => 0 | n :: _ => n + 1

def moveTo (s : Layout) (rest : List Char) : Layout :=
  { s with
    rest := rest
    place := s.place.after (s.rest.take (s.rest.length - rest.length)) }

def push (s : Layout) (t : Token) : Layout := { s with tokens := s.tokens.push t }

def insert (s : Layout) (index : Nat) (t : Token) : Layout :=
  { s with tokens := s.tokens.insertIdxIfInBounds index t }

def blanks (inFlow keyAllowed : Bool) : List Char → Bool × List Char
  | [] => (keyAllowed, [])
  | c :: cs =>
    if c = ' ' ∨ (c = '\t' ∧ (inFlow ∨ !keyAllowed)) then blanks inFlow keyAllowed cs
    else if c = '#' then comment keyAllowed cs
    else if isBreak c then blanks inFlow (keyAllowed || !inFlow) cs
    else (keyAllowed, c :: cs)
where
  comment (keyAllowed : Bool) : List Char → Bool × List Char
    | [] => (keyAllowed, [])
    | c :: cs =>
      if isBreak c then blanks inFlow (keyAllowed || !inFlow) cs else comment keyAllowed cs

def skipBlanks (s : Layout) : Layout :=
  let (keyAllowed, rest) := blanks s.inFlow s.keyAllowed s.rest
  { s.moveTo rest with keyAllowed := keyAllowed }

/-- A candidate is given up on the next line, or when the line grows too long. -/
def keep? (p : Place) : Option Candidate → Option (Option Candidate)
  | none => some none
  | some k =>
    if k.place.line < p.line ∨ k.place.column + 1024 < p.column then
      if k.must then none else some none
    else some (some k)

def dropStale? (s : Layout) : Option Layout := do
  let candidate ← keep? s.place s.candidate
  let outer ← s.outer.mapM (keep? s.place)
  return { s with candidate := candidate, outer := outer }

def dropCandidate? (s : Layout) : Option Layout :=
  if s.candidate.any (·.must) then none else some { s with candidate := none }

def saveCandidate? (s : Layout) : Option Layout :=
  if s.keyAllowed then
    s.dropCandidate?.map fun t =>
      let must := !s.inFlow && s.indents.head? = some s.place.column
      { t with candidate := some ⟨must, s.tokens.size, s.place⟩ }
  else some s

def indent (s : Layout) (column index : Nat) (t : Token) : Layout :=
  if s.inFlow ∨ column < s.margin then s
  else { s.insert index t with indents := column :: s.indents }

def close (stay : Nat → Bool) (tokens : Array Token) : List Nat → List Nat × Array Token
  | [] => ([], tokens)
  | n :: ns => if stay n then (n :: ns, tokens) else close stay (tokens.push .blockEnd) ns

def dedent (s : Layout) (column : Nat) : Layout :=
  if s.inFlow then s
  else
    let (indents, tokens) := close (· ≤ column) s.tokens s.indents
    { s with indents := indents, tokens := tokens }

def dedentAll (s : Layout) : Layout :=
  if s.inFlow then s
  else { s with indents := [], tokens := (close (fun _ => false) s.tokens s.indents).2 }

def closeDocument? (s : Layout) : Option Layout :=
  s.dedentAll.dropCandidate?.map fun s => { s with keyAllowed := false }

def content? (s : Layout) (read : List Char → Option (Token × List Char)) : Option Layout := do
  let s ← s.saveCandidate?
  let (t, rest) ← read s.rest
  return { s.moveTo rest with keyAllowed := false, tokens := s.tokens.push t }

def openFlow? (s : Layout) (t : Token) : Option Layout :=
  s.saveCandidate?.map fun s =>
    { s.moveTo (s.rest.drop 1) with
      candidate := none, outer := s.candidate :: s.outer, keyAllowed := true
      tokens := s.tokens.push t }

def closeFlow? (s : Layout) (t : Token) : Option Layout :=
  s.dropCandidate?.map fun s =>
    let (candidate, outer) := match s.outer with
      | [] => (none, [])
      | k :: ks => (k, ks)
    { s.moveTo (s.rest.drop 1) with
      candidate := candidate, outer := outer, keyAllowed := false, tokens := s.tokens.push t }

def comma? (s : Layout) : Option Layout :=
  s.dropCandidate?.map fun s =>
    { s.moveTo (s.rest.drop 1) with keyAllowed := true, tokens := s.tokens.push .comma }

def openBlock? (s : Layout) (t : Token) : Option Layout :=
  if s.inFlow then some s
  else if s.keyAllowed then some (s.indent s.place.column s.tokens.size t)
  else none

def dash? (s : Layout) : Option Layout := do
  let s ← (← s.openBlock? .blockList).dropCandidate?
  return { s.moveTo (s.rest.drop 1) with keyAllowed := true, tokens := s.tokens.push .dash }

def key? (s : Layout) : Option Layout := do
  let s ← (← s.openBlock? .blockMap).dropCandidate?
  return { s.moveTo (s.rest.drop 1) with keyAllowed := !s.inFlow, tokens := s.tokens.push .key }

def value? (s : Layout) : Option Layout := do
  let s ← match s.candidate with
    | some k =>
      let s := (s.insert k.index .key).indent k.place.column k.index .blockMap
      some { s with candidate := none, keyAllowed := false }
    | none => (s.openBlock? .blockMap).map fun s => { s with keyAllowed := !s.inFlow }
  return (s.moveTo (s.rest.drop 1)).push .value

def directiveLine? (s : Layout) : Option Layout := do
  let s ← s.closeDocument?
  let (t, rest) ← directive? (s.rest.drop 1)
  return (s.moveTo rest).push t

def documentMark? (s : Layout) (t : Token) : Option Layout :=
  s.closeDocument?.map fun s => (s.moveTo (s.rest.drop 3)).push t

def block? (s : Layout) (literal : Bool) : Option Layout := do
  let s ← s.dropCandidate?
  let (text, rest) ← blockScalar literal s.margin (s.rest.drop 1)
  let style := if literal then Style.literal else .folded
  return { s.moveTo rest with keyAllowed := true, tokens := s.tokens.push (.scalar style text) }

def quoted (style : Style) (cs : List Char) : Option (Token × List Char) :=
  (quotedScalar (style = .singleQuoted) (.space .none) [] (cs.drop 1)).map fun (text, rest) =>
    (.scalar style text, rest)

def name (token : String → Token) (cs : List Char) : Option (Token × List Char) :=
  (anchorName? (cs.drop 1)).map fun (n, rest) => (token n, rest)

def plain? (s : Layout) : Option Layout := do
  let s ← s.saveCandidate?
  let (text, newLine, rest) ← plainScalar s.inFlow s.margin .none [] s.rest
  return { s.moveTo rest with
    keyAllowed := newLine, tokens := s.tokens.push (.scalar .plain text) }

def isIndicator (c : Char) : Bool := "-?:,[]\x7b\x7d#&*!|>'\"%@`".toList.contains c

def startsPlain (inFlow : Bool) (c : Char) (cs : List Char) : Bool :=
  !(isIndicator c || isBlank c) || (c = '-' && !cs.head?.any isBlank) ||
    (!inFlow && (c = '?' || c = ':') && !atGap cs)

def next? (s : Layout) (c : Char) (cs : List Char) : Option Layout :=
  if s.place.column = 0 ∧ c = '%' then s.directiveLine?
  else if s.place.column = 0 ∧ atMark '-' (c :: cs) then s.documentMark? .documentStart
  else if s.place.column = 0 ∧ atMark '.' (c :: cs) then s.documentMark? .documentEnd
  else
    match c with
    | '[' => s.openFlow? .listStart
    | '{' => s.openFlow? .mapStart
    | ']' => s.closeFlow? .listEnd
    | '}' => s.closeFlow? .mapEnd
    | ',' => s.comma?
    | '*' => s.content? (name .reference)
    | '&' => s.content? (name .anchor)
    | '!' => s.content? fun cs => tag? s.inFlow (cs.drop 1)
    | '\'' => s.content? (quoted .singleQuoted)
    | '"' => s.content? (quoted .doubleQuoted)
    | c =>
      if c = '-' ∧ atGap cs then s.dash?
      else if c = '?' ∧ (s.inFlow ∨ atGap cs) then s.key?
      else if c = ':' ∧ (s.inFlow ∨ atGap cs) then s.value?
      else if c = '|' ∧ !s.inFlow then s.block? true
      else if c = '>' ∧ !s.inFlow then s.block? false
      else if startsPlain s.inFlow c cs then s.plain?
      else none

def finish? (s : Layout) : Option (Array Token) :=
  s.dedentAll.dropCandidate?.map fun s => s.tokens.push .streamEnd

def run? (s : Layout) : Option (Array Token) := do
  let t ← s.skipBlanks.dropStale?
  let t := t.dedent t.place.column
  match t.rest with
  | [] => t.finish?
  | c :: cs =>
    let next ← t.next? c cs
    if next.rest.length < s.rest.length then run? next else none
termination_by s.rest.length

end Layout

def tokens? (text : String) : Option (List Token) :=
  let cs := match text.toList with
    | '\ufeff' :: cs => cs
    | cs => cs
  if cs.all isAllowed then (Layout.start (unifyBreaks cs)).run?.map Array.toList else none

end StubHttp.Yaml
