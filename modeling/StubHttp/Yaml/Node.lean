import StubHttp.Yaml.Layout

/-!
# Nodes

The document that a text holds: scalars, lists and maps, each with its anchor and tag, and
references to anchored nodes. A text may hold one document at most.
-/
namespace StubHttp.Yaml

structure Properties where
  anchor : Option Nat
  tag : Option (List UInt8)
  deriving DecidableEq, Repr

def Properties.none : Properties := ⟨.none, .none⟩

inductive Node
  | scalar (properties : Properties) (style : Style) (text : String)
  | list (properties : Properties) (items : List Node)
  | map (properties : Properties) (entries : List (Node × Node))
  | reference (anchor : Nat)

namespace Node

def empty : Node := .scalar .none .plain ""

def properties : Node → Properties
  | scalar p _ _ => p
  | list p _ => p
  | map p _ => p
  | reference _ => .none

mutual

/-- The last of the nodes with an anchor, in the order of their beginnings. -/
def anchored? (n : Nat) : Node → Option Node
  | scalar p style text => if p.anchor = some n then some (scalar p style text) else Option.none
  | list p items =>
    (anchoredItem? n items).or (if p.anchor = some n then some (list p items) else Option.none)
  | map p entries =>
    (anchoredPair? n entries).or (if p.anchor = some n then some (map p entries) else Option.none)
  | reference _ => Option.none

def anchoredItem? (n : Nat) : List Node → Option Node
  | [] => Option.none
  | x :: xs => (anchoredItem? n xs).or (anchored? n x)

def anchoredPair? (n : Nat) : List (Node × Node) → Option Node
  | [] => Option.none
  | (k, v) :: es => ((anchoredPair? n es).or (anchored? n v)).or (anchored? n k)

end

end Node

structure Source where
  tokens : List Token
  anchors : List (String × Nat)
  handles : List (String × List UInt8)

abbrev Parse := StateT Source Option

namespace Parse

def peek : Parse Token := fun s => some (s.tokens.headD .streamEnd, s)

def skip : Parse Unit := fun s => some ((), { s with tokens := s.tokens.drop 1 })

/-- Numbers an anchor by the names that came before it. A name that comes again has a new number. -/
def number (name : String) : Parse Nat := fun s =>
  some (s.anchors.length,
    { s with anchors := (name, s.anchors.length) :: s.anchors.filter (·.1 ≠ name) })

def referTo (name : String) : Parse Node := fun s =>
  (s.anchors.lookup name).map fun n => (.reference n, s)

def expand (handle : String) (suffix : List UInt8) : Parse (List UInt8) := fun s =>
  if handle = "" then some (suffix.takeWhile (· ≠ 0), s)
  else (s.handles.lookup handle).map fun stem =>
    (stem.takeWhile (· ≠ 0) ++ suffix.takeWhile (· ≠ 0), s)

def anchor? : Parse (Option Nat) := do
  match ← peek with
  | .anchor name => skip; return some (← number name)
  | _ => return none

def tag? : Parse (Option (List UInt8)) := do
  match ← peek with
  | .tag handle suffix => skip; return some (← expand handle suffix)
  | _ => return none

def properties : Parse Properties := do
  match ← anchor? with
  | some n => return ⟨some n, ← tag?⟩
  | none =>
    let tag ← tag?
    return ⟨← if tag.isSome then anchor? else pure none, tag⟩

def bare (p : Properties) : Parse Node :=
  if p = .none then failure else return .scalar p .plain ""

def scalarProperties (p : Properties) : Properties :=
  if p.tag = some (Utf8.bytes "!") then { p with tag := none } else p

mutual

def node : Nat → Bool → Bool → Parse Node
  | 0, _, _ => failure
  | n + 1, block, flush => do
    match ← peek with
    | .reference name => skip; referTo name
    | _ =>
      let p ← properties
      match ← peek with
      | .scalar style text => skip; return .scalar (scalarProperties p) style text
      | .listStart => skip; return .list p (← flowItems n true)
      | .mapStart => skip; return .map p (← flowEntries n true)
      | .blockList => if block then skip; return .list p (← blockItems n) else bare p
      | .blockMap => if block then skip; return .map p (← blockEntries n) else bare p
      | .dash => if flush then return .list p (← flushItems n) else bare p
      | _ => bare p

def nodeUnless : Nat → List Token → Bool → Bool → Parse Node
  | 0, _, _, _ => failure
  | n + 1, ends, block, flush => do
    if ends.contains (← peek) then return .empty else node n block flush

def valueUnless : Nat → List Token → Bool → Bool → Parse Node
  | 0, _, _, _ => failure
  | n + 1, ends, block, flush => do
    match ← peek with
    | .value => skip; nodeUnless n ends block flush
    | _ => return .empty

def blockItems : Nat → Parse (List Node)
  | 0 => failure
  | n + 1 => do
    match ← peek with
    | .dash =>
      skip
      let x ← nodeUnless n [.dash, .blockEnd] true false
      return x :: (← blockItems n)
    | .blockEnd => skip; return []
    | _ => failure

def flushItems : Nat → Parse (List Node)
  | 0 => failure
  | n + 1 => do
    match ← peek with
    | .dash =>
      skip
      let x ← nodeUnless n [.dash, .key, .value, .blockEnd] true false
      return x :: (← flushItems n)
    | _ => return []

def blockEntries : Nat → Parse (List (Node × Node))
  | 0 => failure
  | n + 1 => do
    match ← peek with
    | .key =>
      skip
      let k ← nodeUnless n [.key, .value, .blockEnd] true true
      let v ← valueUnless n [.key, .value, .blockEnd] true true
      return (k, v) :: (← blockEntries n)
    | .blockEnd => skip; return []
    | _ => failure

def flowItems : Nat → Bool → Parse (List Node)
  | 0, _ => failure
  | n + 1, first => do
    match ← peek with
    | .listEnd => skip; return []
    | t =>
      if !first then
        if t = .comma then skip else failure
      match ← peek with
      | .listEnd => skip; return []
      | .key =>
        skip
        let x ← flowPair n
        return x :: (← flowItems n false)
      | _ =>
        let x ← node n false false
        return x :: (← flowItems n false)

/-- An item that is a map of one entry. Where its key should be, punctuation is passed over. -/
def flowPair : Nat → Parse Node
  | 0 => failure
  | n + 1 => do
    let t ← peek
    let k ← if [Token.value, .comma, .listEnd].contains t then do skip; pure .empty
      else node n false false
    let v ← valueUnless n [.comma, .listEnd] false false
    return .map .none [(k, v)]

def flowEntries : Nat → Bool → Parse (List (Node × Node))
  | 0, _ => failure
  | n + 1, first => do
    match ← peek with
    | .mapEnd => skip; return []
    | t =>
      if !first then
        if t = .comma then skip else failure
      match ← peek with
      | .mapEnd => skip; return []
      | .key =>
        skip
        let k ← nodeUnless n [.value, .comma, .mapEnd] false false
        let v ← valueUnless n [.comma, .mapEnd] false false
        return (k, v) :: (← flowEntries n false)
      | _ =>
        let k ← node n false false
        return (k, .empty) :: (← flowEntries n false)

end

def knownHandles : List (String × List UInt8) :=
  [("!", Utf8.bytes "!"), ("!!", Utf8.bytes "tag:yaml.org,2002:")]

def directives (n : Nat) (versioned : Bool) (handles : List (String × List UInt8)) :
    Parse Unit := do
  match n with
  | 0 => failure
  | n + 1 =>
    match ← peek with
    | .version major minor =>
      skip
      if versioned ∨ major ≠ 1 ∨ (minor ≠ 1 ∧ minor ≠ 2) then failure
      directives n true handles
    | .handle name stem =>
      skip
      if handles.any (·.1 = name) then failure
      directives n versioned (handles ++ [(name, stem)])
    | _ => modify fun s => { s with handles := handles ++ knownHandles }

def opensDocument : Token → Bool
  | .version .. | .handle .. | .documentStart => true
  | _ => false

def endsDocument (t : Token) : Bool := opensDocument t || t = .documentEnd || t = .streamEnd

def skipDocumentEnds : Nat → Parse Unit
  | 0 => failure
  | n + 1 => do
    match ← peek with
    | .documentEnd => skip; skipDocumentEnds n
    | _ => return ()

def markedRoot (n : Nat) : Parse Node := do
  if (← peek) ≠ .documentStart then failure
  skip
  if endsDocument (← peek) then return .empty else node n true false

def document (n : Nat) : Parse (Option Node) := do
  let t ← peek
  if t = .streamEnd then return none
  directives n false []
  let root ← if opensDocument t then markedRoot n else node n true false
  skipDocumentEnds n
  if (← peek) ≠ .streamEnd then failure
  return some root

end Parse

def parse? (text : String) : Option Node := do
  let tokens ← tokens? text
  let n := 4 * tokens.length + 4
  let (root, _) ← (Parse.document n).run ⟨tokens, [], []⟩
  return root.getD .empty

end StubHttp.Yaml
