import StubHttp.Yaml.Node

/-!
# Reading nodes by shape

A reader makes a value of a node, which it may find by a reference in its document. Readers of maps
with known keys are built from readers of their values.
-/
namespace StubHttp.Yaml

abbrev Reader (α : Type) := Node → Node → Option α

namespace Reader

variable {α β σ : Type}

def target? (document : Node) : Node → Option Node
  | .reference n => document.anchored? n
  | node => some node

def map (f : α → β) (r : Reader α) : Reader β := fun document node => (r document node).map f

def text : Reader String := fun document node => do
  match ← target? document node with
  | .scalar _ _ s => some s
  | _ => none

def isNull (s : String) : Bool := ["~", "null", "Null", "NULL"].contains s

/-- A null or nothing at all, unless it is quoted or has a tag of another type. -/
def option (r : Reader α) : Reader (Option α) := fun document node => do
  let node ← target? document node
  match node with
  | .scalar p .plain s =>
    match p.tag with
    | some tag =>
      if tag = Utf8.bytes "tag:yaml.org,2002:null" then if isNull s then some none else none
      else (r document node).map some
    | none => if s = "" ∨ isNull s then some none else (r document node).map some
  | _ => (r document node).map some

def digits? (radix : Nat) (cs : List Char) : Option Nat :=
  let step (n : Option Nat) (c : Char) : Option Nat := do
    let d ← (hexValue? c).filter (· < radix)
    return (← n) * radix + d
  if cs.isEmpty then none else cs.foldl step (some 0)

/-- The whole number in tens without leading zeros, or in another base that the first two characters
tell. -/
def unsigned? : List Char → Option Nat
  | '0' :: 'x' :: cs => digits? 16 cs
  | '0' :: 'o' :: cs => digits? 8 cs
  | '0' :: 'b' :: cs => digits? 2 cs
  | '0' :: _ :: _ => none
  | cs => digits? 10 cs

def natural? (s : String) : Option Nat :=
  match s.toList with
  | '+' :: cs => unsigned? cs
  | cs => unsigned? cs

def mayBeNumber (p : Properties) (style : Style) : Bool :=
  style = .plain || (style = .literal && p.tag = some (Utf8.bytes "tag:yaml.org,2002:int"))

def natural (limit : Nat) : Reader Nat := fun document node => do
  match ← target? document node with
  | .scalar p style s =>
    if mayBeNumber p style then (natural? s).filter (· < limit) else none
  | _ => none

structure Field (σ : Type) where
  name : String
  read : Reader (σ → σ)

def field (name : String) (r : Reader α) (set : α → σ → σ) : Field σ := ⟨name, r.map set⟩

/-- Each known key may come once; others are passed over. -/
def entries (fields : List (Field σ)) (document : Node) :
    List (Node × Node) → List String → σ → Option σ
  | [], _, a => some a
  | (k, v) :: es, seen, a => do
    let name ← text document k
    match fields.find? (·.name == name) with
    | none => entries fields document es seen a
    | some f =>
      if seen.contains name then none
      else
        let set ← f.read document v
        entries fields document es (name :: seen) (set a)

def record (fields : List (Field σ)) (blank : σ) : Reader σ := fun document node => do
  match ← target? document node with
  | .map _ es => entries fields document es [] blank
  | .scalar _ .plain "" => some blank
  | _ => none

def parse (r : Reader α) (text : String) : Option α := do
  let document ← parse? text
  r document document

end Reader

end StubHttp.Yaml
