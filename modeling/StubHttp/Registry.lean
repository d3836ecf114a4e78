import StubHttp.Failure

/-!
# Registered rules

The registered predicates stand in the order in which they are tried: those of higher priority
first, and of equal priority the newest first. Beside them the registry holds a response for each. A
predicate registered again keeps its place and takes the new response.
-/
namespace StubHttp

structure Canned where
  response : Response
  millis : Nat
  deriving DecidableEq

def RuleDocument.canned (d : RuleDocument) : Canned := ⟨d.response, d.millis⟩

abbrev Shelf := List (Identity × Canned)

namespace Shelf

def get? (s : Shelf) (i : Identity) : Option Canned := s.lookup i

def replace (s : Shelf) (i : Identity) (c : Canned) : Shelf :=
  s.map fun x => if x.1 = i then (i, c) else x

def erase (s : Shelf) (i : Identity) : Shelf := s.filter (·.1 ≠ i)

end Shelf

structure Registry where
  /-- The predicates in the order in which they are tried. -/
  order : List Predicate
  shelf : Shelf

namespace Registry

def empty : Registry := ⟨[], []⟩

def size (r : Registry) : Nat := r.order.length

def isEmpty (r : Registry) : Bool := r.order.isEmpty

def canned? (r : Registry) (p : Predicate) : Option Canned := r.shelf.get? p.identity

def has (r : Registry) (p : Predicate) : Bool := (r.canned? p).isSome

/-- Puts a predicate before the first whose priority is not higher. -/
def place (p : Predicate) : List Predicate → List Predicate
  | [] => [p]
  | q :: qs => if q.priority ≤ p.priority then p :: q :: qs else q :: place p qs

def register (r : Registry) (p : Predicate) (c : Canned) : Registry :=
  if r.has p then { r with shelf := r.shelf.replace p.identity c }
  else ⟨place p r.order, (p.identity, c) :: r.shelf⟩

def find? (r : Registry) (q : Request) : Option Predicate := r.order.find? (·.accepts q)

def erase (r : Registry) (p : Predicate) : Registry :=
  ⟨r.order.filter fun q => !q.same p, r.shelf.erase p.identity⟩

def spend (r : Registry) (p : Predicate) : Registry :=
  if p.lifetime = .singleUse then r.erase p else r

def consume (r : Registry) (p : Predicate) : Option Canned × Registry := (r.canned? p, r.spend p)

def resolve (r : Registry) (q : Request) : Option (Predicate × Option Canned) × Registry :=
  match r.find? q with
  | none => (none, r)
  | some p =>
    let (c, r') := r.consume p
    (some (p, c), r')

def findOrFail (r : Registry) (q : Request) : Except Failure Predicate :=
  match r.find? q with
  | some p => .ok p
  | none => .error (.noMatch q)

def consumeOrFail (r : Registry) (p : Predicate) : Except Failure Canned × Registry :=
  match r.consume p with
  | (some c, r) => (.ok c, r)
  | (none, r) => (.error (.noResponse p.render), r)

def resolveOrFail (r : Registry) (q : Request) :
    Except Failure (Predicate × Option Canned) × Registry :=
  match r.resolve q with
  | (some x, r) => (.ok x, r)
  | (none, r) => (.error (.noMatch q), r)

def reset (r : Registry) : Registry :=
  let (kept, dropped) := r.order.partition (·.lifetime = .forever)
  ⟨kept, dropped.foldl (fun s p => s.erase p.identity) r.shelf⟩

end Registry

end StubHttp
