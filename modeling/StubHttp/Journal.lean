import StubHttp.Request

/-!
# Recorded requests

The journal keeps the latest requests of each type, at most `capacity` of them. The latest is taken
first. The room for all requests of a type is taken up when the first of them is recorded, and nothing is
recorded if there is no such room.
-/
namespace StubHttp

structure Journal where
  capacity : Nat
  /-- The requests of each type, the latest first. -/
  recorded : Dict (List Request)

namespace Journal

def ofCapacity (n : Nat) : Journal := ⟨max n 1, {}⟩

/-- For how many requests there can be room at once: an allocation has less than 2⁶³ bytes, and a request
takes up 120. -/
def maxCapacity : Nat := (Nat.pow 2 63 - 1) / 120

def held (j : Journal) (type : String) : List Request := (j.recorded.get? type).getD []

def count (j : Journal) (type : String) : Nat := (j.held type).length

def hasRoom (j : Journal) (type : String) : Bool :=
  (j.recorded.get? type).isSome || j.capacity ≤ maxCapacity

def push (j : Journal) (type : String) (q : Request) : Journal :=
  { j with recorded := j.recorded.alter type fun qs => (q :: qs.getD []).take j.capacity }

def record (j : Journal) (type : String) (q : Request) : Option Journal :=
  if j.hasRoom type then some (j.push type q) else none

def takeLast (j : Journal) (type : String) : Option Request × Journal :=
  match j.held type with
  | [] => (none, j)
  | q :: qs => (some q, { j with recorded := j.recorded.insert type qs })

def clear (j : Journal) : Journal := { j with recorded := {} }

end Journal

end StubHttp
