import StubHttp.RuleDocument
import StubHttp.Text.Hash
import StubHttp.Text.Utf8

/-!
# Metrics

What a stub counts while it works. A count that has never been made is absent; the gauge of active
rules and the count of resets may also start out as zero.
-/
namespace StubHttp

/-- Times that were waited: their sum, and how many are at most each of the bounds. -/
structure Histogram where
  within : List Nat
  count : Nat
  sum : Nat
  deriving DecidableEq

namespace Histogram

def bounds : List Nat := [10, 50, 100, 250, 500, 1000, 2500, 5000, 10000]

def empty : Histogram := ⟨bounds.map fun _ => 0, 0, 0⟩

def observe (h : Histogram) (millis : Nat) : Histogram :=
  { within := List.zipWith (fun b n => if millis ≤ b then n + 1 else n) bounds h.within
    count := h.count + 1
    sum := h.sum + millis }

end Histogram

structure Series (β : Type) where
  labels : List String
  value : β
  deriving DecidableEq

abbrev Labelled (β : Type) := List (Series β)

namespace Labelled

variable {β : Type}

/-- The hash FNV-1a of the bytes of all values, one after another. -/
def key (labels : List String) : UInt64 :=
  fnv1a ((labels.flatMap Utf8.bytes).map (·.toUInt64))

def get? (l : Labelled β) (labels : List String) : Option β :=
  (l.find? fun s => key s.labels = key labels).map (·.value)

/-- Puts `f` of the value of these labels, if any, in its place. Labels are told apart by their hash
alone, and a series keeps those that it was made for. -/
def alter (labels : List String) (f : Option β → β) : Labelled β → Labelled β
  | [] => [⟨labels, f none⟩]
  | s :: l =>
    if key s.labels = key labels then ⟨s.labels, f (some s.value)⟩ :: l else s :: alter labels f l

def bump (l : Labelled Nat) (labels : List String) : Labelled Nat :=
  l.alter labels fun n => n.getD 0 + 1

end Labelled

structure Metrics where
  /-- By request type and status. -/
  served : Labelled Nat
  /-- By method. -/
  unmatched : Labelled Nat
  /-- By lifetime and result. -/
  registered : Labelled Nat
  active : Option Nat
  /-- By request type. -/
  delays : Labelled Histogram
  /-- By result. -/
  lookups : Labelled Nat
  resets : Option Nat

namespace Metrics

def blank : Metrics := ⟨[], [], [], none, [], [], none⟩

def zero : Metrics := { blank with active := some 0, resets := some 0 }

def servedLabels (type : String) (status : UInt16) : List String := [type, toString status.toNat]

def registeredLabels (lifetime : Lifetime) (accepted : Bool) : List String :=
  [lifetime.name, if accepted then "ok" else "rejected"]

def lookupLabels (found : Bool) : List String := [if found then "found" else "absent"]

def addServed (m : Metrics) (type : String) (status : UInt16) : Metrics :=
  { m with served := m.served.bump (servedLabels type status) }

def addUnmatched (m : Metrics) (method : String) : Metrics :=
  { m with unmatched := m.unmatched.bump [method] }

def addRegistration (m : Metrics) (lifetime : Lifetime) (accepted : Bool) : Metrics :=
  { m with registered := m.registered.bump (registeredLabels lifetime accepted) }

def setActive (m : Metrics) (n : Nat) : Metrics := { m with active := some n }

def addDelay (m : Metrics) (type : String) (millis : Nat) : Metrics :=
  { m with delays := m.delays.alter [type] fun h => (h.getD .empty).observe millis }

def addLookup (m : Metrics) (found : Bool) : Metrics :=
  { m with lookups := m.lookups.bump (lookupLabels found) }

def addReset (m : Metrics) : Metrics := { m with resets := some (m.resets.getD 0 + 1) }

end Metrics

end StubHttp
