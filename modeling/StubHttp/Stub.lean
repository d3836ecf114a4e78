import StubHttp.Registry
import StubHttp.Journal
import StubHttp.Metrics
import StubHttp.Signal

/-!
# The stub

A stub answers requests from its registered rules. A request is matched, recorded and counted before
its response waits for its delay; a shutdown ends every wait that is still going on, and a wait that
would start later is not begun.
-/
namespace StubHttp

structure Stub where
  registry : Registry
  journal : Journal
  metrics : Metrics
  signal : Signal

structure Pending where
  type : String
  canned : Canned

structure Served where
  result : Except Failure Response
  elapsed : Nat

/-- A request that has been served up to its delay, which it waits for under the number of a
subscriber of the stop signal. -/
inductive Slot
  | done (s : Served)
  | waiting (p : Pending) (subscriber : Nat)

namespace Stub

def new (capacity : Nat) (metrics : Metrics) : Stub :=
  ⟨.empty, .ofCapacity capacity, metrics, .low⟩

def active (s : Stub) : Nat := s.registry.size

def stopping (s : Stub) : Bool := s.signal.raised

def gauge (s : Stub) : Stub := { s with metrics := s.metrics.setActive s.active }

def register (s : Stub) (d : RuleDocument) : Except Failure Unit × Stub :=
  match d.predicate with
  | .error e => (.error e, { s with metrics := s.metrics.addRegistration d.lifetime false })
  | .ok p =>
    let s' : Stub := { s with
      registry := s.registry.register p d.canned
      metrics := s.metrics.addRegistration d.lifetime true }
    (.ok (), s'.gauge)

/-- The first of the two steps of matching: a rule is chosen, and spent if it is for one use. -/
def resolve (s : Stub) (q : Request) : Option (Predicate × Option Canned) × Stub :=
  let (found, r) := s.registry.resolve q
  (found, { s with registry := r })

/-- The second step: the request is recorded under the type of the rule, if there is room for it. -/
def record (s : Stub) (p : Predicate) (q : Request) : Option Stub :=
  (s.journal.record p.requestType q).map fun j => gauge { s with journal := j }

def accept (s : Stub) (q : Request) : Except Failure Pending × Stub :=
  match s.resolve q with
  | (none, s) => (.error (.noMatch q), { s with metrics := s.metrics.addUnmatched q.method })
  | (some (p, c), s) =>
    match s.record p q, c with
    | none, _ => (.error .overflow, s)
    | some s, none => (.error (.noResponse p.render), s)
    | some s, some c => (.ok ⟨p.requestType, c⟩, s)

def finish (s : Stub) (p : Pending) : Stub :=
  let m := if p.canned.millis = 0 then s.metrics else s.metrics.addDelay p.type p.canned.millis
  { s with metrics := m.addServed p.type p.canned.response.status }

def start (s : Stub) (q : Request) : Slot × Stub :=
  match s.accept q with
  | (.error e, s) => (.done ⟨.error e, 0⟩, s)
  | (.ok p, s) =>
    if p.canned.millis = 0 then (.done ⟨.ok p.canned.response, 0⟩, s.finish p)
    else
      let (subscriber, signal) := s.signal.await
      let s := { s with signal := signal }
      match subscriber with
      | none => (.done ⟨.error (.interrupted p.canned.millis), 0⟩, s)
      | some n => (.waiting p n, s)

/-- Lets time go on. If the stop signal is told, it is told `stop` milliseconds after the start. -/
def settle (stop : Nat) (s : Stub) : Slot → Served × Stub
  | .done r => (r, s)
  | .waiting p n =>
    if s.signal.isTold n ∧ stop < p.canned.millis then
      (⟨.error (.interrupted p.canned.millis), stop⟩, s)
    else (⟨.ok p.canned.response, p.canned.millis⟩, s.finish p)

def startAll (s : Stub) : List Request → List Slot × Stub
  | [] => ([], s)
  | q :: qs =>
    let (x, s) := s.start q
    let (xs, s) := s.startAll qs
    (x :: xs, s)

def settleAll (stop : Nat) (s : Stub) : List Slot → List Served × Stub
  | [] => ([], s)
  | x :: xs =>
    let (r, s) := s.settle stop x
    let (rs, s) := s.settleAll stop xs
    (r :: rs, s)

def shutdown (s : Stub) : Stub := { s with signal := s.signal.send }

/-- Serves requests at the same time, started in order, with a shutdown after `stop` milliseconds if
there is one. -/
def serveAll (s : Stub) (qs : List Request) (stop : Option Nat) : List Served × Stub :=
  let (xs, s) := s.startAll qs
  match stop with
  | none => s.settleAll 0 xs
  | some t => s.shutdown.settleAll t xs

def serve (s : Stub) (q : Request) : Served × Stub :=
  let (x, s) := s.start q
  s.settle 0 x

/-- The first of the two steps of a reset: only rules that live forever stay. -/
def dropRules (s : Stub) : Stub := { s with registry := s.registry.reset }

/-- The second step: no request stays recorded. -/
def forget (s : Stub) : Stub := { s with journal := s.journal.clear }

def reset (s : Stub) : Stub :=
  let s := s.dropRules.forget
  gauge { s with metrics := s.metrics.addReset }

def lastRequest (s : Stub) (type : String) : Option Request × Stub :=
  let (q, j) := s.journal.takeLast type
  (q, { s with journal := j, metrics := s.metrics.addLookup q.isSome })

end Stub

end StubHttp
