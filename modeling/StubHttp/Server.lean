import StubHttp.Http.Routes
import StubHttp.Net.Address

/-!
# Servers

A server holds two listeners around one stub, one for each surface. It takes connections while it
runs, and a shutdown ends the run of both listeners for good.
-/
namespace StubHttp

inductive Surface
  | main
  | monitoring
  deriving DecidableEq, Repr

/-- The network of a server: the endpoints where others listen, and whether connections of clients
get through it. -/
structure Network where
  taken : List Endpoint
  carries : Bool

inductive BindError
  | inUse
  deriving DecidableEq, Repr

def BindError.message : BindError → String
  | inUse => "Address already in use (os error 98)"

def Network.bind (n : Network) (e : Endpoint) : Except BindError Unit :=
  if n.taken.any e.clashes then .error .inUse else .ok ()

/-- The listeners are bound, take connections until a subscriber of the stop signal is told, or are
gone. -/
inductive Phase
  | bound
  | running (subscriber : Nat)
  | ended
  deriving DecidableEq, Repr

structure Server where
  stub : Stub
  overrideHeader : String
  phase : Phase

namespace Server

def new (stub : Stub) (overrideHeader : String) : Server := ⟨stub, overrideHeader, .bound⟩

def isRunning (s : Server) : Bool := s.phase matches .running _

def hasEnded (s : Server) : Bool := s.phase = .ended

def run (s : Server) : Server :=
  let (subscriber, signal) := s.stub.signal.await
  { s with
    stub := { s.stub with signal := signal }
    phase := (subscriber.map .running).getD .ended }

def heed (s : Server) : Server :=
  match s.phase with
  | .running n => if s.stub.signal.isTold n then { s with phase := .ended } else s
  | _ => s

def shutdown (s : Server) : Server := heed { s with stub := s.stub.shutdown }

def bindAgain (s : Server) : Except BindError Unit :=
  if s.hasEnded then .ok () else .error .inUse

def answer (s : Server) (surface : Surface) (r : HttpRequest) : Option HttpResponse × Server :=
  let (response, stub) := match surface with
    | .main => s.stub.answer s.overrideHeader r
    | .monitoring => (s.stub.answerMonitoring r).map some id
  (response, { s with stub := stub })

def request (n : Network) (s : Server) (surface : Surface) (r : HttpRequest) :
    Option HttpResponse × Server :=
  if n.carries ∧ s.isRunning then s.answer surface r else (none, s)

end Server

end StubHttp
