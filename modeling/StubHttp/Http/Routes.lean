import StubHttp.Http.Capture
import StubHttp.Http.Reply
import StubHttp.Metrics.Exposition
import StubHttp.Stub

/-!
# Routes

The main surface registers rules, resets the stub and gives back recorded requests; all other
requests are served from the rules. The monitoring surface tells health and metrics.
-/
namespace StubHttp

inductive Route
  | preset
  | reset
  | lastRequest
  | traffic
  deriving DecidableEq, Repr

def Route.ofRequest (r : HttpRequest) : Route :=
  match r.method, r.target.path with
  | "POST", "/presetResponse" => .preset
  | "DELETE", "/reset" => .reset
  | "GET", "/applicationRequest" => .lastRequest
  | _, _ => .traffic

namespace Stub

def documentOf (r : HttpRequest) : Except String RuleDocument :=
  match r.body with
  | .error e => .error s!"Failed to read request body: {e}"
  | .ok bytes =>
    match RuleDocument.reader.parse (Utf8.pieces bytes) with
    | .error e => .error s!"Invalid response rule JSON: {e.message}"
    | .ok d => .ok d

def answerPreset (s : Stub) (r : HttpRequest) : HttpResponse × Stub :=
  match documentOf r with
  | .error message => (.error 400 message, s)
  | .ok d =>
    match s.register d with
    | (.ok (), s) => (.plain 200 "", s)
    | (.error e, s) => (.error 400 e.message, s)

def answerLastRequest (s : Stub) (r : HttpRequest) : HttpResponse × Stub :=
  match Query.param? r.target.query "requestType" with
  | none | some "" => (.error 400 "The requestType url parameter is required", s)
  | some type =>
    match s.lastRequest type with
    | (some q, s) => (.document 200 q.json, s)
    | (none, s) =>
      (.document 404 (.object
        [("message", .string s!"[{type}] request was never sent to the emulator")]), s)

def answerTraffic (overrideHeader : String) (s : Stub) (r : HttpRequest) :
    Option HttpResponse × Stub :=
  match r.body with
  | .error _ =>
    (some (.error 400 "There was an error parsing the body of the application request"), s)
  | .ok bytes =>
    match s.serve (r.capture overrideHeader bytes) with
    | (⟨.ok response, _⟩, s) => (some (.ofResponse response), s)
    | (⟨.error e, _⟩, s) => (HttpResponse.ofFailure e, s)

/-- The answer on the main surface. There is none if the request ends its connection. -/
def answer (overrideHeader : String) (s : Stub) (r : HttpRequest) : Option HttpResponse × Stub :=
  match Route.ofRequest r with
  | .preset => (s.answerPreset r).map some id
  | .reset => (some (.plain 200 ""), s.reset)
  | .lastRequest => (s.answerLastRequest r).map some id
  | .traffic => s.answerTraffic overrideHeader r

def wait (overrideHeader : String) (s : Stub) (r : HttpRequest) : Nat :=
  match Route.ofRequest r, r.body with
  | .traffic, .ok bytes => (s.serve (r.capture overrideHeader bytes)).1.elapsed
  | _, _ => 0

def answerMonitoring (s : Stub) (r : HttpRequest) : HttpResponse × Stub :=
  match r.method, r.target.path with
  | "GET", "/health" =>
    (.document 200 (.object [("status", .string "ok"), ("activeRules", .nat s.active)]), s)
  | "GET", "/metrics" =>
    let s := s.gauge
    (⟨200, [("content-type", "text/plain; version=0.0.4")], s.metrics.render⟩, s)
  | _, _ => (.notFound, s)

end Stub

end StubHttp
