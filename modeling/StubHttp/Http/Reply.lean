import StubHttp.Http.Message
import StubHttp.Failure

/-!
# Replies

The messages that answer requests: a response of a rule, a document, or an error.
-/
namespace StubHttp.HttpResponse

open Json

def plain (status : Nat) (body : String) : HttpResponse := ⟨status, [], body⟩

/-- A header line of a rule's response for each valid value, none if the name is no header name or
is that of the length, which the server sets. -/
def headerLines (name : String) (values : List String) : List (String × String) :=
  if Text.sameIgnoringCase name "content-length" || !Header.isName name then []
  else (values.filter Header.isValue).map fun v => (Text.lowerCase name, v)

def ofResponse (r : Response) : HttpResponse :=
  let status := r.status.toNat
  { status := if 100 ≤ status ∧ status ≤ 999 then status else 500
    headers := r.headers.entries.flatMap fun e => headerLines e.1 e.2
    body := r.body }

def document (status : Nat) (v : Value) : HttpResponse :=
  ⟨status, [("content-type", "application/json")], v.renderPretty⟩

def error (status : Nat) (message : String) : HttpResponse :=
  document status (.object [("errors",
    .array [.object [("code", .string (toString status)), ("message", .string message)]])])

/-- The answer to a request that could not be served. A request without room is not answered. -/
def ofFailure (e : Failure) : Option HttpResponse :=
  match e with
  | .overflow => none
  | .noMatch _ => some (error 404 e.message)
  | _ => some (error 500 e.message)

def notFound : HttpResponse := error 404 "Not Found"

end StubHttp.HttpResponse
