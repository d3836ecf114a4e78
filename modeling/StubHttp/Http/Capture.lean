import StubHttp.Http.Message
import StubHttp.Http.Query
import StubHttp.Request

/-!
# From message to request

A request is captured with its path, the decoded query, all headers and the body, bytes that are no
text replaced. The target may be overridden by the first value of a header.
-/
namespace StubHttp.HttpRequest

/-- The target that a header puts in the place of the request's own. An empty value is none. -/
def override? (r : HttpRequest) (header : String) : Option Target :=
  match (r.header? header).map Utf8.lossy with
  | none => none
  | some v => if v = "" then none else some (Target.ofReference v)

def capture (overrideHeader : String) (r : HttpRequest) (body : List UInt8) : Request :=
  let t := (r.override? overrideHeader).getD r.target
  { method := r.method
    url := t.path
    params := (t.query.map Query.parse).getD {}
    headers := .ofPairs (r.headers.map fun h => (h.1, Utf8.lossy h.2))
    body := Utf8.lossy body }

end StubHttp.HttpRequest
