import StubHttp.Json.Reader
import StubHttp.Text.Search

/-!
# Requests

A request as it is matched against rules, recorded and shown. `Request.json` and `Request.reader`
are its document form.
-/
namespace StubHttp

structure Request where
  method : String
  url : String
  params : Multimap
  headers : Multimap
  body : String
  deriving DecidableEq

namespace Request

def blank : Request := ⟨"", "", {}, {}, ""⟩

def addHeader (r : Request) (name value : String) : Request :=
  { r with headers := r.headers.add name value }

def addParam (r : Request) (name value : String) : Request :=
  { r with params := r.params.add name value }

def param? (r : Request) (name : String) : Option String :=
  (r.params.get? name).bind List.head?

/-- The values of a header: those under this very name, else those under the first name that differs
from it in case only. -/
def headerValues? (r : Request) (name : String) : Option (List String) :=
  (r.headers.get? name).or
    ((r.headers.entries.find? fun e => Text.sameIgnoringCase e.1 name).map (·.2))

def header? (r : Request) (name : String) : Option String :=
  (r.headerValues? name).bind List.head?

open Json

def json (r : Request) : Value :=
  .object [("httpMethod", .string r.method), ("url", .string r.url),
    ("urlParameters", .multimap r.params), ("headers", .multimap r.headers),
    ("body", .string r.body)]

def fields : List (Reader.Field Request) := [
  Reader.field "httpMethod" true .text fun v r => { r with method := v },
  Reader.field "url" true .text fun v r => { r with url := v },
  Reader.field "urlParameters" false (.dict (.list .text)) fun v r => { r with params := v },
  Reader.field "headers" false (.dict (.list .text)) fun v r => { r with headers := v },
  Reader.field "body" false .text fun v r => { r with body := v }]

def reader : Reader Request := .record "RequestSnapshot" fields blank

def render (r : Request) : String := r.json.render

end Request

end StubHttp
