import StubHttp.Files
import StubHttp.Http.Message
import StubHttp.Json.Reader
import StubHttp.Server

/-!
# Messages as documents

A request to one of the surfaces and the response to it, each written as one document.
-/
namespace StubHttp

open Json

structure Call where
  surface : Surface
  request : HttpRequest

namespace Call

def blank : Call := ⟨.main, ⟨"GET", ⟨"/", none⟩, [], .ok []⟩⟩

def surfaceReader : Reader Surface := .variant [("main", .main), ("monitoring", .monitoring)]

def headerLines (m : Multimap) : List (String × List UInt8) :=
  m.entries.flatMap fun e => e.2.map fun v => (Text.lowerCase e.1, Utf8.bytes v)

def fields : List (Reader.Field Call) := [
  Reader.field "surface" false surfaceReader fun v c => { c with surface := v },
  Reader.field "method" false .text fun v c => { c with request.method := v },
  Reader.field "uri" false .text fun v c => { c with request.target := .ofRequestLine v },
  Reader.field "headers" false (.dict (.list .text)) fun v c =>
    { c with request.headers := headerLines v },
  Reader.field "body" false .text fun v c => { c with request.body := .ok (Utf8.bytes v) }]

def reader : Reader Call := .record "Call" fields blank

end Call

def HttpResponse.json (r : HttpResponse) : Value :=
  .object [("status", .nat r.status),
    ("headers", .array (r.headers.map fun h => .strings [h.1, h.2])), ("body", .string r.body)]

def Node.reader : Reader Node :=
  (Reader.dict .text).map fun m => .ofPaths (m.entries.map fun e => (e.1, .file (Utf8.bytes e.2)))

end StubHttp
