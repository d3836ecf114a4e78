import StubHttp.Http.Target
import StubHttp.Text.Utf8

/-!
# Messages

Requests and responses as the routes see them. Names of headers are in lower case; a body that
cannot be read to its end has the reason in its place.
-/
namespace StubHttp

structure HttpRequest where
  method : String
  target : Target
  headers : List (String × List UInt8)
  body : Except String (List UInt8)

structure HttpResponse where
  status : Nat
  headers : List (String × String)
  body : String
  deriving DecidableEq

namespace Header

def isTokenChar (c : Char) : Bool :=
  c.isAlphanum || "!#$%&'*+-.^_`|~".toList.contains c

def isName (s : String) : Bool :=
  !s.toList.isEmpty && s.toList.all isTokenChar && s.toList.length < 0x10000

def isValue (s : String) : Bool :=
  s.toList.all fun c => (32 ≤ c.toNat && c.toNat ≠ 127) || c = '\t'

end Header

def HttpRequest.header? (r : HttpRequest) (name : String) : Option (List UInt8) :=
  if Header.isName name then r.headers.lookup (Text.lowerCase name) else none

end StubHttp
