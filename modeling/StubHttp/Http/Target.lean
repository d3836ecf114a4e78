import StubHttp.Text.Search

/-!
# Request targets

A request names its target by a path and a query, with or without scheme and authority before them.
-/
namespace StubHttp

structure Target where
  path : String
  query : Option String
  deriving DecidableEq

namespace Target

def ofRelative (cs : List Char) : Target :=
  let (path, query) := Text.cut '?' cs
  ⟨String.ofList path, query.map String.ofList⟩

def ofReference (s : String) : Target :=
  let whole := (Text.cut '#' s.toList).1
  match Text.after? "://".toList whole with
  | some rest => ofRelative (rest.dropWhile fun c => c ≠ '/' ∧ c ≠ '?')
  | none => ofRelative whole

/-- The target on a request line: an asterisk, a path, an authority, or an absolute reference, whose
path is a slash if it has none. -/
def ofRequestLine (s : String) : Target :=
  if s = "*" then ⟨"*", none⟩
  else if s.toList.head? = some '/' then ofRelative (Text.cut '#' s.toList).1
  else if Text.occurs "://".toList s.toList then
    let t := ofReference s
    if t.path = "" then { t with path := "/" } else t
  else ⟨"", none⟩

end Target

end StubHttp
