import StubHttp.Pattern.Meaning
import StubHttp.Rule
import StubHttp.Request

/-!
# Matchers

A matcher is the test that an operator and a required value put to the value of a field. A field
that is absent passes no test. Letters are compared with their case. Patterns are compiled by an engine,
which may be any.
-/
namespace StubHttp

/-- What a pattern is compiled to, which says of a value whether the pattern matches somewhere in it, or
the report why it is none. -/
class Pattern.Engine where
  compile : String → Except String (String → Bool)

instance : Pattern.Engine where
  compile p :=
    match Pattern.Regex.parse p with
    | .error _ => .error "<regex error>"
    | .ok r => .ok fun value => r.found value.toList

/-- The pattern that a whole value has to match, written out around the required one. -/
def Pattern.whole (required : String) : String := s!"^(?:{required})$"

inductive Matcher
  | equals (required : String)
  | contains (required : String)
  | startsWith (required : String)
  | endsWith (required : String)
  | fits (found : String → Bool)

namespace Matcher

def compile [Pattern.Engine] (op : Operator) (required : String) : Except String Matcher :=
  match op with
  | .equals => .ok (.equals required)
  | .contains => .ok (.contains required)
  | .startsWith => .ok (.startsWith required)
  | .endsWith => .ok (.endsWith required)
  | .fits => (Pattern.Engine.compile (Pattern.whole required)).map .fits

def accepts (m : Matcher) (value : String) : Bool :=
  match m with
  | equals r => value == r
  | contains r => Text.occurs r.toList value.toList
  | startsWith r => r.toList.isPrefixOf value.toList
  | endsWith r => r.toList.isSuffixOf value.toList
  | fits found => found value

def test (m : Matcher) (value : Option String) : Bool := value.any m.accepts

end Matcher

def Field.read (f : Field) (r : Request) : Option String :=
  match f with
  | method => some r.method
  | url => some r.url
  | body => some r.body
  | param k => r.param? k
  | header k => r.header? k

end StubHttp
