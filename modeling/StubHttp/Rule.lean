import StubHttp.Text.Search

/-!
# Rule lines

A rule line such as `url parameters contain parameter 'page' whose value is '2'` names a field of a
request, an operator and the value required of the field. `Rule.parse` finds the field and the
operator by keyword, in a fixed order and anywhere in the line, and takes the value from behind the
last space. `Rule.line` writes the plain form of a rule.
-/
namespace StubHttp

inductive Field
  | method
  | url
  | body
  | param (key : String)
  | header (key : String)
  deriving DecidableEq, Repr

inductive Operator
  | equals
  | contains
  | endsWith
  | startsWith
  | fits
  deriving DecidableEq, Repr

namespace Operator

def keyword : Operator → String
  | .equals => "is"
  | .contains => "contains"
  | .endsWith => "ends with"
  | .startsWith => "starts with"
  | .fits => "matches"

def all : List Operator := [.equals, .contains, .endsWith, .startsWith, .fits]

def ofKeyword? (s : String) : Option Operator := all.find? (·.keyword == s)

/-- The first operator whose keyword stands in the line, be it inside another word. -/
def detect (line : List Char) : Option Operator :=
  all.find? fun op => Text.occurs op.keyword.toList line

end Operator

inductive Kind
  | method
  | url
  | body
  | param
  | header
  deriving DecidableEq, Repr

namespace Field

def kind : Field → Kind
  | .method => .method
  | .url => .url
  | .body => .body
  | .param _ => .param
  | .header _ => .header

def key? : Field → Option String
  | .param k | .header k => some k
  | _ => none

def name : Field → String
  | .method => "HttpMethod"
  | .url => "Url"
  | .body => "Body"
  | .param _ => "UrlParameter"
  | .header _ => "Header"

def phrase : Field → String
  | .method => "httpMethod"
  | .url => "url"
  | .body => "body"
  | .param k => s!"url parameters contain parameter '{k}' whose value"
  | .header k => s!"headers contain entry '{k}' whose value"

end Field

def Kind.field? : Kind → Option String → Option Field
  | .method, _ => some .method
  | .url, _ => some .url
  | .body, _ => some .body
  | .param, key => key.map .param
  | .header, key => key.map .header

inductive RuleError
  | unknownField (line : String)
  | unknownOperator (line : String)
  | unquotedKey (line : String)
  deriving DecidableEq, Repr

structure Rule where
  text : String
  field : Field
  operator : Operator
  value : String
  deriving DecidableEq, Repr

namespace Rule

def kind (r : Rule) : Kind := r.field.kind
def key? (r : Rule) : Option String := r.field.key?

def unquote (cs : List Char) : List Char :=
  match cs with
  | '\'' :: rest => if rest.getLast? = some '\'' then rest.dropLast else cs
  | _ => cs

/-- The text between the first two quotes of a line that quotes a key and then a value. -/
def quotedKey? (line : List Char) : Option String :=
  match ((Text.split '\'' line).reverse.dropWhile (·.isEmpty)).reverse with
  | [_, key, _, _] => some (String.ofList key)
  | _ => none

/-- Keywords for the url, the body and the method are sought in the whole line, and a line that
starts as one about parameters is not one about the url. -/
def detectField (line : String) : Except RuleError Field :=
  let cs := line.toList
  let starts (s : String) := s.toList.isPrefixOf cs
  let key : Except RuleError String :=
    match quotedKey? cs with
    | some k => .ok k
    | none => .error (.unquotedKey line)
  if Text.occurs "url".toList cs && !starts "url parameters contain" then .ok .url
  else if Text.occurs "body".toList cs then .ok .body
  else if Text.occurs "httpMethod".toList cs then .ok .method
  else if starts "url parameters contain parameter" then key.map .param
  else if starts "headers contain entry" then key.map .header
  else .error (.unknownField line)

def parse (line : String) : Except RuleError Rule := do
  let field ← detectField line
  match Operator.detect line.toList with
  | none => .error (.unknownOperator line)
  | some op => .ok ⟨line, field, op, String.ofList (unquote (Text.afterLast ' ' line.toList))⟩

def line (f : Field) (op : Operator) (value : String) : String :=
  s!"{f.phrase} {op.keyword} '{value}'"

def render (r : Rule) : String :=
  let body := s!"{r.field.name} {r.operator.keyword} '{r.value}'"
  match r.field.key? with
  | none => body
  | some k => s!"{body} (key '{k}')"

end Rule

end StubHttp
