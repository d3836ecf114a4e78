import StubHttp.Predicate

/-!
# Failures

What can go wrong when a rule is registered or a request is served, and how it is told.
-/
namespace StubHttp

inductive Failure
  | unsupportedRule (detail : String)
  | invalidRule (detail : String)
  | noMatch (request : Request)
  /-- No response is held for a predicate that was asked for. -/
  | noResponse (predicate : String)
  | interrupted (millis : Nat)
  /-- There is no room to record requests. This is told to nobody. -/
  | overflow
  | preset (path reason : String)

namespace Failure

def message : Failure → String
  | unsupportedRule detail => s!"Rule [{detail}] is not supported"
  | invalidRule detail => s!"Invalid rule definition: {detail}"
  | noMatch request =>
    "Received an unknown application request. Please ensure that there is a default response " ++
      s!"set up which will match the following request [{request.render}]"
  | noResponse predicate => s!"No response registered for predicate [{predicate}]"
  | interrupted millis => s!"Interrupted while waiting {millis}ms before responding"
  | overflow => "capacity overflow"
  | preset path reason => s!"Failed to load preset response file {path}: {reason}"

def ofRule : RuleError → Failure
  | .unknownField line => .unsupportedRule s!"{line}: unknown rule type"
  | .unknownOperator line => .unsupportedRule s!"{line}: no supported operator keyword"
  | .unquotedKey line =>
    .invalidRule s!"rule [{line}] was invalid: expected a quoted key and value pair"

def ofDeclaration : DeclarationError → Failure
  | .noLines requestType =>
    .invalidRule s!"predicate definition was not supplied for request type [{requestType}]"
  | .noRequestType lines =>
    .invalidRule s!"predicate request type was not supplied for rules {Text.inspectList lines}"
  | .line e => ofRule e
  | .keyMissing line => .invalidRule s!"rule [{line}] requires a key"
  | .badPattern pattern report => .invalidRule s!"invalid regular expression '{pattern}': {report}"

end Failure

def RuleDocument.predicate [Pattern.Engine] (d : RuleDocument) : Except Failure Predicate :=
  match Predicate.ofDocument d with
  | .ok p => .ok p
  | .error e => .error (.ofDeclaration e)

end StubHttp
