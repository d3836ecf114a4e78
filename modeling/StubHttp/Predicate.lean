import StubHttp.Matcher
import StubHttp.RuleDocument

/-!
# Predicates

A predicate is a rule document's declaration made ready for matching: a request satisfies it if it
passes the test of every line. Two predicates are the same if they were declared the same, with
priorities below one raised to one.
-/
namespace StubHttp

structure Condition where
  rule : Rule
  field : Field
  matcher : Matcher

def Condition.holds (c : Condition) (r : Request) : Bool := c.matcher.test (c.field.read r)

inductive DeclarationError
  | noLines (requestType : String)
  | noRequestType (lines : List String)
  | line (e : RuleError)
  | keyMissing (line : String)
  | badPattern (pattern report : String)
  deriving DecidableEq, Repr

namespace Condition

variable [Pattern.Engine]

def compile (r : Rule) : Except DeclarationError Condition :=
  match r.kind.field? r.key? with
  | none => .error (.keyMissing r.text)
  | some f =>
    match Matcher.compile r.operator r.value with
    | .error report => .error (.badPattern r.value report)
    | .ok m => .ok ⟨r, f, m⟩

def parse (line : String) : Except DeclarationError Condition :=
  match Rule.parse line with
  | .error e => .error (.line e)
  | .ok r => compile r

end Condition

structure Identity where
  lines : List String
  priority : Nat
  lifetime : Lifetime
  requestType : String
  deriving DecidableEq

inductive Feed
  | length (n : Nat)
  | text (s : String)
  | number (n : Nat)
  | variant (index : Nat)
  deriving DecidableEq

structure Predicate where
  identity : Identity
  conditions : List Condition

namespace Predicate

def lines (p : Predicate) : List String := p.identity.lines
def priority (p : Predicate) : Nat := p.identity.priority
def lifetime (p : Predicate) : Lifetime := p.identity.lifetime
def requestType (p : Predicate) : String := p.identity.requestType

def same (p q : Predicate) : Bool := p.identity = q.identity

def feed (p : Predicate) : List Feed :=
  .length p.lines.length :: p.lines.map .text ++
    [.number p.priority, .variant (Lifetime.all.idxOf p.lifetime), .text p.requestType]

def accepts (p : Predicate) (r : Request) : Bool := p.conditions.all (·.holds r)

def conditionsOf [Pattern.Engine] : List String → Except DeclarationError (List Condition)
  | [] => .ok []
  | l :: ls =>
    match Condition.parse l with
    | .error e => .error e
    | .ok c => (conditionsOf ls).map (c :: ·)

def rank (priority : Int32) : Nat := max priority.toInt.toNat 1

def ofDocument [Pattern.Engine] (d : RuleDocument) : Except DeclarationError Predicate :=
  if d.declaration.lines.isEmpty then .error (.noLines d.declaration.requestType)
  else if d.declaration.requestType.isEmpty then .error (.noRequestType d.declaration.lines)
  else (conditionsOf d.declaration.lines).map fun cs =>
    { identity := ⟨d.declaration.lines, rank d.priority, d.lifetime, d.declaration.requestType⟩
      conditions := cs }

def render (p : Predicate) : String :=
  s!"{p.requestType} (priority {p.priority}, {p.lifetime.name}): " ++
    " and ".intercalate (p.conditions.map (·.rule.render))

end Predicate

end StubHttp
