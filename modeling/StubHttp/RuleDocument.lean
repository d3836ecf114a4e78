import StubHttp.Response

/-!
# Rule documents

The document that registers a rule: the lines that a request must satisfy, the type of the requests
that do, how the rule ranks and how long it lives, and the response with its delay. All of it may be
left out.
-/
namespace StubHttp

/-- How long a rule stays registered: for one request, until the next reset, or beyond resets. -/
inductive Lifetime
  | singleUse
  | untilReset
  | forever
  deriving DecidableEq, Repr

namespace Lifetime

def name : Lifetime → String
  | singleUse => "SINGLE_USE"
  | untilReset => "UNTIL_RESET"
  | forever => "FOREVER"

def all : List Lifetime := [singleUse, untilReset, forever]

def reader : Json.Reader Lifetime := .variant (all.map fun l => (l.name, l))

end Lifetime

structure Declaration where
  requestType : String
  lines : List String
  deriving DecidableEq

namespace Declaration

open Json

def json (d : Declaration) : Value :=
  .object [("requestType", .string d.requestType), ("rules", .strings d.lines)]

def fields : List (Reader.Field Declaration) := [
  Reader.field "requestType" false .text fun v d => { d with requestType := v },
  Reader.field "rules" false (.list .text) fun v d => { d with lines := v }]

def reader : Reader Declaration := .record "PredicateDefinition" fields ⟨"", []⟩

end Declaration

structure Delay where
  millis : UInt64
  deriving DecidableEq

namespace Delay

open Json

def json (d : Delay) : Value := .object [("delayTimeInMillis", .nat d.millis.toNat)]

/-- Negative times count as none. -/
def millisReader : Reader UInt64 :=
  (Reader.integer (-0x8000000000000000) 0x7fffffffffffffff "i64").map fun n => n.toNat.toUInt64

def fields : List (Reader.Field Delay) := [
  Reader.field "delayTimeInMillis" false millisReader fun v _ => ⟨v⟩]

def reader : Reader Delay := .record "Delay" fields ⟨0⟩

end Delay

structure RuleDocument where
  declaration : Declaration
  priority : Int32
  lifetime : Lifetime
  delay : Option Delay
  response : Response
  deriving DecidableEq

namespace RuleDocument

def blank : RuleDocument := ⟨⟨"", []⟩, 0, .forever, none, .default⟩

def millis (d : RuleDocument) : Nat := (d.delay.map (·.millis.toNat)).getD 0

open Json

def json (d : RuleDocument) : Value :=
  .object ([("predicate", d.declaration.json), ("priority", .int d.priority.toInt),
    ("timeToLive", .string d.lifetime.name)] ++
    (d.delay.map fun x => ("delay", x.json)).toList ++ [("response", d.response.json)])

def fields : List (Reader.Field RuleDocument) := [
  Reader.field "predicate" false Declaration.reader fun v d => { d with declaration := v },
  Reader.field "priority" false (Reader.integer (-0x80000000) 0x7fffffff "i32") fun v d =>
    { d with priority := .ofInt v },
  Reader.field "timeToLive" false Lifetime.reader fun v d => { d with lifetime := v },
  Reader.field "delay" false (.option Delay.reader) fun v d => { d with delay := v },
  Reader.field "response" false Response.reader fun v d => { d with response := v }]

def reader : Reader RuleDocument := .record "ResponseRule" fields blank

end RuleDocument

end StubHttp
