import StubHttp.Json.Reader

/-!
# Responses

What a rule answers. In a document the status may be a number or the digits of one, and the values
of a header a list or a single text.
-/
namespace StubHttp

structure Response where
  status : UInt16
  headers : Multimap
  body : String
  deriving DecidableEq

namespace Response

def default : Response := ⟨200, {}, ""⟩

open Json

def statusOfText? (s : String) : Option UInt16 :=
  let cs := match s.toList with
    | '+' :: cs => cs
    | cs => cs
  if cs.isEmpty ∨ cs.any (fun c => !c.isDigit) then none
  else
    let n : Nat := cs.foldl (fun n c => n * 10 + (c.toNat - 48)) 0
    if n < 0x10000 then some n.toUInt16 else none

def statusReader : Reader UInt16 := fun s d => do
  match ← Reader.value s d with
  | .number (.nat n) =>
    if n < 0x10000 then .ok n.toUInt16 else .error (.refused "invalid status code number")
  | .number _ => .error (.refused "invalid status code number")
  | .string t =>
    match statusOfText? t with
    | some n => .ok n
    | none => .error (.refused s!"invalid status code string: {t}")
  | _ => .error (.refused "statusCode must be a number or string")

def texts? : List Value → Option (List String)
  | [] => some []
  | .string s :: vs => (texts? vs).map (s :: ·)
  | _ => none

def valuesReader : Reader (List String) := fun s d => do
  match ← Reader.value s d with
  | .string t => .ok [t]
  | .array vs =>
    match texts? vs with
    | some ts => .ok ts
    | none => .error (.noAlternative "HeaderValues")
  | _ => .error (.noAlternative "HeaderValues")

def json (r : Response) : Value :=
  .object [("statusCode", .nat r.status.toNat), ("headers", .multimap r.headers),
    ("body", .string r.body)]

def fields : List (Reader.Field Response) := [
  Reader.field "statusCode" false statusReader fun v r => { r with status := v },
  Reader.field "headers" false (.dict valuesReader) fun v r => { r with headers := v },
  Reader.field "body" false .text fun v r => { r with body := v }]

def reader : Reader Response := .record "ResponseDefinition" fields default

end Response

end StubHttp
