import StubHttp.Json.Value
import StubHttp.Text.Inspect

/-!
# Reading documents by shape

A reader turns a document into a value of one type or says what is wrong with it, at the first place
where something is. Readers of records, lists and maps are built from readers of their parts.
-/
namespace StubHttp.Json

inductive Found
  | null
  | bool (b : Bool)
  | integer (n : Int)
  | decimal (n : Numeral)
  | text (s : String)
  | list
  | map
  deriving DecidableEq, Repr

def Found.describe : Found → String
  | null => "null"
  | bool b => s!"boolean `{b}`"
  | integer n => s!"integer `{n}`"
  | decimal n => s!"floating point `{n.render}`"
  | text s => "string " ++ Text.inspect s
  | list => "sequence"
  | map => "map"

inductive ReadError
  | malformed (f : Fault)
  | wrongType (found : Found) (expected : String)
  | wrongValue (found : Found) (expected : String)
  | wrongLength (length : Nat) (expected : String)
  | missingField (name : String)
  | duplicateField (name : String)
  | unknownVariant (name : String) (known : List String)
  | noAlternative (type : String)
  /-- A reader's own complaint. -/
  | refused (why : String)
  deriving DecidableEq, Repr

def ReadError.message : ReadError → String
  | malformed f => f.message
  | wrongType found expected => s!"invalid type: {found.describe}, expected {expected}"
  | wrongValue found expected => s!"invalid value: {found.describe}, expected {expected}"
  | wrongLength length expected => s!"invalid length {length}, expected {expected}"
  | missingField name => s!"missing field `{name}`"
  | duplicateField name => s!"duplicate field `{name}`"
  | unknownVariant name known =>
    s!"unknown variant `{name}`, expected one of " ++
      ", ".intercalate (known.map fun k => s!"`{k}`")
  | noAlternative type => s!"data did not match any variant of untagged enum {type}"
  | refused why => why

/-- Whether a document comes from a text or from a value that was read before. -/
inductive Medium
  | text
  | value
  deriving DecidableEq, Repr

/-- The medium, and how many more levels of a text may be entered. -/
structure Scope where
  medium : Medium
  depth : Nat

namespace Scope

def text : Scope := ⟨.text, 128⟩

def value : Scope := ⟨.value, 0⟩

def enter (s : Scope) : Except ReadError Scope :=
  match s.medium with
  | .text =>
    if s.depth ≤ 1 then .error (.malformed .tooDeep) else .ok { s with depth := s.depth - 1 }
  | .value => .ok s

end Scope

abbrev Reader (α : Type) := Scope → Doc → Except ReadError α

def fromFault {α : Type} : Except Fault α → Except ReadError α
  | .ok a => .ok a
  | .error f => .error (.malformed f)

def stopAt : Option Fault → Except ReadError Unit
  | none => .ok ()
  | some f => .error (.malformed f)

def mismatch (expected : String) (d : Doc) : ReadError :=
  match d with
  | .null => .wrongType .null expected
  | .bool b => .wrongType (.bool b) expected
  | .number n =>
    match n with
    | .nat k => .wrongType (.integer k) expected
    | .neg k => .wrongType (.integer (-k)) expected
    | n => if n.float?.isSome then .wrongType (.decimal n) expected else .malformed .numberRange
  | .string (.ok s) => .wrongType (.text s) expected
  | .string (.error f) => .malformed f
  | .array .. => .wrongType .list expected
  | .object .. => .wrongType .map expected
  | .absent => .malformed .endInValue
  | .broken b => .malformed b.read

namespace Reader

variable {α σ : Type}

def textFor (expected : String) : Reader String := fun _ d =>
  match d with
  | .string (.ok s) => .ok s
  | d => .error (mismatch expected d)

def text : Reader String := textFor "a string"

def integer (low high : Int) (name : String) : Reader Int := fun _ d =>
  let check (n : Int) : Except ReadError Int :=
    if low ≤ n ∧ n ≤ high then .ok n else .error (.wrongValue (.integer n) name)
  match d with
  | .number (.nat n) => check n
  | .number (.neg n) => check (-n)
  | d => .error (mismatch name d)

def unit : Reader Unit := fun _ d =>
  match d with
  | .null => .ok ()
  | d => .error (mismatch "unit" d)

def option (r : Reader α) : Reader (Option α) := fun s d =>
  match d with
  | .null => .ok none
  | d => (r s d).map some

def map {β : Type} (f : α → β) (r : Reader α) : Reader β := fun s d => (r s d).map f

def readItems (r : Reader α) (s : Scope) : List Doc → Except ReadError (List α)
  | [] => .ok []
  | d :: ds => do
    let a ← r s d
    return a :: (← readItems r s ds)

def list (r : Reader α) : Reader (List α) := fun s d =>
  match d with
  | .array ds close => do
    let as ← readItems r (← s.enter) ds
    stopAt (close.map Break.read)
    return as
  | d => .error (mismatch "a sequence" d)

def readMembers (r : Reader α) (s : Scope) : List (Key × Doc) → Dict α → Except ReadError (Dict α)
  | [], m => .ok m
  | (k, d) :: ms, m => do
    let name ← fromFault k.text
    stopAt k.colon
    let a ← r s d
    readMembers r s ms (m.insert name a)

def dict (r : Reader α) : Reader (Dict α) := fun s d =>
  match d with
  | .object ms close => do
    let m ← readMembers r (← s.enter) ms {}
    stopAt (close.map Break.read)
    return m
  | d => .error (mismatch "a map" d)

/-- A field of a record: what it does to the record, and whether it must be there. -/
structure Field (σ : Type) where
  name : String
  required : Bool
  read : Reader (σ → σ)

def field (name : String) (required : Bool) (r : Reader α) (set : α → σ → σ) : Field σ :=
  ⟨name, required, r.map set⟩

def readFields (fields : List (Field σ)) (s : Scope) :
    List (Key × Doc) → List String → σ → Except ReadError (σ × List String)
  | [], seen, a => .ok (a, seen)
  | (k, d) :: ms, seen, a => do
    let name ← fromFault k.text
    match fields.find? (·.name == name) with
    | none => do
      stopAt k.colon
      stopAt d.skipFault
      readFields fields s ms seen a
    | some f =>
      if seen.contains name then .error (.duplicateField name)
      else do
        stopAt k.colon
        let set ← f.read s d
        readFields fields s ms (name :: seen) (set a)

def firstMissing (fields : List (Field σ)) (seen : List String) : Option String :=
  (fields.find? fun f => f.required && !seen.contains f.name).map (·.name)

/-- Items in the order of the fields; `count` came before. The items left over are given back. -/
def readPlaces (s : Scope) (expected : String) (close : Option Break) :
    Nat → List (Field σ) → List Doc → σ → Except ReadError (σ × List Doc)
  | _, [], ds, a => .ok (a, ds)
  | count, f :: fs, [], a => do
    stopAt (close.map Break.read)
    if f.required then .error (.wrongLength count expected)
    else readPlaces s expected close count fs [] a
  | count, f :: fs, d :: ds, a => do
    let set ← f.read s d
    readPlaces s expected close (count + 1) fs ds (set a)

def closePlaces (m : Medium) (count : Nat) (left : List Doc) (close : Option Break) :
    Except ReadError Unit :=
  match m, left, close with
  | .value, [], _ => .ok ()
  | .value, _ :: _, _ => .error (.wrongLength count "fewer elements in array")
  | .text, _ :: _, _ => .error (.malformed .trailingText)
  | .text, [], none => .ok ()
  | .text, [], some b =>
    match b.read with
    | .trailingComma => .error (.malformed .trailingComma)
    | .endInList => .error (.malformed .endInList)
    | _ => .error (.malformed .trailingText)

def record (type : String) (fields : List (Field σ)) (blank : σ) : Reader σ := fun s d =>
  match d with
  | .object ms close => do
    let (a, seen) ← readFields fields (← s.enter) ms [] blank
    stopAt (close.map Break.read)
    match firstMissing fields seen with
    | some name => .error (.missingField name)
    | none => .ok a
  | .array ds close => do
    let count := fields.length
    let plural := if count = 1 then "" else "s"
    let expected := s!"struct {type} with {count} element{plural}"
    let (a, left) ← readPlaces (← s.enter) expected close 0 fields ds blank
    closePlaces s.medium ds.length left close
    return a
  | d => .error (mismatch s!"struct {type}" d)

/-- One of several names, alone or as the name of a member that holds nothing. -/
def variant (known : List (String × α)) : Reader α := fun s d =>
  let look (name : String) : Except ReadError α :=
    match known.lookup name with
    | some a => .ok a
    | none => .error (.unknownVariant name (known.map (·.1)))
  match s.medium, d with
  | _, .string t => do look (← fromFault t)
  | .value, .object ms _ =>
    match ms with
    | [(k, d)] => do
      let a ← look (← fromFault k.text)
      unit s d
      return a
    | _ => .error (.wrongValue .map "map with a single key")
  | .value, d => .error (mismatch "string or map" d)
  | .text, .object ms close => do
    let s ← s.enter
    match ms with
    | [] => .error (.malformed (if close.isSome then .endInValue else .expectedValue))
    | (k, d) :: more =>
      if k.stop = some .keyNotText then .error (mismatch "variant identifier" d)
      let a ← look (← fromFault k.text)
      stopAt k.colon
      unit s d
      match more, close with
      | [], none => .ok a
      | [], some b =>
        .error (.malformed (if b.read = .endInObject then .endInObject else .expectedValue))
      | _ :: _, _ => .error (.malformed .expectedValue)
  | .text, .absent => .error (.malformed .endInValue)
  | .text, _ => .error (.malformed .expectedValue)

mutual

def value (s : Scope) : Doc → Except ReadError Value
  | .null => .ok .null
  | .bool b => .ok (.bool b)
  | .number n => if n.float?.isSome then .ok (.number n) else .error (.malformed .numberRange)
  | .string t => do return .string (← fromFault t)
  | .array ds close => do
    let vs ← values (← s.enter) ds
    stopAt (close.map Break.read)
    return .array vs
  | .object ms close => do
    let es ← valueMembers (← s.enter) ms
    stopAt (close.map Break.read)
    return .object (Dict.ofList es).entries
  | .absent => .error (.malformed .endInValue)
  | .broken b => .error (.malformed b.read)

def values (s : Scope) : List Doc → Except ReadError (List Value)
  | [] => .ok []
  | d :: ds => do
    let v ← value s d
    return v :: (← values s ds)

def valueMembers (s : Scope) : List (Key × Doc) → Except ReadError (List (String × Value))
  | [] => .ok []
  | (k, d) :: ms => do
    let name ← fromFault k.text
    stopAt k.colon
    let v ← value s d
    return (name, v) :: (← valueMembers s ms)

end

def parse (r : Reader α) (s : List Utf8.Piece) : Except ReadError α := do
  let p := Doc.parse s
  let a ← r .text p.doc
  if p.more then .error (.malformed .trailingText) else .ok a

def parseText (r : Reader α) (s : String) : Except ReadError α := r.parse (pieces s)

def ofValue (r : Reader α) (v : Value) : Except ReadError α := r .value (Doc.ofValue v)

end Reader

end StubHttp.Json
