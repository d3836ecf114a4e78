import StubHttp.Json.Numeral

/-!
# Documents as far as they can be read

A document may break off: `Doc` keeps all that stands before the break. A reader meets the parts in
their order, so it finds a wrong type before the break or the break, whichever comes first. A value
that nobody wants is skipped; some breaks are told differently by who reads and who skips.
-/
namespace StubHttp.Json

inductive Fault
  | endInList
  | endInObject
  | endInString
  | endInValue
  | expectedColon
  | expectedListEnd
  | expectedObjectEnd
  | expectedIdent
  | expectedValue
  | badEscape
  | badNumber
  | numberRange
  | badText
  | controlCharacter
  | keyNotText
  | loneSurrogate
  | halfPair
  | trailingComma
  | trailingText
  | tooDeep
  deriving DecidableEq, Repr

def Fault.message : Fault → String
  | .endInList => "EOF while parsing a list"
  | .endInObject => "EOF while parsing an object"
  | .endInString => "EOF while parsing a string"
  | .endInValue => "EOF while parsing a value"
  | .expectedColon => "expected `:`"
  | .expectedListEnd => "expected `,` or `]`"
  | .expectedObjectEnd => "expected `,` or `\x7d`"
  | .expectedIdent => "expected ident"
  | .expectedValue => "expected value"
  | .badEscape => "invalid escape"
  | .badNumber => "invalid number"
  | .numberRange => "number out of range"
  | .badText => "invalid unicode code point"
  | .controlCharacter => "control character (\\u0000-\\u001F) found while parsing a string"
  | .keyNotText => "key must be a string"
  | .loneSurrogate => "lone leading surrogate in hex escape"
  | .halfPair => "unexpected end of hex escape"
  | .trailingComma => "trailing comma"
  | .trailingText => "trailing characters"
  | .tooDeep => "recursion limit exceeded"

/-- Where a document breaks off, as told by who reads it and by who skips it. -/
structure Break where
  read : Fault
  skip : Fault
  deriving DecidableEq, Repr

def Break.same (f : Fault) : Break := ⟨f, f⟩

structure Key where
  text : Except Fault String
  stop : Option Fault
  colon : Option Fault

inductive Doc
  | null
  | bool (b : Bool)
  | number (n : Numeral)
  /-- A string that can be skipped, and read unless it holds half a pair or stray bytes. -/
  | string (text : Except Fault String)
  | array (items : List Doc) (close : Option Break)
  /-- If a name is no string, its member holds what stands in its place. -/
  | object (members : List (Key × Doc)) (close : Option Break)
  /-- The text ends where a value should stand. -/
  | absent
  | broken (b : Break)

instance : Inhabited Doc := ⟨.absent⟩

namespace Doc

mutual

def skipFault : Doc → Option Fault
  | .null | .bool _ | .number _ | .string _ => none
  | .array items close => (skipItems items).or (close.map Break.skip)
  | .object members close => (skipMembers members).or (close.map Break.skip)
  | .absent => some .endInValue
  | .broken b => some b.skip

def skipItems : List Doc → Option Fault
  | [] => none
  | d :: ds => (skipFault d).or (skipItems ds)

def skipMembers : List (Key × Doc) → Option Fault
  | [] => none
  | (k, d) :: ms => (k.stop.or k.colon).or ((skipFault d).or (skipMembers ms))

end

end Doc

end StubHttp.Json
