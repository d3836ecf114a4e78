import StubHttp.Json.Parse
import StubHttp.Text.Dict

/-!
# Values and their text

A value is a whole document. `compact` writes it without blanks, `pretty` with one item a line and
two blanks for each level. `Doc.ofValue` is what a reader sees of a value.
-/
namespace StubHttp.Json

inductive Value
  | null
  | bool (b : Bool)
  | number (n : Numeral)
  | string (s : String)
  | array (items : List Value)
  | object (members : List (String × Value))

namespace Value

instance : Inhabited Value := ⟨.null⟩

def nat (n : Nat) : Value := .number (.nat n)

def int : Int → Value
  | .ofNat n => .number (.nat n)
  | .negSucc n => .number (.neg (n + 1))

def strings (ss : List String) : Value := .array (ss.map .string)

def multimap (m : Multimap) : Value := .object (m.entries.map fun e => (e.1, strings e.2))

mutual

def compact : Value → List Char
  | .null => "null".toList
  | .bool b => (if b then "true" else "false").toList
  | .number n => n.render.toList
  | .string s => Quoted.encode s
  | .array [] => ['[', ']']
  | .array (v :: vs) => '[' :: (compact v ++ compactItems vs)
  | .object [] => ['{', '}']
  | .object ((k, v) :: ms) => '{' :: (Quoted.encode k ++ ':' :: (compact v ++ compactMembers ms))

def compactItems : List Value → List Char
  | [] => [']']
  | v :: vs => ',' :: (compact v ++ compactItems vs)

def compactMembers : List (String × Value) → List Char
  | [] => ['}']
  | (k, v) :: ms => ',' :: (Quoted.encode k ++ ':' :: (compact v ++ compactMembers ms))

end

def newline (n : Nat) : List Char := '\n' :: List.replicate (2 * n) ' '

mutual

def pretty (n : Nat) : Value → List Char
  | .null => "null".toList
  | .bool b => (if b then "true" else "false").toList
  | .number x => x.render.toList
  | .string s => Quoted.encode s
  | .array [] => ['[', ']']
  | .array (v :: vs) => '[' :: (newline (n + 1) ++ pretty (n + 1) v ++ prettyItems n vs)
  | .object [] => ['{', '}']
  | .object ((k, v) :: ms) =>
    '{' :: (newline (n + 1) ++ Quoted.encode k ++ [':', ' '] ++ pretty (n + 1) v ++
      prettyMembers n ms)

def prettyItems (n : Nat) : List Value → List Char
  | [] => newline n ++ [']']
  | v :: vs => ',' :: (newline (n + 1) ++ pretty (n + 1) v ++ prettyItems n vs)

def prettyMembers (n : Nat) : List (String × Value) → List Char
  | [] => newline n ++ ['}']
  | (k, v) :: ms =>
    ',' :: (newline (n + 1) ++ Quoted.encode k ++ [':', ' '] ++ pretty (n + 1) v ++
      prettyMembers n ms)

end

def render (v : Value) : String := String.ofList v.compact

def renderPretty (v : Value) : String := String.ofList (v.pretty 0)

def get? (v : Value) (name : String) : Option Value :=
  match v with
  | .object ms => ms.reverse.lookup name
  | _ => none

end Value

mutual

def Doc.ofValue : Value → Doc
  | .null => .null
  | .bool b => .bool b
  | .number n => .number n
  | .string s => .string (.ok s)
  | .array vs => .array (Doc.ofValues vs) none
  | .object ms => .object (Doc.ofMembers ms) none

def Doc.ofValues : List Value → List Doc
  | [] => []
  | v :: vs => Doc.ofValue v :: Doc.ofValues vs

def Doc.ofMembers : List (String × Value) → List (Key × Doc)
  | [] => []
  | (k, v) :: ms => (⟨.ok k, none, none⟩, Doc.ofValue v) :: Doc.ofMembers ms

end

end StubHttp.Json
