import StubHttp.Unicode.Property

/-!
# Texts for inspection

A text is shown between double quotes. Characters that cannot be seen, among them those that combine
with the one before, are shown by their code.
-/
namespace StubHttp.Text

open Unicode (CharSet)

def invisible (_ : Unit) : CharSet :=
  let get (s : Option CharSet) := (s.getD .empty).ranges
  .ofRanges (get (Unicode.Category.find? "c") ++ get (Unicode.Category.find? "z") ++
    get (Unicode.Property.find? "graphemeextend"))

def inspectChar (hidden : CharSet) (c : Char) : List Char :=
  match c with
  | '\x00' => ['\\', '0']
  | '\t' => ['\\', 't']
  | '\n' => ['\\', 'n']
  | '\r' => ['\\', 'r']
  | '"' => ['\\', '"']
  | '\\' => ['\\', '\\']
  | c =>
    if (0x20 ≤ c.toNat && c.toNat < 0x7F) || (0x7F < c.toNat && !hidden.contains c) then [c]
    else ['\\', 'u', '{'] ++ Nat.toDigits 16 c.toNat ++ ['}']

def inspect (s : String) : String :=
  let hidden := if s.toList.all (·.toNat < 0x80) then .empty else invisible ()
  String.ofList ('"' :: s.toList.flatMap (inspectChar hidden) ++ ['"'])

def inspectList (ss : List String) : String :=
  "[" ++ ", ".intercalate (ss.map inspect) ++ "]"

end StubHttp.Text
