import StubHttp.Decimal.Shortest

/-!
# Numbers of a document

A number without a fraction and a power of ten that fits in 64 bits is a whole number. Any other is
a decimal, which stands for the double that its digits give.
-/
namespace StubHttp.Json

inductive Numeral
  | nat (n : Nat)
  /-- Minus `n`. -/
  | neg (n : Nat)
  /-- `digits * 10 ^ exponent`, or minus that. -/
  | decimal (negative : Bool) (digits : Nat) (exponent : Int)
  deriving DecidableEq, Repr

namespace Numeral

/-- Adds digits behind `n` as long as it stays below `2 ^ 64`: the number and the count of digits
left out. -/
def absorb (n : Nat) : List Nat → Nat × Nat
  | [] => (n, 0)
  | d :: ds =>
    if n * 10 + d < 0x10000000000000000 then absorb (n * 10 + d) ds else (n, ds.length + 1)

def ofDigits (negative : Bool) (whole : List Nat) : Numeral :=
  let n := whole.foldl (fun n d => n * 10 + d) 0
  if negative then
    if 0 < n ∧ n ≤ 0x8000000000000000 then .neg n
    else .decimal true (absorb 0 whole).1 (absorb 0 whole).2
  else if n < 0x10000000000000000 then .nat n
  else .decimal false (absorb 0 whole).1 (absorb 0 whole).2

def ofParts (negative : Bool) (whole fraction : List Nat) (exponent : Int) : Numeral :=
  let (n, left) := absorb 0 whole
  let (m, beyond) := absorb n fraction
  .decimal negative m (left - (fraction.length - beyond : Nat) + exponent)

def tenTo (e : Nat) : Float := Float.ofScientific 1 false e

def scaleDown : Nat → Float → Nat → Float
  | 0, x, _ => x
  | fuel + 1, x, e => if e ≤ 308 then x / tenTo e else scaleDown fuel (x / tenTo 308) (e - 308)

def float? : Numeral → Option Float
  | .nat n => some n.toUInt64.toFloat
  | .neg n => some (-n.toUInt64.toFloat)
  | .decimal negative digits exponent =>
    let x := digits.toUInt64.toFloat
    let size : Option Float :=
      match exponent with
      | .ofNat e =>
        if e ≤ 308 then
          let y := x * tenTo e
          if y.isInf then none else some y
        else if digits = 0 then some x else none
      | .negSucc e => some (scaleDown 4 x (e + 1))
    size.map fun y => if negative then -y else y

def layout : Decimal.Layout := ⟨-5, 15, 2⟩

def render : Numeral → String
  | .nat n => toString n
  | .neg n => s!"-{n}"
  | n => (n.float?.map layout.float).getD "null"

end Numeral

end StubHttp.Json
