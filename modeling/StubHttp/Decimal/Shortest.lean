/-!
# Shortest decimals

A binary fraction `mantissa * 2 ^ exponent` stands for every real number that rounds to it. Of the
decimals in that interval with the fewest digits, `shortest` gives the nearest to the fraction.
-/
namespace StubHttp.Decimal

/-- The finite double with these bits, its sign left out: mantissa, exponent, and whether the
doubles below it lie half as far apart as those above. -/
def ofBits (bits : Nat) : Nat × Int × Bool :=
  let fraction : Nat := bits % 0x10000000000000
  let biased : Nat := bits / 0x10000000000000 % 0x800
  if biased = 0 then (fraction, -1074, false)
  else (fraction + 0x10000000000000, (biased : Int) - 1075, fraction = 0 ∧ 1 < biased)

def ratio (n b : Nat) : Int → Nat × Nat
  | .ofNat e => (n * Nat.pow b e, 1)
  | .negSucc e => (n, Nat.pow b (e + 1))

/-- The interval that rounds to a double: its ends and the double itself over one denominator, and
whether the ends belong to it. -/
structure Interval where
  low : Nat
  value : Nat
  high : Nat
  denominator : Nat
  closed : Bool

def interval (mantissa : Nat) (exponent : Int) (narrow : Bool) : Interval :=
  let scaled (n : Nat) : Nat := (ratio n 2 (exponent - 2)).1
  { low := scaled (4 * mantissa - if narrow then 1 else 2)
    value := scaled (4 * mantissa)
    high := scaled (4 * mantissa + 2)
    denominator := (ratio 1 2 (exponent - 2)).2
    closed := mantissa % 2 = 0 }

def Interval.holds (i : Interval) (c : Nat) (e : Int) : Bool :=
  let (n, d) := ratio c 10 e
  let x := n * i.denominator
  if i.closed then i.low * d ≤ x ∧ x ≤ i.high * d else i.low * d < x ∧ x < i.high * d

def Interval.distance (i : Interval) (c : Nat) (e : Int) : Nat :=
  let (n, d) := ratio c 10 e
  let x := n * i.denominator
  let y := i.value * d
  (x - y) + (y - x)

def leading (n d : Nat) : Int :=
  if d ≤ n then ((Nat.toDigits 10 (n / d)).length : Int) - 1
  else
    let j := (Nat.toDigits 10 ((d - 1) / n)).length
    if d ≤ n * Nat.pow 10 (j - 1) then 1 - (j : Int) else -(j : Int)

def Interval.hit? (i : Interval) (e : Int) : Option Nat :=
  let (n, d) := ratio 1 10 e
  let c := i.value * d / (n * i.denominator)
  match i.holds c e, i.holds (c + 1) e with
  | true, false => some c
  | false, true => some (c + 1)
  | true, true =>
    if i.distance c e < i.distance (c + 1) e ∨
      (i.distance c e = i.distance (c + 1) e ∧ c % 2 = 0) then some c else some (c + 1)
  | false, false => none

def Interval.search (i : Interval) : Nat → Int → Nat × Int
  | 0, e => (i.value / i.denominator, e)
  | fuel + 1, e =>
    match i.hit? e with
    | some c => (c, e)
    | none => i.search fuel (e - 1)

def trim : Nat → Nat × Int → Nat × Int
  | 0, r => r
  | fuel + 1, (c, e) => if c % 10 = 0 ∧ c ≠ 0 then trim fuel (c / 10, e + 1) else (c, e)

def shortest (bits : Nat) : Nat × Int :=
  let (m, q, narrow) := ofBits bits
  if m = 0 then (0, 0)
  else
    let i := interval m q narrow
    trim 20 (i.search 18 (leading i.value i.denominator))

/-- How a decimal is written: the range of leading exponents without a power of ten, and the least
count of digits of such a power. -/
structure Layout where
  least : Int
  greatest : Int
  powerDigits : Nat

def Layout.power (l : Layout) (e : Int) : String :=
  let digits := Nat.toDigits 10 e.natAbs
  let zeros := List.replicate (l.powerDigits - digits.length) '0'
  (if e < 0 then "e-" else "e+") ++ String.ofList (zeros ++ digits)

def Layout.write (l : Layout) (c : Nat) (e : Int) : String :=
  let digits := Nat.toDigits 10 c
  let lead := e + (digits.length : Int) - 1
  if l.least ≤ lead ∧ lead ≤ l.greatest then
    if 0 ≤ e then String.ofList (digits ++ List.replicate e.toNat '0') ++ ".0"
    else if 0 ≤ lead then
      String.ofList (digits.take (lead.toNat + 1)) ++ "." ++
        String.ofList (digits.drop (lead.toNat + 1))
    else "0." ++ String.ofList (List.replicate (-lead - 1).toNat '0' ++ digits)
  else
    match digits with
    | [d] => String.ofList [d] ++ l.power lead
    | d :: ds => String.ofList (d :: '.' :: ds) ++ l.power lead
    | [] => ""

def Layout.float (l : Layout) (x : Float) : String :=
  let bits := x.toBits.toNat
  let (c, e) := shortest (bits % 0x8000000000000000)
  (if 0x8000000000000000 ≤ bits then "-" else "") ++ l.write c e

end StubHttp.Decimal
