/-!
# Sets of characters

A set of code points is a list of ranges in increasing order, none touching the next. The universe
leaves out the surrogates, which are no characters. Tables are written as gap and length codes:
`g.n` skips `g` code points and then takes `n + 1`, in base 36; `.n` may be left out for one code
point, and `*k` repeats a code.
-/
namespace StubHttp.Unicode

structure CharSet where
  ranges : List (Nat × Nat)
  deriving DecidableEq, Repr

namespace CharSet

def mem (s : CharSet) (c : Nat) : Bool := s.ranges.any fun r => r.1 ≤ c && c ≤ r.2

def contains (s : CharSet) (c : Char) : Bool := s.mem c.toNat

def empty : CharSet := ⟨[]⟩

def isEmpty (s : CharSet) : Bool := s.ranges.isEmpty

/-- Puts a range among ranges of which none touches the next, and joins it with those that it touches. -/
def insert (r : Nat × Nat) : List (Nat × Nat) → List (Nat × Nat)
  | [] => [r]
  | q :: qs =>
    if r.2 + 1 < q.1 then r :: q :: qs
    else if q.2 + 1 < r.1 then q :: insert r qs
    else insert (min r.1 q.1, max r.2 q.2) qs

def ofRanges (rs : List (Nat × Nat)) : CharSet :=
  ⟨(rs.filter fun r => r.1 ≤ r.2).foldr insert []⟩

def range (a b : Nat) : CharSet := ofRanges [(a, b)]

def single (c : Char) : CharSet := ⟨[(c.toNat, c.toNat)]⟩

def union (a b : CharSet) : CharSet := ofRanges (a.ranges ++ b.ranges)

def gaps (next : Nat) : List (Nat × Nat) → List (Nat × Nat)
  | [] => [(next, 0x10FFFF)]
  | r :: rs => (next, r.1 - 1) :: gaps (r.2 + 1) rs

def compl (s : CharSet) : CharSet :=
  let taken := (s.union (range 0xD800 0xDFFF)).ranges
  match taken with
  | (0, b) :: rs => ofRanges (gaps (b + 1) rs)
  | rs => ofRanges (gaps 0 rs)

def inter (a b : CharSet) : CharSet := (a.compl.union b.compl).compl

def diff (a b : CharSet) : CharSet := a.inter b.compl

def symmDiff (a b : CharSet) : CharSet := (a.union b).diff (a.inter b)

def all : CharSet := empty.compl

def isAscii (s : CharSet) : Bool := s.ranges.all fun r => r.2 < 0x80

end CharSet

namespace Table

def digit? (c : Char) : Option Nat :=
  if '0' ≤ c ∧ c ≤ '9' then some (c.toNat - 48)
  else if 'a' ≤ c ∧ c ≤ 'z' then some (c.toNat - 87)
  else none

/-- What has been read of a table: the next code point, the ranges so far with the last first, and
the numbers of the code that is being read, the last first. -/
structure State where
  next : Nat
  ranges : List (Nat × Nat)
  numbers : List (Char × Nat)

def State.take (s : State) (gap len : Nat) : State :=
  let a := s.next + gap
  { s with next := a + len + 1, ranges := (a, a + len) :: s.ranges }

def State.flush (s : State) : State :=
  let s' : State := { s with numbers := [] }
  match s.numbers with
  | [(_, gap)] => s'.take gap 0
  | [('.', len), (_, gap)] => s'.take gap len
  | [('*', k), (_, gap)] => k.repeat (·.take gap 0) s'
  | [('*', k), (_, len), (_, gap)] => k.repeat (·.take gap len) s'
  | _ => s'

def State.read (s : State) (c : Char) : State :=
  match digit? c, s.numbers with
  | some d, [] => { s with numbers := [(' ', d)] }
  | some d, (m, n) :: ns => { s with numbers := (m, n * 36 + d) :: ns }
  | none, ns => if c = '.' ∨ c = '*' then { s with numbers := (c, 0) :: ns } else s.flush

def decode (table : String) : CharSet :=
  ⟨(table.toList.foldl State.read ⟨0, [], []⟩).flush.ranges.reverse⟩

end Table

end StubHttp.Unicode
