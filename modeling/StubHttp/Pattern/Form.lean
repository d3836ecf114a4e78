import StubHttp.Pattern.Regex

/-!
# Forms of regular expressions

Before it is compiled a regular expression is brought into a form: empty parts of a sequence are left out
and characters that stand in a row are one literal, no sequence stands in a sequence and no choice in a
choice, a choice of single characters or of sets is one set, and sequences that start alike share their
start.
-/
namespace StubHttp.Pattern

open Unicode (CharSet)

/-- What is compiled. Of a repetition it is known whether what it repeats takes a character each time. -/
inductive Form
  | empty
  | literal (s : List Char)
  | set (s : CharSet)
  | look (l : Look)
  | captured (a : Form)
  | repeated (min : Nat) (max : Option Nat) (isLazy advances : Bool) (a : Form)
  | seq (as : List Form)
  | alt (as : List Form)

namespace Form

mutual

/-- Two groups that capture are never the same, for they have different numbers. -/
def same : Form → Form → Bool
  | empty, empty => true
  | literal s, literal t => s == t
  | set s, set t => s == t
  | look l, look m => l == m
  | repeated min max isLazy _ a, repeated min' max' isLazy' _ b =>
    min == min' && max == max' && isLazy == isLazy' && a.same b
  | seq as, seq bs | alt as, alt bs => sameAll as bs
  | _, _ => false

def sameAll : List Form → List Form → Bool
  | [], [] => true
  | a :: as, b :: bs => a.same b && sameAll as bs
  | _, _ => false

end

def ofSet (s : CharSet) : Form :=
  match s.ranges with
  | [(a, b)] => if a = b then literal [Char.ofNat a] else set s
  | _ => set s

def items : Form → List Form
  | empty => []
  | seq as => as
  | a => [a]

def ofItems : List Form → Form
  | [] => empty
  | [a] => a
  | as => seq as

def join : List Form → List Form → List Form
  | [], bs => bs
  | [literal s], literal t :: bs => literal (s ++ t) :: bs
  | a :: as, bs => a :: join as bs

def append (a b : Form) : Form := ofItems (join a.items b.items)

def choices : Form → List Form
  | alt as => as
  | a => [a]

def letter? : Form → Option CharSet
  | literal [c] => some (.single c)
  | _ => none

def set? : Form → Option CharSet
  | set s => some s
  | _ => none

def literal? : Form → Option (List Char)
  | literal s => some s
  | _ => none

def seq? : Form → Option (List Form)
  | seq as => some as
  | _ => none

def oneSet? (as : List Form) : Option Form :=
  (as.mapM letter? <|> as.mapM set?).map fun ss => ofSet (.ofRanges (ss.flatMap (·.ranges)))

def ofChoices (as : List Form) : Form := (oneSet? as).getD (alt as)

def commonStart : List Form → List Form → List Form
  | a :: as, b :: bs => if a.same b then a :: commonStart as bs else []
  | _, _ => []

/-- The start that all choices have in common, and what is left of each of them. -/
def factor? (as : List Form) : Option (List Form × List Form) := do
  let seqs ← as.mapM seq?
  let start := seqs.tail.foldl commonStart (seqs.headD [])
  guard !start.isEmpty
  return (start, seqs.map fun bs => ofItems (bs.drop start.length))

def choice : List Form → Form
  | [a] => a
  | as =>
    let as := as.flatMap choices
    match oneSet? as, factor? as with
    | some s, _ => s
    | none, some (start, rests) => (ofItems start).append (ofChoices (rests.flatMap choices))
    | none, none => alt as

end Form

namespace Regex

def shortest : Regex → Option Nat
  | empty | look _ => some 0
  | chars s => if s.isEmpty then none else some 1
  | group _ a => a.shortest
  | seq a b => do return (← a.shortest) + (← b.shortest)
  | alt a b => do return Nat.min (← a.shortest) (← b.shortest)
  | repeated min max _ a => if max = some 0 then some 0 else a.shortest.map (min * ·)

def repeatedForm (min : Nat) (max : Option Nat) (isLazy : Bool) (a : Regex) (form : Form) : Form :=
  let min' := if a.isNullOnly then Nat.min min 1 else min
  let max' := if a.isNullOnly then some (max.elim 1 (Nat.min · 1)) else max
  if max' = some 0 then .empty
  else if min' = 1 ∧ max' = some 1 then form
  else .repeated min' max' isLazy (a.shortest.any (0 < ·)) form

/-- The forms of the alternatives. A group is one alternative, whatever stands in it. -/
def forms : Regex → List Form
  | empty => [.empty]
  | chars s => [.ofSet s]
  | look l => [.look l]
  | group captures a => let b := Form.choice a.forms; [if captures then .captured b else b]
  | seq a b => [(Form.choice a.forms).append (Form.choice b.forms)]
  | alt a b => Form.choice a.forms :: b.forms
  | repeated min max isLazy a => [a.repeatedForm min max isLazy (Form.choice a.forms)]

def form (r : Regex) : Form := .choice r.forms

end Regex

end StubHttp.Pattern
