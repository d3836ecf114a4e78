import StubHttp.Unicode.Property

/-!
# Regular expressions

A regular expression relates positions of a text: from which to which it can go. `Plan.run`
computes the positions reached from a set of positions; such a set is a number whose bit `i` stands
for the position before character `i`.
-/
namespace StubHttp.Pattern

open Unicode (CharSet)

inductive Look
  | textStart
  | textEnd
  | lineStart
  | lineEnd
  /-- Lines end in a carriage return, a line feed or the two in this order. -/
  | returnLineStart
  | returnLineEnd
  | boundary (unicode : Bool)
  | noBoundary (unicode : Bool)
  | wordStart (unicode : Bool)
  | wordEnd (unicode : Bool)
  | wordStartHalf (unicode : Bool)
  | wordEndHalf (unicode : Bool)
  deriving DecidableEq, Repr

def asciiWord : CharSet := ⟨[(0x30, 0x39), (0x41, 0x5A), (0x5F, 0x5F), (0x61, 0x7A)]⟩

def unicodeWord (_ : Unit) : CharSet :=
  let get (s : Option CharSet) := (s.getD .empty).ranges
  .ofRanges (get (Unicode.Property.find? "alphabetic") ++ get (Unicode.Category.find? "m") ++
    get (Unicode.Category.find? "nd") ++ get (Unicode.Category.find? "pc") ++
    get (Unicode.Property.find? "joincontrol"))

def wordSet (unicode : Bool) : CharSet := if unicode then unicodeWord () else asciiWord

namespace Look

def words : Look → CharSet
  | boundary u | noBoundary u | wordStart u | wordEnd u | wordStartHalf u | wordEndHalf u =>
    wordSet u
  | _ => .empty

def holds (words : CharSet) (l : Look) (before after : Option Char) : Bool :=
  let inWord (c : Option Char) := c.any words.contains
  match l with
  | textStart => before.isNone
  | textEnd => after.isNone
  | lineStart => before.isNone || before == some '\n'
  | lineEnd => after.isNone || after == some '\n'
  | returnLineStart =>
    before.isNone || before == some '\n' || (before == some '\r' && after != some '\n')
  | returnLineEnd =>
    after.isNone || after == some '\r' || (after == some '\n' && before != some '\r')
  | boundary _ => inWord before != inWord after
  | noBoundary _ => inWord before == inWord after
  | wordStart _ => !inWord before && inWord after
  | wordEnd _ => inWord before && !inWord after
  | wordStartHalf _ => !inWord before
  | wordEndHalf _ => !inWord after

end Look

inductive Regex
  | empty
  | chars (s : CharSet)
  | look (l : Look)
  | group (captures : Bool) (a : Regex)
  | seq (a b : Regex)
  | alt (a b : Regex)
  | repeated (min : Nat) (max : Option Nat) (isLazy : Bool) (a : Regex)

namespace Regex

def seqAll : List Regex → Regex
  | [] => empty
  | [a] => a
  | a :: as => seq a (seqAll as)

def altAll : List Regex → Regex
  | [] => chars .empty
  | [a] => a
  | a :: as => alt a (altAll as)

def isNullOnly : Regex → Bool
  | empty | look _ => true
  | chars _ => false
  | group _ a => a.isNullOnly
  | seq a b | alt a b => a.isNullOnly && b.isNullOnly
  | repeated _ max _ a => max == some 0 || a.isNullOnly

end Regex

/-- A regular expression made ready for one text: each set and each condition is the set of the
positions at which it holds. -/
inductive Plan
  | empty
  | step (places : Nat)
  | guard (places : Nat)
  | seq (a b : Plan)
  | alt (a b : Plan)
  | repeated (min : Nat) (max : Option Nat) (a : Plan)

def placesOf (s : CharSet) : List Char → Nat
  | [] => 0
  | c :: cs => (if s.contains c then 1 else 0) + 2 * placesOf s cs

def placesWhere (p : Option Char → Option Char → Bool) (before : Option Char) : List Char → Nat
  | [] => if p before none then 1 else 0
  | c :: cs => (if p before (some c) then 1 else 0) + 2 * placesWhere p (some c) cs

def Regex.plan (text : List Char) : Regex → Plan
  | empty => .empty
  | chars s => .step (placesOf s text)
  | look l => .guard (placesWhere (l.holds l.words) none text)
  | group _ a => a.plan text
  | seq a b => .seq (a.plan text) (b.plan text)
  | alt a b => .alt (a.plan text) (b.plan text)
  | repeated min max _ a =>
    let p := a.plan text
    if a.isNullOnly then .repeated (Nat.min min 1) (max.map (Nat.min · 1)) p
    else .repeated min max p

def saturate (f : Nat → Nat) : Nat → Nat → Nat
  | 0, s => s
  | fuel + 1, s =>
    let s' := s ||| f s
    if s' = s then s else saturate f fuel s'

def iterate (f : Nat → Nat) : Nat → Nat → Nat
  | 0, s => s
  | k + 1, s =>
    let s' := f s
    if s' = s then s else iterate f k s'

def Plan.run (n : Nat) : Plan → Nat → Nat
  | empty, s => s
  | step m, s => (s &&& m) <<< 1
  | guard m, s => s &&& m
  | seq a b, s => b.run n (a.run n s)
  | alt a b, s => a.run n s ||| b.run n s
  | repeated min max a, s =>
    let s' := iterate (a.run n) min s
    match max with
    | some k => saturate (a.run n) (k - min) s'
    | none => saturate (a.run n) (n + 1) s'

def Regex.found (r : Regex) (text : List Char) : Bool :=
  (r.plan text).run text.length (Nat.pow 2 (text.length + 1) - 1) != 0

end StubHttp.Pattern
