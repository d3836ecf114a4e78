import StubHttp.Pattern.Form
import StubHttp.Text.Hash
import StubHttp.Text.Utf8

/-!
# Sizes of patterns

A pattern is refused if the states that it is compiled to take too many bytes, either those that read a
text from its start or those that read it from its end. A state takes 32 bytes, with four more for each
way out of a state that has several, and eight for each range of bytes of a state that has several.

The states of a set of characters are those of the ranges of bytes in which its characters are written.
A state is not made anew if there is one with the same ways out, as far as this is remembered: of states
with hashes that agree only the last is.
-/
namespace StubHttp.Pattern

open Unicode (CharSet)

structure Built where
  states : Nat
  bytes : Nat

def maxBytes : Nat := 10 * 0x100000

/-- What has been built is passed on, unless it has become too large. -/
abbrev Build := StateT Built Option

def addStates (states bytes : Nat) : Build Nat := fun b =>
  if b.bytes + bytes ≤ maxBytes then some (b.states, ⟨b.states + states, b.bytes + bytes⟩) else none

def addState (extra : Nat) : Build Nat := addStates 1 (32 + extra)

def addJoin : Build Unit := discard (addState 0)

def addFork (ways : Nat) : Build Unit := discard (addState (4 * ways))

def addRanges (n : Nat) : Build Unit := discard (addState (8 * n))

def addTimes (build : Build Unit) : Nat → Build Unit
  | 0 => return
  | n + 1 => do
    build
    addTimes build n

section Words

variable {α : Type} [DecidableEq α]

def addUnder (a : α) (w : List α) : List (α × List (List α)) → List (α × List (List α))
  | [] => [(a, [w])]
  | (b, ws) :: groups => if a = b then (b, ws ++ [w]) :: groups else (b, ws) :: addUnder a w groups

def byFirst (ws : List (List α)) : List (α × List (List α)) :=
  ws.foldl (fun groups w => match w with
    | [] => groups
    | a :: w => addUnder a w groups) []

def stretches : List (List α) → List (List (List α))
  | [] => [[]]
  | [] :: ws => [] :: stretches ws
  | w :: ws => (stretches ws).modifyHead (w :: ·)

/-- How many states and bytes the words take that go on at one place: a state for each stretch of
words, and one from which all of them are tried. Empty words that come first are as one. -/
def sizeOfWords : Nat → List (List α) → Nat × Nat
  | 0, _ => (0, 0)
  | depth + 1, ws =>
    let ws := if ws.head?.any (·.isEmpty) then [] :: ws.dropWhile (·.isEmpty) else ws
    let parts := stretches ws
    let groups := (parts.map byFirst).filter (!·.isEmpty)
    let heads := groups.map fun g => 32 + if g.length = 1 then 0 else 8 * g.length
    let below := (groups.flatten.filter fun g => g.2.any (!·.isEmpty)).map fun g => sizeOfWords depth g.2
    (1 + groups.length + (below.map (·.1)).sum,
      32 + 4 * (groups.length + parts.length - 1) + heads.sum + (below.map (·.2)).sum)

end Words

abbrev Bytes := Nat × Nat

/-- The numbers from `a` to `b` written with `k` digits to base 64 behind the first one, as ranges of
first, second and further digits. -/
def digitRanges (a b : Nat) : Nat → List (List Bytes)
  | 0 => [[(a, b)]]
  | k + 1 =>
    let unit := Nat.pow 64 (k + 1)
    let (first, last) := (a / unit, b / unit)
    if first = last then (digitRanges (a % unit) (b % unit) k).map ((first, last) :: ·)
    else
      let low := if a % unit = 0 then first else first + 1
      let high := if b % unit + 1 = unit then last + 1 else last
      (if low = first then [] else
        (digitRanges (a % unit) (unit - 1) k).map ((first, first) :: ·)) ++
      (if low = high then [] else (digitRanges 0 (unit - 1) k).map ((low, high - 1) :: ·)) ++
      (if high = last then (digitRanges 0 (b % unit) k).map ((last, last) :: ·) else [])

def byteRanges (s : CharSet) : List (List Bytes) :=
  s.ranges.flatMap fun r => within r 0 0x7F 0 0 ++ within r 0x80 0x7FF 1 0xC0 ++
    within r 0x800 0xFFFF 2 0xE0 ++ within r 0x10000 0x10FFFF 3 0xF0
where
  mark (lead : Nat) : List Bytes → List Bytes
    | [] => []
    | r :: rs => (lead + r.1, lead + r.2) :: rs.map fun r => (0x80 + r.1, 0x80 + r.2)
  within (r : Nat × Nat) (first last k lead : Nat) : List (List Bytes) :=
    let (a, b) := (max r.1 first, min r.2 last)
    if a ≤ b then (digitRanges a b k).map (mark lead) else []

abbrev Memory := Array (Option (List Nat × Nat))

def remembered (key : List Nat) (extra : Nat) : StateT Memory Build Nat := do
  let memory ← get
  let slot := (fnv1a (key.map UInt64.ofNat)).toNat % memory.size
  match memory[slot]? with
  | some (some (key', n)) => if key' = key then return n else new slot
  | _ => new slot
where
  new (slot : Nat) : StateT Memory Build Nat := do
    let n ← addState extra
    modify (·.setIfInBounds slot (some (key, n)))
    return n

def addForward (target : Nat) : Nat → List (List Bytes) → StateT Memory Build Nat
  | 0, _ => return target
  | depth + 1, ranges => do
    let ways ← (byFirst ranges).mapM fun (r, rests) => do
      let next ← if rests.all (·.isEmpty) then pure target else addForward target depth rests
      return [r.1, r.2, next]
    remembered ways.flatten (8 * ways.length)

def addBackward (target : Nat) (ranges : List Bytes) : StateT Memory Build Nat :=
  ranges.foldlM (fun next r => remembered [next, r.1, r.2] 0) target

def addSet (reverse : Bool) (s : CharSet) : Build Unit := do
  if s.isAscii then
    addJoin
    addRanges s.ranges.length
  else if reverse then
    let ranges := byteRanges s
    addFork ranges.length
    let target ← addState 0
    discard ((ranges.forM fun r => discard (addBackward target r)).run (Array.replicate 1000 none))
  else
    let target ← addState 0
    discard ((addForward target 4 (byteRanges s)).run (Array.replicate 10000 none))

def addWords (reverse : Bool) (words : List (List Char)) : Build Unit := do
  let words := words.map fun w =>
    let bytes := Utf8.bytes (String.ofList w)
    if reverse then bytes.reverse else bytes
  let (states, bytes) := sizeOfWords ((words.map List.length).foldl max 0 + 1) words
  addJoin
  discard (addStates states bytes)

def addRepeated (build : Build Unit) (advances : Bool) : Nat → Option Nat → Build Unit
  | 0, none => do
    if advances then
      addFork 2
      build
    else
      -- the way back must not be taken without a character, so there is another way around all of it
      build
      addFork 2
      addFork 2
      addJoin
  | min, none => do
    addTimes build min
    addFork 2
  | 0, some 1 => do
    addFork 2
    build
    addJoin
  | min, some max => do
    if min = 0 then addJoin
    addTimes build min
    if min < max then
      addJoin
      addTimes (do addFork 2; build) (max - min)

namespace Form

mutual

def build (reverse : Bool) : Form → Build Unit
  | empty | look _ => discard (addState 0)
  | literal s => let n := (Utf8.bytes (String.ofList s)).length; discard (addStates n (32 * n))
  | set s => addSet reverse s
  | captured a =>
    if reverse then a.build reverse
    else do
      discard (addState 0)
      a.build reverse
      discard (addState 0)
  | repeated min max _ advances a => addRepeated (a.build reverse) advances min max
  | seq as => if reverse then buildBack as else buildAll as
  | alt as =>
    match as.mapM literal? with
    | some words => addWords reverse words
    | none => buildEach reverse as.length 0 as

def buildAll : List Form → Build Unit
  | [] => return
  | a :: as => do
    a.build false
    buildAll as

def buildBack : List Form → Build Unit
  | [] => return
  | a :: as => do
    buildBack as
    a.build true

/-- The states from which and at which the choices meet are numbered behind those of the first two. -/
def buildEach (reverse : Bool) (n k : Nat) : List Form → Build Unit
  | [] => return
  | a :: as => do
    a.build reverse
    if k = 1 then
      addFork n
      addJoin
    buildEach reverse n (k + 1) as

end

end Form

namespace Regex

def startsAt (l : Look) : Regex → Bool
  | look m => m = l
  | group _ a => a.startsAt l
  | seq a b => a.startsAt l || (a.isNullOnly && b.startsAt l)
  | alt a b => a.startsAt l && b.startsAt l
  | repeated min _ _ a => 0 < min && a.startsAt l
  | _ => false

def endsAt (l : Look) : Regex → Bool
  | look m => m = l
  | group _ a => a.endsAt l
  | seq a b => b.endsAt l || (b.isNullOnly && a.endsAt l)
  | alt a b => a.endsAt l && b.endsAt l
  | repeated min _ _ a => 0 < min && a.endsAt l
  | _ => false

def buildIn (reverse : Bool) (r : Regex) : Build Unit := do
  let anchored := if reverse then r.endsAt .textEnd else r.startsAt .textStart
  if anchored then addJoin
  else
    addFork 2
    addJoin
    addRanges 1
  -- the whole match is a group of its own, and one last state accepts
  (if reverse then r.form else .captured r.form).build reverse
  discard (addState 0)

-- Left to the kernel: to unify two patterns, no states need be built.
@[irreducible]
def fits (r : Regex) : Bool :=
  ((r.buildIn false).run ⟨0, 0⟩).isSome && ((r.buildIn true).run ⟨0, 0⟩).isSome

end Regex

end StubHttp.Pattern
