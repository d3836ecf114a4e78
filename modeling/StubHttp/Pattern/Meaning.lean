import StubHttp.Pattern.Parser
import StubHttp.Pattern.Size
import StubHttp.Unicode.Age
import StubHttp.Unicode.Break
import StubHttp.Unicode.Folding

/-!
# From patterns to regular expressions

Flags set inside a group hold up to its end, also in the alternatives that follow. Case is folded
before a set is negated. Without the flag `u` classes are ASCII ones, and what could match a part of
a character is refused.
-/
namespace StubHttp.Pattern

open Unicode (CharSet)

structure Flags where
  ignoreCase : Bool
  multiLine : Bool
  dotAll : Bool
  unicode : Bool
  returns : Bool
  swapGreed : Bool

namespace Flags

def default : Flags := ⟨false, false, false, true, false, false⟩

def change (f : Flags) (c : FlagChange) : Flags :=
  { ignoreCase := (c.state? .ignoreCase).getD f.ignoreCase
    multiLine := (c.state? .multiLine).getD f.multiLine
    dotAll := (c.state? .dotAll).getD f.dotAll
    unicode := (c.state? .unicode).getD f.unicode
    returns := (c.state? .returns).getD f.returns
    swapGreed := (c.state? .swapGreed).getD f.swapGreed }

end Flags

/-- The name of a class in the form in which it is looked up: ASCII letters in lower case, without
blanks, hyphens, underscores and a leading "is". -/
def normalName (name : List Char) : String :=
  let isPrefixed : Bool := match name with
    | a :: b :: _ => (a = 'i' || a = 'I') && (b = 's' || b = 'S')
    | _ => false
  let cs := if isPrefixed then name.drop 2 else name
  let kept := (cs.filter fun c => c.toNat < 0x80 && c ≠ ' ' && c ≠ '_' && c ≠ '-').map Char.toLower
  if isPrefixed && kept == ['c'] then "isc" else String.ofList kept

def ClassName.set? : ClassName → Option CharSet
  | .plain name =>
    let n := normalName name
    (Unicode.Property.find? n).or ((Unicode.Category.find? n).or (Unicode.Script.find? n))
  | .valued name value =>
    let v := normalName value
    match normalName name with
    | "gc" | "generalcategory" => Unicode.Category.find? v
    | "sc" | "script" => Unicode.Script.find? v
    | "scx" | "scriptextensions" => Unicode.Script.extended? v
    | "age" => Unicode.Age.find? v
    | "gcb" | "graphemeclusterbreak" => Unicode.Break.find? Unicode.Break.graphemes v
    | "wb" | "wordbreak" => Unicode.Break.find? Unicode.Break.words v
    | "sb" | "sentencebreak" => Unicode.Break.find? Unicode.Break.sentences v
    | _ => none

def posixSet (name : List Char) : CharSet :=
  match String.ofList name with
  | "alnum" => .ofRanges [(0x30, 0x39), (0x41, 0x5A), (0x61, 0x7A)]
  | "alpha" => .ofRanges [(0x41, 0x5A), (0x61, 0x7A)]
  | "ascii" => .range 0 0x7F
  | "blank" => .ofRanges [(0x09, 0x09), (0x20, 0x20)]
  | "cntrl" => .ofRanges [(0, 0x1F), (0x7F, 0x7F)]
  | "digit" => .range 0x30 0x39
  | "graph" => .range 0x21 0x7E
  | "lower" => .range 0x61 0x7A
  | "print" => .range 0x20 0x7E
  | "punct" => .ofRanges [(0x21, 0x2F), (0x3A, 0x40), (0x5B, 0x60), (0x7B, 0x7E)]
  | "space" => .ofRanges [(0x09, 0x0D), (0x20, 0x20)]
  | "upper" => .range 0x41 0x5A
  | "word" => asciiWord
  | _ => .ofRanges [(0x30, 0x39), (0x41, 0x46), (0x61, 0x66)]

def Shorthand.set (unicode : Bool) : Shorthand → CharSet
  | .digit => if unicode then (Unicode.Category.find? "nd").getD .empty else .range 0x30 0x39
  | .space =>
    if unicode then (Unicode.Property.find? "whitespace").getD .empty
    else .ofRanges [(0x09, 0x0D), (0x20, 0x20)]
  | .word => wordSet unicode

def closeAscii (s : CharSet) : CharSet :=
  let upper := s.inter (.range 0x41 0x5A)
  let lower := s.inter (.range 0x61 0x7A)
  .ofRanges (s.ranges ++ upper.ranges.map (fun r => (r.1 + 32, r.2 + 32)) ++
    lower.ranges.map fun r => (r.1 - 32, r.2 - 32))

namespace Flags

def fold (f : Flags) (s : CharSet) : CharSet :=
  if f.ignoreCase then (if f.unicode then Unicode.Folding.close s else closeAscii s) else s

/-- The complement of a set, if asked for. A set of bytes has bytes of longer characters in its
complement. -/
def negate (f : Flags) (negated : Bool) (s : CharSet) : Except Refusal CharSet :=
  if negated then
    if f.unicode then .ok s.compl else .error .notText
  else .ok s

end Flags

def SetExpr.meaning (f : Flags) : SetExpr → Except Refusal CharSet
  | .empty => .ok .empty
  | .char c => if f.unicode || c.toNat < 0x80 then .ok (.single c) else .error .notText
  | .range a b =>
    if f.unicode || b.toNat < 0x80 then .ok (.range a.toNat b.toNat) else .error .notText
  | .posix name negated => f.negate negated (f.fold (posixSet name))
  | .shorthand k negated => f.negate negated (k.set f.unicode)
  | .named n negated =>
    if f.unicode then
      match n.set? with
      | some s => f.negate negated (f.fold s)
      | none => .error .unknownClass
    else .error .notText
  | .bracket negated s => do f.negate negated (f.fold (← s.meaning f))
  | .union a b => return (← a.meaning f).union (← b.meaning f)
  | .op o a b => do
    let s := f.fold (← a.meaning f)
    let t := f.fold (← b.meaning f)
    match o with
    | .inter => return s.inter t
    | .diff => return s.diff t
    | .symmDiff => return s.symmDiff t

def Anchor.look (f : Flags) : Anchor → Look
  | .caret =>
    if f.multiLine then (if f.returns then .returnLineStart else .lineStart) else .textStart
  | .dollar => if f.multiLine then (if f.returns then .returnLineEnd else .lineEnd) else .textEnd
  | .textStart => .textStart
  | .textEnd => .textEnd
  | .word .both => .boundary f.unicode
  | .word .neither => .noBoundary f.unicode
  | .word .start => .wordStart f.unicode
  | .word .stop => .wordEnd f.unicode
  | .word .startHalf => .wordStartHalf f.unicode
  | .word .stopHalf => .wordEndHalf f.unicode

def Flags.dot (f : Flags) : CharSet :=
  if f.dotAll then .all
  else if f.returns then (CharSet.ofRanges [(0x0A, 0x0A), (0x0D, 0x0D)]).compl
  else (CharSet.range 0x0A 0x0A).compl

mutual

def Ast.meaning (f : Flags) : Ast → Except Refusal (Regex × Flags)
  | .empty => .ok (.empty, f)
  | .setFlags c => .ok (.empty, f.change c)
  | .char c code =>
    if !f.unicode && code && 0x7F < c.toNat then .error .notText
    else if f.unicode || c.toNat < 0x80 then .ok (.chars (f.fold (.single c)), f)
    else .ok (.chars (.single c), f)
  | .dot => if f.unicode then .ok (.chars f.dot, f) else .error .notText
  | .anchor a => .ok (.look (a.look f), f)
  | .set s => return (.chars (← s.meaning f), f)
  | .repeated min max hasMark a =>
    return (.repeated min max (hasMark != f.swapGreed) (← a.meaning f).1, f)
  | .group c captures a =>
    return (.group captures (← a.meaning (match c with | some c => f.change c | none => f)).1, f)
  | .alt as => do
    let (rs, f) ← Ast.meanings f as
    return (Regex.altAll rs, f)
  | .concat as => do
    let (rs, f) ← Ast.meanings f as
    return (Regex.seqAll rs, f)

def Ast.meanings (f : Flags) : List Ast → Except Refusal (List Regex × Flags)
  | [] => .ok ([], f)
  | a :: as => do
    let (r, f) ← a.meaning f
    let (rs, f) ← Ast.meanings f as
    return (r :: rs, f)

end

def Regex.read (pattern : String) : Except Refusal Regex := do
  let a ← Ast.parse pattern.toList
  return (← a.meaning .default).1

def Regex.parse (pattern : String) : Except Refusal Regex := do
  let r ← Regex.read pattern
  if r.fits then .ok r else .error .tooLarge

end StubHttp.Pattern
