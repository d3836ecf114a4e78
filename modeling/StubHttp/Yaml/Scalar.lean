import StubHttp.Yaml.Token

/-!
# Scalars

The forms in which a scalar is written: plain, between quotes, or as a block of lines. Each function
gives the text of the scalar and what follows it. In plain and quoted scalars lines are folded: one
line feed becomes a blank, and of several the first is dropped.
-/
namespace StubHttp.Yaml

def foldBreaks : List Char → List Char
  | ['\n'] => [' ']
  | '\n' :: more => more
  | breaks => breaks

/-- What came since the last word of a scalar. Blanks and ends of lines are in reverse order. -/
inductive Space
  | none
  | blanks (cs : List Char)
  /-- Ends of lines, and the column in the last line. -/
  | lines (breaks : List Char) (column : Nat)
  /-- The same behind an end of line that is escaped. -/
  | escaped (breaks : List Char) (column : Nat)

namespace Space

def joined : Space → List Char
  | none => []
  | blanks cs => cs
  | lines breaks _ => (foldBreaks breaks.reverse).reverse
  | escaped breaks _ => breaks

def blank (c : Char) : Space → Space
  | none => blanks [c]
  | blanks cs => blanks (c :: cs)
  | lines breaks column => lines breaks (column + 1)
  | escaped breaks column => escaped breaks (column + 1)

def lineEnd (c : Char) : Space → Space
  | none => lines [c] 0
  | blanks _ => lines [c] 0
  | lines breaks _ => lines (c :: breaks) 0
  | escaped breaks _ => escaped (c :: breaks) 0

def column? : Space → Option Nat
  | none => .none
  | blanks _ => .none
  | lines _ column => some column
  | escaped _ column => some column

end Space

def endsPlain (flow : Bool) (c : Char) (cs : List Char) : Bool :=
  (c = ':' && atGap cs) || (flow && ",[]\x7b\x7d".toList.contains c)

def badColon (flow : Bool) (c : Char) (cs : List Char) : Bool :=
  flow && c = ':' && (cs.head?.any fun d => ",?[]\x7b\x7d".toList.contains d)

def endsAfterSpace (flow : Bool) (margin : Nat) (space : Space) (c : Char) (cs : List Char) :
    Bool :=
  match space with
  | .none => false
  | .blanks _ => c = '#'
  | .lines _ column | .escaped _ column =>
    c = '#' || (!flow && column < margin) || (column = 0 && atDocumentMark (c :: cs))

/-- A plain scalar; in a block it keeps right of the margin. The text is gathered in reverse order.
Tells also whether the scalar is followed by an end of line. -/
def plainScalar (flow : Bool) (margin : Nat) (space : Space) (text : List Char) :
    List Char → Option (String × Bool × List Char)
  | [] => some (String.ofList text.reverse, space.column?.isSome, [])
  | c :: cs =>
    if isBlank c then
      if c = '\t' ∧ (space.column?.any (· < margin)) then none
      else plainScalar flow margin (space.blank c) text cs
    else if isBreak c then plainScalar flow margin (space.lineEnd c) text cs
    else if endsAfterSpace flow margin space c cs then
      some (String.ofList text.reverse, space.column?.isSome, c :: cs)
    else if badColon flow c cs then none
    else if endsPlain flow c cs then
      some (String.ofList text.reverse, space.column?.isSome, c :: cs)
    else plainScalar flow margin .none (c :: (space.joined ++ text)) cs

inductive Quoting
  | space (s : Space)
  /-- A quote between single quotes, which ends the scalar unless another follows. -/
  | quote
  | backslash
  /-- Inside a number with so many digits to come. -/
  | code (left value : Nat)

def hexValue? (c : Char) : Option Nat :=
  if '0' ≤ c ∧ c ≤ '9' then some (c.toNat - 48)
  else if 'a' ≤ c ∧ c ≤ 'f' then some (c.toNat - 87)
  else if 'A' ≤ c ∧ c ≤ 'F' then some (c.toNat - 55)
  else none

def escapes : List (Char × Char) := [
  ('0', '\x00'), ('a', '\x07'), ('b', '\x08'), ('t', '\t'), ('\t', '\t'), ('n', '\n'),
  ('v', '\x0b'), ('f', '\x0c'), ('r', '\r'), ('e', '\x1b'), (' ', ' '), ('"', '"'), ('/', '/'),
  ('\\', '\\'), ('N', '\u0085'), ('_', '\u00a0'), ('L', '\u2028'), ('P', '\u2029')]

def codeLengths : List (Char × Nat) := [('x', 2), ('u', 4), ('U', 8)]

def quotedScalar (single : Bool) (q : Quoting) (text : List Char) :
    List Char → Option (String × List Char)
  | [] =>
    match q with
    | .quote => some (String.ofList text.reverse, [])
    | _ => none
  | c :: cs =>
    match q with
    | .quote =>
      if c = '\'' then quotedScalar single (.space .none) ('\'' :: text) cs
      else some (String.ofList text.reverse, c :: cs)
    | .backslash =>
      if isBreak c then quotedScalar single (.space (.escaped [] 0)) text cs
      else
        match escapes.lookup c, codeLengths.lookup c with
        | some d, _ => quotedScalar single (.space .none) (d :: text) cs
        | none, some n => quotedScalar single (.code n 0) text cs
        | none, none => none
    | .code left value =>
      match hexValue? c with
      | none => none
      | some d =>
        let n := value * 16 + d
        if 1 < left then quotedScalar single (.code (left - 1) n) text cs
        else if n.isValidChar then quotedScalar single (.space .none) (Char.ofNat n :: text) cs
        else none
    | .space s =>
      if isBlank c then quotedScalar single (.space (s.blank c)) text cs
      else if isBreak c then quotedScalar single (.space (s.lineEnd c)) text cs
      else if s.column? = some 0 ∧ atDocumentMark (c :: cs) then none
      else
        let text := s.joined ++ text
        if single then
          if c = '\'' then quotedScalar single .quote text cs
          else quotedScalar single (.space .none) (c :: text) cs
        else if c = '"' then some (String.ofList text.reverse, cs)
        else if c = '\\' then quotedScalar single .backslash text cs
        else quotedScalar single (.space .none) (c :: text) cs

/-- What becomes of the ends of lines at the end of a block: all go, one stays, or all stay. -/
inductive Chomp
  | strip
  | clip
  | keep
  deriving DecidableEq, Repr

def Chomp.ofChar? : Char → Option Chomp
  | '-' => some .strip
  | '+' => some .keep
  | _ => none

structure BlockHead where
  chomp : Chomp
  indent : Option Nat
  body : List Char

def restOfLine? (cs : List Char) : Option (List Char) :=
  let cs := cs.dropWhile isBlank
  match if cs.head? = some '#' then cs.dropWhile (!isBreak ·) else cs with
  | [] => some []
  | c :: cs => if isBreak c then some cs else none

def indentOf? (c : Char) : Option Nat := if c.isDigit then some (c.toNat - 48) else none

def blockHead? (cs : List Char) : Option BlockHead :=
  let first : Option Chomp × List Char :=
    match cs with
    | c :: rest =>
      match Chomp.ofChar? c with
      | some k => (some k, rest)
      | none => (none, cs)
    | [] => (none, cs)
  let indent : Option Nat × List Char :=
    match first.2 with
    | c :: rest =>
      match indentOf? c with
      | some n => (some n, rest)
      | none => (none, first.2)
    | [] => (none, first.2)
  let last : Option Chomp × List Char :=
    match first.1, indent with
    | none, (some _, c :: rest) =>
      match Chomp.ofChar? c with
      | some k => (some k, rest)
      | none => (none, indent.2)
    | k, _ => (k, indent.2)
  if indent.1 = some 0 then none
  else (restOfLine? last.2).map fun body => ⟨last.1.getD .clip, indent.1, body⟩

def widest? (column width : Nat) : List Char → Option Nat
  | [] => some (max width column)
  | c :: cs =>
    if c = ' ' then widest? (column + 1) width cs
    else if c = '\t' then none
    else if isBreak c then widest? 0 (max width column) cs
    else some (max width column)

inductive BlockPlace
  | indent (column : Nat)
  | line

structure Block where
  text : List Char
  lineEnd : List Char
  emptyLines : List Char
  /-- The last line starts with a blank. -/
  afterBlank : Bool

namespace Block

/-- Starts a line with `c`. Folded lines are joined unless one of them starts with a blank. -/
def startLine (literal : Bool) (b : Block) (c : Char) : Block :=
  let between :=
    if !literal && b.lineEnd = ['\n'] && !b.afterBlank && !isBlank c then
      if b.emptyLines.isEmpty then [' '] else b.emptyLines
    else b.emptyLines ++ b.lineEnd
  ⟨c :: (between ++ b.text), [], [], isBlank c⟩

def finish (chomp : Chomp) (b : Block) : String :=
  let text := match chomp with
    | .strip => b.text
    | .clip => b.lineEnd ++ b.text
    | .keep => b.emptyLines ++ b.lineEnd ++ b.text
  String.ofList text.reverse

end Block

def blockLines (literal : Bool) (chomp : Chomp) (indent : Nat) (p : BlockPlace) (b : Block) :
    List Char → Option (String × List Char)
  | [] => some (b.finish chomp, [])
  | c :: cs =>
    match p with
    | .line =>
      if isBreak c then blockLines literal chomp indent (.indent 0) { b with lineEnd := [c] } cs
      else blockLines literal chomp indent .line { b with text := c :: b.text } cs
    | .indent column =>
      if c = ' ' ∧ column < indent then blockLines literal chomp indent (.indent (column + 1)) b cs
      else if c = '\t' ∧ column < indent then none
      else if isBreak c then
        blockLines literal chomp indent (.indent 0) { b with emptyLines := c :: b.emptyLines } cs
      else if column = indent then blockLines literal chomp indent .line (b.startLine literal c) cs
      else some (b.finish chomp, c :: cs)

def blockScalar (literal : Bool) (margin : Nat) (cs : List Char) : Option (String × List Char) := do
  let head ← blockHead? cs
  let indent ← match head.indent with
    | some n => some (margin - 1 + n)
    | none => (widest? 0 0 head.body).map fun width => max (max width margin) 1
  blockLines literal head.chomp indent (.indent 0) ⟨[], [], [], false⟩ head.body

end StubHttp.Yaml
