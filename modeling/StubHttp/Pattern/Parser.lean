import StubHttp.Pattern.Syntax
import StubHttp.Unicode.Property

/-!
# Reading patterns

`Ast.parse` reads a pattern. With the flag `x` blanks and comments are left out wherever `skip` is
called. All recursion is on fuel, of which three times the length of the pattern is enough.
-/
namespace StubHttp.Pattern

def isBlank (c : Char) : Bool :=
  let n := c.toNat
  (9 ≤ n && n ≤ 13) || n = 0x20 || n = 0x85 || n = 0xA0 || n = 0x1680 ||
    (0x2000 ≤ n && n ≤ 0x200A) || n = 0x2028 || n = 0x2029 || n = 0x202F || n = 0x205F || n = 0x3000

def dropBlanks : Bool → List Char → List Char
  | _, [] => []
  | false, c :: cs =>
    if isBlank c then dropBlanks false cs else if c = '#' then dropBlanks true cs else c :: cs
  | true, c :: cs => dropBlanks (c ≠ '\n') cs

/-- What is left of a pattern, whether blanks count, and the names of the groups so far. -/
structure Cursor where
  rest : List Char
  spaced : Bool
  names : List (List Char)

abbrev Parser := StateT Cursor (Except Refusal)

namespace Parser

def refuse {α : Type} : Parser α := throw .malformed

def rest : Parser (List Char) := return (← get).rest

def setRest (cs : List Char) : Parser Unit := modify fun c => { c with rest := cs }

def skip : Parser Unit :=
  modify fun c => if c.spaced then { c with rest := dropBlanks false c.rest } else c

def peek? : Parser (Option Char) := return (← get).rest.head?

def peek : Parser Char := do
  match ← peek? with
  | some c => return c
  | none => refuse

def bump : Parser Unit := modify fun c => { c with rest := c.rest.drop 1 }

def bumpSkip : Parser Unit := do bump; skip

def eat (s : String) : Parser Bool := do
  let r ← rest
  if s.toList.isPrefixOf r then
    setRest (r.drop s.toList.length)
    return true
  else return false

def takeSkipping (p : Char → Bool) : Nat → Parser (List Char)
  | 0 => return []
  | fuel + 1 => do
    match ← peek? with
    | some c =>
      if p c then
        bumpSkip
        return c :: (← takeSkipping p fuel)
      else return []
    | none => return []

def decimal : Parser (Option Nat) := do
  modify fun c => { c with rest := c.rest.dropWhile isBlank }
  let ds ← takeSkipping (fun c => '0' ≤ c ∧ c ≤ '9') (← rest).length
  modify fun c => { c with rest := c.rest.dropWhile isBlank }
  skip
  if ds.isEmpty then return none
  let n := ds.foldl (fun n c => n * 10 + (c.toNat - 48)) 0
  if n < 0x100000000 then return some n else refuse

def hexValue? (c : Char) : Option Nat :=
  if '0' ≤ c ∧ c ≤ '9' then some (c.toNat - 48)
  else if 'a' ≤ c ∧ c ≤ 'f' then some (c.toNat - 87)
  else if 'A' ≤ c ∧ c ≤ 'F' then some (c.toNat - 55)
  else none

def charOfHex (cs : List Char) : Parser Char := do
  let n ← cs.foldlM (fun n c => match hexValue? c with
    | some d => return n * 16 + d
    | none => refuse) 0
  if n < 0xD800 ∨ (0xDFFF < n ∧ n < 0x110000) then return Char.ofNat n else refuse

def hexDigits : Nat → Parser (List Char)
  | 0 => return []
  | n + 1 => do
    let c ← peek
    if (hexValue? c).isNone then refuse
    bumpSkip
    return c :: (← hexDigits n)

def hexChar (letter : Char) : Parser Ast := do
  skip
  if (← peek) = '{' then
    bumpSkip
    let ds ← takeSkipping (· ≠ '}') (← rest).length
    if (← peek) ≠ '}' ∨ ds.isEmpty then refuse
    bumpSkip
    return .char (← charOfHex ds) false
  else
    let ds ← hexDigits (if letter = 'x' then 2 else if letter = 'u' then 4 else 8)
    return .char (← charOfHex ds) (letter = 'x')

def splitAt? (sep : List Char) : List Char → Option (List Char × List Char)
  | [] => none
  | c :: cs =>
    if sep.isPrefixOf (c :: cs) then some ([], (c :: cs).drop sep.length)
    else (splitAt? sep cs).map fun (a, b) => (c :: a, b)

def namedClass (negated : Bool) : Parser Ast := do
  skip
  let c ← peek
  if c = '{' then
    bumpSkip
    let name ← takeSkipping (· ≠ '}') (← rest).length
    if (← peek) ≠ '}' then refuse
    bump
    match splitAt? "!=".toList name with
    | some (n, v) => return .set (.named (.valued n v) (!negated))
    | none =>
      match (splitAt? [':'] name).or (splitAt? ['='] name) with
      | some (n, v) => return .set (.named (.valued n v) negated)
      | none => return .set (.named (.plain name) negated)
  else if c = '\\' then refuse
  else
    bumpSkip
    return .set (.named (.plain [c]) negated)

def isPunctuation (c : Char) : Bool := "\\.+*?()|[]\x7b\x7d^$#&-~".toList.contains c

def isEscapable (c : Char) : Bool :=
  isPunctuation c || (c.toNat < 0x80 && !c.isAlphanum && c ≠ '<' && c ≠ '>')

def isEdgeChar (c : Char) : Bool := c.isAlpha || c = '-'

def edgeName : Parser WordEdge := do
  let name ← takeSkipping isEdgeChar (← rest).length
  if (← peek) ≠ '}' then refuse
  bump
  if name = "start".toList then return .start
  else if name = "end".toList then return .stop
  else if name = "start-half".toList then return .startHalf
  else if name = "end-half".toList then return .stopHalf
  else refuse

/-- What may follow a word boundary between braces; `none` if a count stands there instead. -/
def wordEdge? : Parser (Option WordEdge) := do
  let before ← get
  bumpSkip
  if isEdgeChar (← peek) then return some (← edgeName)
  else
    set before
    return none

def wordBoundary : Parser Ast := do
  if (← peek?) = some '{' then return .anchor (.word ((← wordEdge?).getD .both))
  else return .anchor (.word .both)

def escapeOf (c : Char) : Parser Ast :=
  match c with
  | 'x' | 'u' | 'U' => hexChar c
  | 'p' => namedClass false
  | 'P' => namedClass true
  | 'd' => return .set (.shorthand .digit false)
  | 'D' => return .set (.shorthand .digit true)
  | 's' => return .set (.shorthand .space false)
  | 'S' => return .set (.shorthand .space true)
  | 'w' => return .set (.shorthand .word false)
  | 'W' => return .set (.shorthand .word true)
  | 'a' => return .char '\x07' false
  | 'f' => return .char '\x0c' false
  | 't' => return .char '\t' false
  | 'n' => return .char '\n' false
  | 'r' => return .char '\r' false
  | 'v' => return .char '\x0b' false
  | 'A' => return .anchor .textStart
  | 'z' => return .anchor .textEnd
  | 'b' => wordBoundary
  | 'B' => return .anchor (.word .neither)
  | '<' => return .anchor (.word .start)
  | '>' => return .anchor (.word .stop)
  | c => if isEscapable c then return .char c false else refuse

def escape : Parser Ast := do
  bump
  let c ← peek
  bump
  escapeOf c

def posixNames : List String :=
  ["alnum", "alpha", "ascii", "blank", "cntrl", "digit", "graph", "lower", "print", "punct",
    "space", "upper", "word", "xdigit"]

def posixNamed? (negated : Bool) (r : List Char) : Option (SetExpr × List Char) :=
  let name := r.takeWhile (· ≠ ':')
  match r.dropWhile (· ≠ ':') with
  | ':' :: ']' :: r =>
    if posixNames.any (·.toList = name) then some (.posix name negated, r) else none
  | _ => none

def posixOf? : List Char → Option (SetExpr × List Char)
  | '[' :: ':' :: '^' :: r => posixNamed? true r
  | '[' :: ':' :: r => posixNamed? false r
  | _ => none

def posix? : Parser (Option SetExpr) := do
  match posixOf? (← rest) with
  | some (s, r) =>
    setRest r
    return some s
  | none => return none

def setItem : Parser Ast := do
  let c ← peek
  if c = '\\' then escape
  else
    bumpSkip
    return .char c false

def Ast.single? : Ast → Option Char
  | .char c _ => some c
  | _ => none

def second? (spaced : Bool) (r : List Char) : Option Char :=
  if spaced then
    let r := (r.drop 1).dropWhile isBlank
    let r := if r.head? = some '#' then (r.drop 1).dropWhile isBlank else r
    r.head?
  else (r.drop 1).head?

def peekSecond : Parser (Option Char) := do
  let c ← get
  return second? c.spaced c.rest

def setRange : Parser SetExpr := do
  let a ← setItem
  skip
  let c ← peek
  let second ← peekSecond
  if c ≠ '-' ∨ second = some ']' ∨ second = some '-' then
    match a with
    | .char c _ => return .char c
    | .set s => return s
    | _ => refuse
  else
    bumpSkip
    let b ← setItem
    match a, b with
    | .char a _, .char b _ => if a ≤ b then return .range a b else refuse
    | _, _ => refuse

def unionOf : List SetExpr → SetExpr
  | [] => .empty
  | [a] => a
  | a :: as => .union (unionOf as) a

def leadingHyphens : Nat → Parser (List SetExpr)
  | 0 => return []
  | fuel + 1 => do
    if (← peek) = '-' then
      bumpSkip
      return .char '-' :: (← leadingHyphens fuel)
    else return []

def firstItems : Parser (List SetExpr) := do
  let hyphens ← leadingHyphens (← rest).length
  if hyphens.isEmpty ∧ (← peek) = ']' then
    bumpSkip
    discard peek
    return [.char ']']
  else
    discard peek
    return hyphens

def openSet : Parser (Bool × List SetExpr) := do
  bumpSkip
  let negated := (← peek) = '^'
  if negated then bumpSkip
  return (negated, ← firstItems)

def applyPending (pending : Option (SetOp × SetExpr)) (s : SetExpr) : SetExpr :=
  match pending with
  | none => s
  | some (o, a) => .op o a s

mutual

def set : Nat → Parser SetExpr
  | 0 => refuse
  | fuel + 1 => do
    let (negated, items) ← openSet
    return .bracket negated (← setItems fuel none items)

def setItems : Nat → Option (SetOp × SetExpr) → List SetExpr → Parser SetExpr
  | 0, _, _ => refuse
  | fuel + 1, pending, items => do
    skip
    let c ← peek
    if c = '[' then
      match ← posix? with
      | some s => setItems fuel pending (s :: items)
      | none => setItems fuel pending ((← set fuel) :: items)
    else if c = ']' then
      bump
      return applyPending pending (unionOf items)
    else if ← eat "&&" then setItems fuel (some (.inter, applyPending pending (unionOf items))) []
    else if ← eat "--" then setItems fuel (some (.diff, applyPending pending (unionOf items))) []
    else if ← eat "~~" then
      setItems fuel (some (.symmDiff, applyPending pending (unionOf items))) []
    else setItems fuel pending ((← setRange) :: items)

end

def flags : Nat → Bool → Bool → FlagChange → Parser FlagChange
  | 0, _, _, _ => refuse
  | fuel + 1, minus, dangling, f => do
    let c ← peek
    if c = ':' ∨ c = ')' then
      if dangling then refuse else return f
    else if c = '-' then
      if minus then refuse
      bump
      flags fuel true true f
    else
      match Flag.ofLetter? c with
      | none => refuse
      | some x =>
        if x ∈ f.on ∨ x ∈ f.off then refuse
        bump
        flags fuel minus false
          (if minus then { f with off := x :: f.off } else { f with on := x :: f.on })

def isNameStart (c : Char) : Bool :=
  c = '_' || if c.toNat < 0x80 then c.isAlpha
    else ((Unicode.Property.find? "alphabetic").getD .empty).contains c

def isNameChar (c : Char) : Bool :=
  isNameStart c || c = '.' || c = '[' || c = ']' ||
    if c.toNat < 0x80 then c.isDigit else ((Unicode.Category.find? "n").getD .empty).contains c

def nameOf? (r : List Char) : Option (List Char × List Char) :=
  match r.takeWhile (· ≠ '>'), r.dropWhile (· ≠ '>') with
  | c :: cs, '>' :: r => if isNameStart c ∧ cs.all isNameChar then some (c :: cs, r) else none
  | _, _ => none

def groupName : Parser Unit := do
  match nameOf? (← rest) with
  | some (name, r) =>
    if name ∈ (← get).names then refuse
    else modify fun c => { c with rest := r, names := name :: c.names }
  | none => refuse

inductive Opened
  | setFlags (f : FlagChange)
  | group (f : Option FlagChange) (captures : Bool)

def flagGroup : Parser Opened := do
  let f ← flags ((← rest).length + 1) false false ⟨[], []⟩
  let c ← peek
  bump
  if c = ')' then
    if f.on.isEmpty ∧ f.off.isEmpty then refuse else return .setFlags f
  else return .group (some f) false

def openGroup : Parser Opened := do
  bump
  skip
  if (← eat "?=") || (← eat "?!") || (← eat "?<=") || (← eat "?<!") then refuse
  if ← eat "?P<" <||> eat "?<" then
    groupName
    return .group none true
  else if ← eat "?" then flagGroup
  else return .group none true

def enter (f : Option FlagChange) : Parser Unit :=
  modify fun c => { c with spaced := (f.bind (·.state? .ignoreSpace)).getD c.spaced }

def closeGroup (spaced : Bool) : Parser Unit := do
  if (← peek?) = some ')' then
    bump
    modify fun c => { c with spaced := spaced }
  else refuse

def repeatLast (min : Nat) (max : Option Nat) (hasMark : Bool) : List Ast → Parser (List Ast)
  | [] | .empty :: _ | .setFlags _ :: _ => refuse
  | a :: as => return .repeated min max hasMark a :: as

def bounds : Parser (Nat × Option Nat) := do
  let low ← decimal
  let c ← peek
  match low with
  | none => refuse
  | some n =>
    if c = ',' then
      bumpSkip
      if (← peek) = '}' then return (n, none)
      else
        match ← decimal with
        | some m => return (n, some m)
        | none => refuse
    else return (n, some n)

def counts : Parser (Nat × Option Nat) := do
  bumpSkip
  discard peek
  let (low, high) ← bounds
  if (← peek) = '}' then
    bumpSkip
    if high.any (· < low) then refuse else return (low, high)
  else refuse

def lazyMark : Parser Bool := do
  if (← peek?) = some '?' then
    bump
    return true
  else return false

def concat : List Ast → Ast
  | [] => .empty
  | [a] => a
  | as => .concat as.reverse

def alternatives : List Ast → Ast
  | [a] => a
  | as => .alt as.reverse

def opened (read : List Ast → List Ast → Parser Ast) (done items : List Ast) (spaced : Bool) :
    Opened → Parser Ast
  | .setFlags f => do
    enter (some f)
    read done (.setFlags f :: items)
  | .group f captures => do
    enter f
    let a ← read [] []
    closeGroup spaced
    read done (.group f captures a :: items)

def group (read : List Ast → List Ast → Parser Ast) (done items : List Ast) : Parser Ast := do
  let spaced := (← get).spaced
  opened read done items spaced (← openGroup)

def expr : Nat → List Ast → List Ast → Parser Ast
  | 0, _, _ => refuse
  | fuel + 1, done, items => do
    skip
    match ← peek? with
    | none | some ')' => return alternatives (concat items :: done)
    | some '|' =>
      bump
      expr fuel (concat items :: done) []
    | some '(' => group (expr fuel) done items
    | some '[' => expr fuel done (.set (← set fuel) :: items)
    | some '?' =>
      bump
      expr fuel done (← repeatLast 0 (some 1) (← lazyMark) items)
    | some '*' =>
      bump
      expr fuel done (← repeatLast 0 none (← lazyMark) items)
    | some '+' =>
      bump
      expr fuel done (← repeatLast 1 none (← lazyMark) items)
    | some '{' =>
      if items.isEmpty then refuse
      else
        let (min, max) ← counts
        expr fuel done (← repeatLast min max (← lazyMark) items)
    | some '\\' => expr fuel done ((← escape) :: items)
    | some '.' =>
      bump
      expr fuel done (.dot :: items)
    | some '^' =>
      bump
      expr fuel done (.anchor .caret :: items)
    | some '$' =>
      bump
      expr fuel done (.anchor .dollar :: items)
    | some c =>
      bump
      expr fuel done (.char c false :: items)

end Parser

def Ast.parse (pattern : List Char) : Except Refusal Ast := do
  let (a, c) ← Parser.expr (3 * pattern.length + 3) [] [] |>.run ⟨pattern, false, []⟩
  if c.rest.isEmpty then
    if a.depth ≤ maxDepth then .ok a else .error .tooDeep
  else .error .malformed

end StubHttp.Pattern
