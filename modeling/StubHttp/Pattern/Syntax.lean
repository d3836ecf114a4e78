/-!
# Written patterns

The syntax of a pattern before its flags are applied and its class names are looked up.
-/
namespace StubHttp.Pattern

inductive Flag
  | ignoreCase
  | multiLine
  | dotAll
  | swapGreed
  | unicode
  | returns
  | ignoreSpace
  deriving DecidableEq, Repr

def Flag.ofLetter? : Char → Option Flag
  | 'i' => some .ignoreCase
  | 'm' => some .multiLine
  | 's' => some .dotAll
  | 'U' => some .swapGreed
  | 'u' => some .unicode
  | 'R' => some .returns
  | 'x' => some .ignoreSpace
  | _ => none

structure FlagChange where
  on : List Flag
  off : List Flag

def FlagChange.state? (f : FlagChange) (x : Flag) : Option Bool :=
  if x ∈ f.on then some true else if x ∈ f.off then some false else none

inductive WordEdge
  | both
  | neither
  | start
  | stop
  | startHalf
  | stopHalf

inductive Anchor
  | caret
  | dollar
  | textStart
  | textEnd
  | word (e : WordEdge)

inductive Shorthand
  | digit
  | space
  | word

inductive SetOp
  | inter
  | diff
  | symmDiff

inductive ClassName
  | plain (name : List Char)
  | valued (name value : List Char)

inductive SetExpr
  | empty
  | char (c : Char)
  | range (a b : Char)
  | posix (name : List Char) (negated : Bool)
  | shorthand (k : Shorthand) (negated : Bool)
  | named (n : ClassName) (negated : Bool)
  | bracket (negated : Bool) (s : SetExpr)
  | union (a b : SetExpr)
  | op (o : SetOp) (a b : SetExpr)

inductive Ast
  | empty
  | setFlags (f : FlagChange)
  /-- `code` marks a character written by a code of two digits, which may mean a byte. -/
  | char (c : Char) (code : Bool)
  | dot
  | anchor (a : Anchor)
  | set (s : SetExpr)
  | repeated (min : Nat) (max : Option Nat) (hasMark : Bool) (a : Ast)
  | group (f : Option FlagChange) (captures : Bool) (a : Ast)
  | alt (as : List Ast)
  | concat (as : List Ast)

inductive Refusal
  | malformed
  | unknownClass
  /-- The pattern could match in the middle of a character. -/
  | notText
  | tooDeep
  | tooLarge
  deriving DecidableEq, Repr

def SetExpr.depth : Bool → SetExpr → Nat
  | _, .bracket _ s => 1 + depth false s
  | true, .union a b => max (depth true a) (depth false b)
  | false, .union a b => 1 + max (depth true a) (depth false b)
  | _, .op _ a b => 1 + max (depth false a) (depth false b)
  | _, _ => 0

mutual

def Ast.depth : Ast → Nat
  | .set (.bracket n s) => SetExpr.depth false (.bracket n s)
  | .repeated _ _ _ a => 1 + a.depth
  | .group _ _ a => 1 + a.depth
  | .alt as => 1 + Ast.depths as
  | .concat as => 1 + Ast.depths as
  | _ => 0

def Ast.depths : List Ast → Nat
  | [] => 0
  | a :: as => max a.depth (depths as)

end

def maxDepth : Nat := 250

end StubHttp.Pattern
