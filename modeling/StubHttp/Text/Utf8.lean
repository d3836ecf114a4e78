/-!
# Byte strings as text

A byte string is a sequence of pieces: characters, and runs of bytes that belong to none. A run ends
where the bytes stop being the start of some character, so `Utf8.lossy` puts one replacement
character for each.
-/
namespace StubHttp.Utf8

inductive Piece
  | char (c : Char)
  /-- Bytes that start no character, as many as could have. -/
  | junk (size : Nat)
  deriving DecidableEq, Repr

def Piece.size : Piece → Nat
  | .char c => c.utf8Size
  | .junk n => n

def Piece.char? : Piece → Option Char
  | .char c => some c
  | .junk _ => none

/-- What a first byte owes: the count of bytes to come, the range of the next, its own bits. -/
def lead (b : UInt8) : Option (Nat × UInt8 × UInt8 × Nat) :=
  if b < 0x80 then some (0, 0x80, 0xBF, b.toNat)
  else if b < 0xC2 then none
  else if b < 0xE0 then some (1, 0x80, 0xBF, b.toNat - 0xC0)
  else if b = 0xE0 then some (2, 0xA0, 0xBF, 0)
  else if b = 0xED then some (2, 0x80, 0x9F, 0xD)
  else if b < 0xF0 then some (2, 0x80, 0xBF, b.toNat - 0xE0)
  else if b = 0xF0 then some (3, 0x90, 0xBF, 0)
  else if b < 0xF4 then some (3, 0x80, 0xBF, b.toNat - 0xF0)
  else if b = 0xF4 then some (3, 0x80, 0x8F, 4)
  else none

def finish : Nat → UInt8 → UInt8 → Nat → Nat → List UInt8 → Piece × List UInt8
  | 0, _, _, _, value, bs => (.char (Char.ofNat value), bs)
  | _ + 1, _, _, seen, _, [] => (.junk seen, [])
  | owed + 1, low, high, seen, value, b :: bs =>
    if low ≤ b ∧ b ≤ high then
      finish owed 0x80 0xBF (seen + 1) (value * 64 + (b.toNat - 0x80)) bs
    else (.junk seen, b :: bs)

theorem finish_length (owed : Nat) (low high : UInt8) (seen value : Nat) (bs : List UInt8) :
    (finish owed low high seen value bs).2.length ≤ bs.length := by
  induction owed generalizing low high seen value bs with
  | zero => simp [finish]
  | succ owed ih =>
    cases bs with
    | nil => simp [finish]
    | cons b bs =>
      simp only [finish]
      split
      · exact Nat.le_trans (ih ..) (by simp)
      · simp

def pieces : List UInt8 → List Piece
  | [] => []
  | b :: bs =>
    match lead b with
    | none => .junk 1 :: pieces bs
    | some (owed, low, high, value) =>
      let r := finish owed low high 1 value bs
      r.1 :: pieces r.2
termination_by bs => bs.length
decreasing_by
  · simp
  · have := finish_length owed low high 1 value bs
    simp only [List.length_cons]
    omega

/-- The text of a byte string, each run of stray bytes replaced by U+FFFD. -/
def lossy (bs : List UInt8) : String :=
  String.ofList ((pieces bs).map fun p => p.char?.getD '\uFFFD')

def text? (bs : List UInt8) : Option String :=
  ((pieces bs).mapM Piece.char?).map String.ofList

def bytes (s : String) : List UInt8 :=
  s.toList.flatMap String.utf8EncodeChar

end StubHttp.Utf8
