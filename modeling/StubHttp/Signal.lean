/-!
# The stop signal

Whoever waits subscribes to the signal first and looks only then whether it is raised; a signal is
raised first and told to its subscribers only then. So nobody waits on without being told.
-/
namespace StubHttp

/-- A signal that stays raised. Its subscribers are numbered in their order. -/
structure Signal where
  raised : Bool
  /-- How many have subscribed. -/
  subscribers : Nat
  /-- How many of them had subscribed when the signal was last told. -/
  told : Nat
  told_le : told ≤ subscribers := by omega

namespace Signal

def low : Signal := { raised := false, subscribers := 0, told := 0 }

def subscribe (s : Signal) : Nat × Signal :=
  (s.subscribers, ⟨s.raised, s.subscribers + 1, s.told, Nat.le_succ_of_le s.told_le⟩)

def isTold (s : Signal) (subscriber : Nat) : Bool := subscriber < s.told

def raise (s : Signal) : Signal := { s with raised := true }

def tell (s : Signal) : Signal := ⟨s.raised, s.subscribers, s.subscribers, Nat.le_refl _⟩

def send (s : Signal) : Signal := s.raise.tell

/-- Begins a wait for the signal, under the number of a subscriber. There is nothing to wait for once
it is raised. -/
def await (s : Signal) : Option Nat × Signal :=
  let (n, s) := s.subscribe
  (if s.raised then none else some n, s)

end Signal

end StubHttp
