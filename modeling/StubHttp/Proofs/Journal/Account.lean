import Mathlib.Logic.Function.Basic
import StubHttp.Proofs.Journal

/-!
# A journal against an account of it

An account forgets no request until it is taken or all is cleared, and counts apart from this how many
requests of each type a journal still has. A journal gives every answer that its account gives, and
holds as many of the latest untaken requests of a type as the account counts. So what has made way for
later requests is never seen again, also when these have been taken. An account takes no notice of the
room that its journal needs: one that is to keep more requests than there can be room for records none.
-/
namespace StubHttp.Journal

inductive Op
  | record (type : String) (q : Request)
  | takeLast (type : String)
  | count (type : String)
  | clear

inductive Answer
  | done
  | overflow
  | taken (q : Option Request)
  | counted (n : Nat)

def Op.call (j : Journal) : Op → Answer × Journal
  | record type q =>
    match j.record type q with
    | none => (.overflow, j)
    | some j => (.done, j)
  | takeLast type => (.taken (j.takeLast type).1, (j.takeLast type).2)
  | count type => (.counted (j.count type), j)
  | clear => (.done, j.clear)

def after (j : Journal) : List Op → Journal
  | [] => j
  | x :: xs => (x.call j).2.after xs

def answers (j : Journal) : List Op → List Answer
  | [] => []
  | x :: xs => (x.call j).1 :: (x.call j).2.answers xs

/-- The untaken requests of one type in the order in which they were recorded. -/
structure Entry where
  untaken : List Request
  left : Nat

namespace Entry

def empty : Entry := ⟨[], 0⟩

def record (k : Nat) (e : Entry) (q : Request) : Entry :=
  ⟨e.untaken ++ [q], min (e.left + 1) k⟩

def takeLast (e : Entry) : Option Request × Entry :=
  if e.left = 0 then (none, e) else (e.untaken.getLast?, ⟨e.untaken.dropLast, e.left - 1⟩)

structure Tells (k : Nat) (e : Entry) (qs : List Request) : Prop where
  held : qs = e.untaken.reverse.take e.left
  left_le_length : e.left ≤ e.untaken.length
  left_le : e.left ≤ k

namespace Tells

variable {k : Nat} {e : Entry} {qs : List Request}

theorem nil (k : Nat) : empty.Tells k [] := ⟨rfl, Nat.le_refl 0, Nat.zero_le k⟩

theorem length (h : e.Tells k qs) : qs.length = e.left := by
  have hle := h.left_le_length
  rw [h.held, List.length_take, List.length_reverse]
  omega

theorem record (h : e.Tells k qs) (q : Request) : (e.record k q).Tells k ((q :: qs).take k) where
  held := by
    rw [Entry.record, List.reverse_append, List.reverse_singleton, List.singleton_append, h.held,
      ← List.take_succ_cons, List.take_take, Nat.min_comm]
  left_le_length := by
    have hle := h.left_le_length
    simp only [Entry.record, List.length_append, List.length_singleton]
    omega
  left_le := Nat.min_le_right _ _

theorem takeLast (h : e.Tells k qs) :
    qs.head? = e.takeLast.1 ∧ e.takeLast.2.Tells k qs.tail := by
  have hlength := h.length
  rw [Entry.takeLast]
  by_cases hleft : e.left = 0
  · have hqs : qs = [] := List.eq_nil_of_length_eq_zero (hlength.trans hleft)
    rw [if_pos hleft]
    subst hqs
    exact ⟨rfl, h⟩
  · have hle := h.left_le_length
    have hne : e.untaken ≠ [] := by
      intro hnil
      rw [hnil, List.length_nil] at hle
      omega
    have hreverse : e.untaken.reverse = e.untaken.getLast hne :: e.untaken.dropLast.reverse := by
      have hlast := congrArg List.reverse (List.dropLast_concat_getLast hne)
      rw [List.reverse_append] at hlast
      exact hlast.symm
    obtain ⟨n, hn⟩ := Nat.exists_eq_succ_of_ne_zero hleft
    have hqs : qs = e.untaken.getLast hne :: e.untaken.dropLast.reverse.take n := by
      rw [h.held, hreverse, hn, List.take_succ_cons]
    rw [if_neg hleft, hqs]
    refine ⟨(List.getLast?_eq_some_getLast hne).symm, ?_, ?_, ?_⟩
    · rw [List.tail_cons, hn, Nat.succ_sub_one]
    · simp only [List.length_dropLast]
      omega
    · exact Nat.le_trans (Nat.sub_le _ _) h.left_le

end Tells

end Entry

abbrev Account := String → Entry

namespace Account

def empty : Account := fun _ => .empty

def call (k : Nat) (a : Account) : Op → Answer × Account
  | .record type q => (.done, Function.update a type ((a type).record k q))
  | .takeLast type => (.taken (a type).takeLast.1, Function.update a type (a type).takeLast.2)
  | .count type => (.counted (a type).left, a)
  | .clear => (.done, empty)

def after (k : Nat) (a : Account) : List Op → Account
  | [] => a
  | x :: xs => (a.call k x).2.after k xs

def answers (k : Nat) (a : Account) : List Op → List Answer
  | [] => []
  | x :: xs => (a.call k x).1 :: (a.call k x).2.answers k xs

end Account

structure Follows (k : Nat) (j : Journal) (a : Account) : Prop where
  capacity : j.capacity = k
  tells : ∀ type, (a type).Tells k (j.held type)

namespace Follows

variable {k : Nat} {j j' : Journal} {a : Account}

theorem empty (c : Nat) : Follows (max c 1) (ofCapacity c) .empty := ⟨rfl, fun _ => .nil _⟩

/-- What all operations on one type have in common: the other types stay as they are. -/
theorem update (h : Follows k j a) {type : String} {e : Entry} {qs : List Request}
    (hcapacity : j'.capacity = j.capacity)
    (hheld : ∀ type', j'.held type' = if type' = type then qs else j.held type')
    (he : e.Tells k qs) : Follows k j' (Function.update a type e) where
  capacity := hcapacity.trans h.capacity
  tells type' := by
    rw [hheld]
    by_cases ht : type' = type
    · rw [if_pos ht, ht, Function.update_self]
      exact he
    · rw [if_neg ht, Function.update_of_ne ht]
      exact h.tells type'

theorem call (h : Follows k j a) (hk : k ≤ maxCapacity) (x : Op) :
    (x.call j).1 = (a.call k x).1 ∧ Follows k (x.call j).2 (a.call k x).2 := by
  cases x with
  | record type q =>
    have hroom : j.hasRoom type = true := hasRoom_of_le (h.capacity ▸ hk) type
    have htells := (h.tells type).record q
    rw [Op.call, record_of_hasRoom hroom]
    exact ⟨rfl, h.update rfl (held_push j type q) (h.capacity.symm ▸ htells)⟩
  | takeLast type =>
    obtain ⟨htaken, htells⟩ := (h.tells type).takeLast
    have hresult : (j.takeLast type).1 = (a type).takeLast.1 := (takeLast_result j type).trans htaken
    exact ⟨congrArg Answer.taken hresult,
      h.update (capacity_takeLast j type) (held_takeLast j type) htells⟩
  | count type => exact ⟨congrArg Answer.counted (h.tells type).length, h⟩
  | clear => exact ⟨rfl, h.capacity, fun _ => .nil k⟩

theorem run (h : Follows k j a) (hk : k ≤ maxCapacity) (xs : List Op) :
    j.answers xs = a.answers k xs ∧ Follows k (j.after xs) (a.after k xs) := by
  induction xs generalizing j a with
  | nil => exact ⟨rfl, h⟩
  | cons x xs ih =>
    obtain ⟨hanswer, hnext⟩ := h.call hk x
    obtain ⟨hanswers, hafter⟩ := ih hnext
    refine ⟨?_, hafter⟩
    rw [Journal.answers, Account.answers, hanswer, hanswers]

end Follows

end StubHttp.Journal
