import StubHttp.Journal

/-!
# What a journal holds

Each operation on a journal is told by what is held for each type after it, the latest first.
-/
namespace StubHttp.Journal

theorem record_of_hasRoom {j : Journal} {type : String} (h : j.hasRoom type = true) (q : Request) :
    j.record type q = some (j.push type q) := if_pos h

theorem record_of_not_hasRoom {j : Journal} {type : String} (h : j.hasRoom type = false) (q : Request) :
    j.record type q = none := by
  rw [record, h]
  rfl

theorem eq_push_of_record {j j' : Journal} {type : String} {q : Request}
    (h : j.record type q = some j') : j' = j.push type q := by
  rw [record, Option.ite_none_right_eq_some] at h
  exact (Option.some.inj h.2).symm

theorem hasRoom_of_le {j : Journal} (h : j.capacity ≤ maxCapacity) (type : String) :
    j.hasRoom type = true := by
  rw [hasRoom, decide_eq_true h, Bool.or_true]

theorem held_push (j : Journal) (type : String) (q : Request) (type' : String) :
    (j.push type q).held type' =
      if type' = type then (q :: j.held type).take j.capacity else j.held type' := by
  rw [held, push, Dict.get?_alter]
  split <;> rfl

theorem takeLast_result (j : Journal) (type : String) :
    (j.takeLast type).1 = (j.held type).head? := by
  rw [takeLast]
  split
  case h_1 h => rw [h]; rfl
  case h_2 h => rw [h]; rfl

theorem held_takeLast (j : Journal) (type type' : String) :
    (j.takeLast type).2.held type' =
      if type' = type then (j.held type).tail else j.held type' := by
  rw [takeLast]
  split
  case h_1 h =>
    by_cases ht : type' = type
    · rw [if_pos ht, ht, h]; rfl
    · rw [if_neg ht]
  case h_2 q qs h =>
    rw [held, Dict.get?_insert, h]
    split <;> rfl

theorem capacity_takeLast (j : Journal) (type : String) :
    (j.takeLast type).2.capacity = j.capacity := by
  rw [takeLast]
  split <;> rfl

/-- No type holds more than the journal has room for, and each has room for one. -/
structure Bounded (j : Journal) : Prop where
  pos : 0 < j.capacity
  le : ∀ type, (j.held type).length ≤ j.capacity

namespace Bounded

variable {j : Journal}

theorem ofCapacity (n : Nat) : (Journal.ofCapacity n).Bounded where
  pos := Nat.le_max_right n 1
  le _ := Nat.zero_le _

theorem push (h : j.Bounded) (type : String) (q : Request) : (j.push type q).Bounded where
  pos := h.pos
  le type' := by
    rw [held_push]
    split
    case isTrue => exact List.length_take_le _ _
    case isFalse => exact h.le type'

theorem takeLast (h : j.Bounded) (type : String) : (j.takeLast type).2.Bounded where
  pos := by
    rw [capacity_takeLast]
    exact h.pos
  le type' := by
    rw [held_takeLast, capacity_takeLast]
    split
    case isTrue =>
      rw [List.length_tail]
      exact Nat.le_trans (Nat.sub_le _ 1) (h.le type)
    case isFalse => exact h.le type'

theorem clear (h : j.Bounded) : j.clear.Bounded where
  pos := h.pos
  le _ := Nat.zero_le _

end Bounded

def recordAll (j : Journal) (type : String) : List Request → Option Journal
  | [] => some j
  | q :: qs => (j.record type q).bind fun j => j.recordAll type qs

/-- Of requests of one type that are recorded one after another, as many stay as there is room for, the
latest of them. -/
theorem held_recordAll {j j' : Journal} (h : j.Bounded) {type : String} {qs : List Request}
    (hj : j.recordAll type qs = some j') :
    j'.held type = (qs.reverse ++ j.held type).take j.capacity := by
  induction qs generalizing j with
  | nil =>
    cases hj
    exact (List.take_of_length_le (h.le type)).symm
  | cons q qs ih =>
    obtain ⟨j₁, hj₁, hj⟩ := Option.bind_eq_some_iff.1 hj
    obtain rfl := eq_push_of_record hj₁
    have hroom : min (j.capacity - qs.reverse.length) j.capacity = j.capacity - qs.reverse.length :=
      Nat.min_eq_left (Nat.sub_le _ _)
    have hcapacity : (j.push type q).capacity = j.capacity := rfl
    rw [ih (h.push type q) hj, held_push, if_pos rfl, hcapacity, List.take_append, List.take_take, hroom,
      List.reverse_cons, List.append_assoc, List.singleton_append, List.take_append]

theorem isSome_recordAll {j : Journal} (h : j.capacity ≤ maxCapacity) (type : String)
    (qs : List Request) : (j.recordAll type qs).isSome = true := by
  induction qs generalizing j with
  | nil => rfl
  | cons q qs ih =>
    rw [recordAll, record_of_hasRoom (hasRoom_of_le h type)]
    exact ih (j := j.push type q) h

theorem ofCapacity_of_ne_zero {n : Nat} (h : n ≠ 0) : ofCapacity n = ⟨n, {}⟩ := by
  rw [ofCapacity, Nat.max_eq_left (Nat.one_le_iff_ne_zero.2 h)]

theorem held_takeLast_push {j : Journal} (h : j.Bounded) (type : String) (q : Request)
    (type' : String) : ((j.push type q).takeLast type).2.held type' =
      if type' = type ∧ (j.held type).length = j.capacity then (j.held type').dropLast
      else j.held type' := by
  have hle := h.le type
  obtain ⟨k, hk⟩ : ∃ k, j.capacity = k + 1 := ⟨j.capacity - 1, (Nat.succ_pred_eq_of_pos h.pos).symm⟩
  by_cases htype : type' = type
  · rw [held_takeLast, if_pos htype, held_push, if_pos rfl, hk, List.take_succ_cons, List.tail_cons,
      htype]
    split
    case isTrue hfull =>
      rw [List.dropLast_eq_take, hfull.2]
      rfl
    case isFalse hroom =>
      have hlt : (j.held type).length ≠ k + 1 := fun hlen => hroom ⟨rfl, hlen⟩
      exact List.take_of_length_le (by omega)
  · have hne : ¬ (type' = type ∧ (j.held type).length = j.capacity) := fun hc => htype hc.1
    rw [held_takeLast, if_neg htype, held_push, if_neg htype, if_neg hne]

end StubHttp.Journal
