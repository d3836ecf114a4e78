import Mathlib.Algebra.GroupWithZero.Nat
import Mathlib.Tactic.SplitIfs
import StubHttp.Metrics

/-!
# What the metrics tell

The metrics tell a number for each counter: for the series of some labels, or for all series of a family
together. An update adds one to the counters that it is for and leaves the others as they are. It is for
all labels that have the hash of its own, as these are one series.
-/
namespace StubHttp

inductive Counter
  | served (type : String) (status : UInt16)
  | servedAll
  | unmatched (method : String)
  | unmatchedAll
  | delayed (type : String)
  | registered (lifetime : Lifetime) (accepted : Bool)
  | lookedUp (found : Bool)
  | resets
  deriving DecidableEq

namespace Labelled

variable {β : Type}

theorem get?_cons (s : Series β) (l : Labelled β) (labels : List String) :
    get? (s :: l) labels = if key s.labels = key labels then some s.value else l.get? labels := by
  rw [get?, List.find?_cons]
  split_ifs with h
  · rw [decide_eq_true h]
    rfl
  · rw [decide_eq_false h]
    rfl

theorem get?_alter (l : Labelled β) (labels : List String) (f : Option β → β) (labels' : List String) :
    (l.alter labels f).get? labels' =
      if key labels' = key labels then some (f (l.get? labels)) else l.get? labels' := by
  induction l with
  | nil =>
    rw [alter, get?_cons]
    by_cases h : key labels = key labels'
    · rw [if_pos h, if_pos h.symm]
      rfl
    · rw [if_neg h, if_neg (Ne.symm h)]
  | cons s l ih =>
    rw [alter, get?_cons, get?_cons]
    by_cases hs : key s.labels = key labels
    · rw [if_pos hs, if_pos hs, get?_cons, hs]
      by_cases h : key labels = key labels'
      · rw [if_pos h, if_pos h.symm]
      · rw [if_neg h, if_neg (Ne.symm h), if_neg h]
    · rw [if_neg hs, if_neg hs, get?_cons, ih]
      by_cases hs' : key s.labels = key labels'
      · rw [if_pos hs', if_pos hs', if_neg fun h => hs (hs'.trans h)]
      · rw [if_neg hs', if_neg hs']

def count (l : Labelled Nat) (labels : List String) : Nat := (l.get? labels).getD 0

def total (l : Labelled Nat) : Nat := (l.map (·.value)).sum

theorem get?_congr {labels labels' : List String} (h : key labels = key labels') (l : Labelled β) :
    l.get? labels = l.get? labels' := by
  rw [get?, h, get?]

theorem count_bump (l : Labelled Nat) (labels labels' : List String) :
    (l.bump labels).count labels' = l.count labels' + (decide (key labels' = key labels)).toNat := by
  rw [count, bump, get?_alter, count]
  by_cases h : key labels' = key labels
  · rw [if_pos h, decide_eq_true h, get?_congr h]
    rfl
  · rw [if_neg h, decide_eq_false h]
    rfl

theorem total_bump (l : Labelled Nat) (labels : List String) :
    (l.bump labels).total = l.total + 1 := by
  induction l with
  | nil => rfl
  | cons s l ih =>
    rw [bump, alter]
    split_ifs with h
    · simp only [total, List.map_cons, List.sum_cons, Option.getD_some]
      omega
    · have hl : total (alter labels (fun n => n.getD 0 + 1) l) = total l + 1 := ih
      simp only [total, List.map_cons, List.sum_cons] at hl ⊢
      omega

end Labelled

namespace Metrics

open Labelled

def count (m : Metrics) : Counter → Nat
  | .served type status => m.served.count (servedLabels type status)
  | .servedAll => m.served.total
  | .unmatched method => m.unmatched.count [method]
  | .unmatchedAll => m.unmatched.total
  | .delayed type => (m.delays.get? [type]).elim 0 (·.count)
  | .registered lifetime accepted => m.registered.count (registeredLabels lifetime accepted)
  | .lookedUp found => m.lookups.count (lookupLabels found)
  | .resets => m.resets.getD 0

def gauge (m : Metrics) : Nat := m.active.getD 0

theorem key_registeredLabels_inj {l l' : Lifetime} {a a' : Bool} :
    key (registeredLabels l a) = key (registeredLabels l' a') ↔ l = l' ∧ a = a' := by
  cases l <;> cases l' <;> cases a <;> cases a' <;> decide +kernel

theorem key_lookupLabels_inj {found found' : Bool} :
    key (lookupLabels found) = key (lookupLabels found') ↔ found = found' := by
  cases found <;> cases found' <;> decide +kernel

end Metrics

/-- What is counted for the second counter is counted for the first: the second is a series that has the
key of the first, or that is one of those which the first tells together. -/
def Counter.meets : Counter → Counter → Bool
  | served type status, served type' status' =>
    Labelled.key (Metrics.servedLabels type status) = Labelled.key (Metrics.servedLabels type' status')
  | servedAll, served _ _ => true
  | unmatched method, unmatched method' => Labelled.key [method] = Labelled.key [method']
  | unmatchedAll, unmatched _ => true
  | delayed type, delayed type' => Labelled.key [type] = Labelled.key [type']
  | k, k' => k = k'

namespace Metrics

open Labelled

variable (m : Metrics) (k : Counter)

theorem count_addServed (type : String) (status : UInt16) :
    (m.addServed type status).count k = m.count k + (k.meets (.served type status)).toNat := by
  cases k with
  | served type' status' => exact count_bump ..
  | servedAll => exact total_bump ..
  | _ => rfl

theorem count_addUnmatched (method : String) :
    (m.addUnmatched method).count k = m.count k + (k.meets (.unmatched method)).toNat := by
  cases k with
  | unmatched method' => exact count_bump ..
  | unmatchedAll => exact total_bump ..
  | _ => rfl

theorem count_addDelay (type : String) (millis : Nat) :
    (m.addDelay type millis).count k = m.count k + (k.meets (.delayed type)).toNat := by
  cases k with
  | delayed type' =>
    rw [count, count, addDelay, get?_alter, Counter.meets]
    by_cases h : key [type'] = key [type]
    · rw [if_pos h, decide_eq_true h, get?_congr h]
      cases m.delays.get? [type] <;> rfl
    · rw [if_neg h, decide_eq_false h]
      rfl
  | _ => rfl

theorem count_addRegistration (lifetime : Lifetime) (accepted : Bool) :
    (m.addRegistration lifetime accepted).count k =
      m.count k + (k.meets (.registered lifetime accepted)).toNat := by
  cases k with
  | registered lifetime' accepted' =>
    rw [count, addRegistration, count_bump, count]
    simp [Counter.meets, key_registeredLabels_inj]
  | _ => rfl

theorem count_addLookup (found : Bool) :
    (m.addLookup found).count k = m.count k + (k.meets (.lookedUp found)).toNat := by
  cases k with
  | lookedUp found' =>
    rw [count, addLookup, count_bump, count]
    simp [Counter.meets, key_lookupLabels_inj]
  | _ => rfl

theorem count_addReset : m.addReset.count k = m.count k + (k.meets .resets).toNat := by
  cases k <;> rfl

theorem count_setActive (n : Nat) : (m.setActive n).count k = m.count k := by
  cases k <;> rfl

end Metrics
end StubHttp
