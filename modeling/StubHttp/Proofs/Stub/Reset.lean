import StubHttp.Proofs.Journal
import StubHttp.Proofs.Stub.Run

/-!
# What a reset leaves

A reset leaves the rules that live forever and nothing else. Whatever was registered, matched and
recorded between them, these rules stand in the order, and have the responses, that they would have
on a new stub where nothing else was registered.
-/
namespace StubHttp

def Registry.lasting (r : Registry) : Registry := r.keep fun i => i.lifetime = .forever

theorem Registry.Op.lifetime_of_removes {r : Registry} {i : Identity} {x : Registry.Op}
    (h : x.removes r i = true) : i.lifetime ≠ .forever := by
  cases x with
  | reset => exact of_decide_eq_true h
  | _ =>
    intro hi
    simp [removes, hi] at h

theorem Registry.Sound.lasting_apply {r : Registry} (h : r.Sound) (x : Registry.Op)
    (hx : ∀ p hp c, x ≠ .register p hp c) : (x.apply r).lasting = r.lasting := by
  rcases h.apply_cases x with ⟨p, hp, c, rfl⟩ | ⟨hk, -⟩
  · exact (hx p hp c rfl).elim
  · rw [hk, lasting, keep_keep, lasting]
    congr 1
    funext i
    cases hr : x.removes r i with
    | false => rfl
    | true => simp [Op.lifetime_of_removes hr]

namespace Stub

def Op.lasting : Op → Bool
  | register d => d.lifetime = .forever && d.predicate.isOk
  | _ => false

def fresh (capacity : Nat) (metrics : Metrics) (stopping : Bool) : Stub :=
  if stopping then (new capacity metrics).shutdown else new capacity metrics

theorem fresh_registry (capacity : Nat) (metrics : Metrics) (stopping : Bool) :
    (fresh capacity metrics stopping).registry = .empty := by
  cases stopping <;> rfl

theorem fresh_journal (capacity : Nat) (metrics : Metrics) (stopping : Bool) :
    (fresh capacity metrics stopping).journal = .ofCapacity capacity := by
  cases stopping <;> rfl

theorem fresh_stopping (capacity : Nat) (metrics : Metrics) (stopping : Bool) :
    (fresh capacity metrics stopping).stopping = stopping := by
  cases stopping <;> rfl

theorem Op.lasting_register_of_ok {d : RuleDocument} {p : Predicate} (h : d.predicate = .ok p) :
    (register d).lasting = decide (p.identity.lifetime = .forever) := by
  have hp : p.identity.lifetime = d.lifetime :=
    congrArg Identity.lifetime
      (Predicate.ofDocument_eq_ok (RuleDocument.declared_of_predicate h)).1
  rw [lasting, h, hp]
  exact Bool.and_true _

/-- A call that does not last changes nothing that lives forever. -/
theorem Reachable.lasting_call_of_false {s : Stub} (h : s.Reachable) {x : Op}
    (hx : x.lasting = false) : (x.call s).2.registry.lasting = s.registry.lasting := by
  cases x with
  | register d =>
    cases hd : d.predicate with
    | error e => exact congrArg Registry.lasting (register_of_error hd).2
    | ok p =>
      rw [Op.lasting_register_of_ok hd] at hx
      exact (congrArg Registry.lasting (register_of_ok hd).2).trans
        (Registry.keep_register_of_neg hx)
  | serve q =>
    refine (congrArg Registry.lasting (serve_registry s q)).trans ?_
    exact h.sound.lasting_apply (.resolve q) fun _ _ _ => nofun
  | lastRequest type => rfl
  | reset => exact h.sound.lasting_apply .reset fun _ _ _ => nofun
  | shutdown => rfl

theorem Reachable.lasting_call_of_true {s t : Stub} (h : s.Reachable) {x : Op}
    (hx : x.lasting = true) (ht : t.registry = s.registry.lasting) :
    (x.call t).2.registry = (x.call s).2.registry.lasting := by
  cases x with
  | register d =>
    cases hd : d.predicate with
    | error e => simp [Op.lasting, hd, Except.isOk, Except.toBool] at hx
    | ok p =>
      rw [Op.lasting_register_of_ok hd] at hx
      have hs : ((Op.register d).call s).2.registry = s.registry.register p d.canned :=
        (register_of_ok hd).2
      have htp : ((Op.register d).call t).2.registry = t.registry.register p d.canned :=
        (register_of_ok hd).2
      rw [hs, htp, ht, Registry.lasting, Registry.lasting, h.sound.keep_register_of_pos hx]
  | _ => cases hx

theorem Reachable.lasting_after {s t : Stub} (h : s.Reachable) (xs : List Op)
    (ht : t.registry = s.registry.lasting) :
    (t.after (xs.filter Op.lasting)).registry = (s.after xs).registry.lasting := by
  induction xs generalizing s t with
  | nil => exact ht
  | cons x xs ih =>
    cases hx : x.lasting with
    | false =>
      rw [List.filter_cons_of_neg (Bool.eq_false_iff.1 hx)]
      exact ih (h.call x) (ht.trans (h.lasting_call_of_false hx).symm)
    | true =>
      rw [List.filter_cons_of_pos hx]
      exact ih (h.call x) (h.lasting_call_of_true hx ht)

theorem after_capacity (s : Stub) (xs : List Op) :
    (s.after xs).journal.capacity = s.journal.capacity := by
  induction xs generalizing s with
  | nil => rfl
  | cons x xs ih => exact (ih _).trans (call_capacity s x)

theorem after_lasting (s : Stub) (xs : List Op) :
    (s.after (xs.filter Op.lasting)).journal = s.journal ∧
      (s.after (xs.filter Op.lasting)).stopping = s.stopping := by
  induction xs generalizing s with
  | nil => exact ⟨rfl, rfl⟩
  | cons x xs ih =>
    cases hx : x.lasting with
    | false =>
      rw [List.filter_cons_of_neg (Bool.eq_false_iff.1 hx)]
      exact ih s
    | true =>
      rw [List.filter_cons_of_pos hx]
      cases x with
      | register d =>
        obtain ⟨hj, hs⟩ := ih (s.register d).2
        exact ⟨hj.trans (register_journal s d), hs.trans (register_stopping s d)⟩
      | _ => cases hx

/-- After a run of calls and a reset, a stub answers all later calls as a new stub does on which only
the registrations that last have been made again, in their order. -/
theorem reset_erases_traces (capacity : Nat) (m m' : Metrics) (xs ys : List Op) :
    ((new capacity m).after xs).reset.answers ys =
      ((fresh capacity m' ((new capacity m).after xs).stopping).after
        (xs.filter Op.lasting)).answers ys := by
  have hreach := (Reachable.new capacity m).after xs
  obtain ⟨hjournal, hstopping⟩ :=
    after_lasting (fresh capacity m' ((new capacity m).after xs).stopping) xs
  refine Alike.answers ⟨?_, ?_, ?_⟩ ys
  · rw [(Reachable.new capacity m).lasting_after xs (fresh_registry ..)]
    exact hreach.sound.reset_eq_keep
  · have hcapacity : ((new capacity m).after xs).journal.capacity = max capacity 1 :=
      after_capacity _ xs
    rw [hjournal, fresh_journal, Journal.ofCapacity, ← hcapacity]
    rfl
  · rw [hstopping, fresh_stopping]
    rfl

end Stub

end StubHttp
