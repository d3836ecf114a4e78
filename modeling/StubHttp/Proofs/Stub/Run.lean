import StubHttp.Proofs.Stub.Reachable

/-!
# Runs of a stub

Calls on a stub, one after another, with what they answer. What a call answers depends on the
registry, the journal and on whether the signal is raised: stubs that are `Alike` in these answer
alike and stay alike.
-/
namespace StubHttp.Stub

inductive Op
  | register (d : RuleDocument)
  | serve (q : Request)
  | lastRequest (type : String)
  | reset
  | shutdown

inductive Answer
  | registered (result : Except Failure Unit)
  | served (r : Served)
  | last (q : Option Request)
  | done

def Op.call (s : Stub) : Op → Answer × Stub
  | register d => (.registered (s.register d).1, (s.register d).2)
  | serve q => (.served (s.serve q).1, (s.serve q).2)
  | lastRequest type => (.last (s.lastRequest type).1, (s.lastRequest type).2)
  | reset => (.done, s.reset)
  | shutdown => (.done, s.shutdown)

def after (s : Stub) : List Op → Stub
  | [] => s
  | x :: xs => (x.call s).2.after xs

def answers (s : Stub) : List Op → List Answer
  | [] => []
  | x :: xs => (x.call s).1 :: (x.call s).2.answers xs

theorem Reachable.call {s : Stub} (h : s.Reachable) (x : Op) : (x.call s).2.Reachable := by
  cases x with
  | register d => exact h.step (.register d)
  | serve q => exact h.serve q
  | lastRequest type => exact h.step (.lastRequest type)
  | reset => exact h.reset
  | shutdown => exact h.shutdown

theorem Reachable.after {s : Stub} (h : s.Reachable) (xs : List Op) : (s.after xs).Reachable := by
  induction xs generalizing s with
  | nil => exact h
  | cons x xs ih => exact ih (h.call x)

/-- Stubs that differ in their counts and in who waits for the signal only. -/
structure Alike (s t : Stub) : Prop where
  registry : s.registry = t.registry
  journal : s.journal = t.journal
  stopping : s.stopping = t.stopping

theorem register_journal (s : Stub) (d : RuleDocument) : (s.register d).2.journal = s.journal := by
  rw [register]
  split <;> rfl

theorem register_stopping (s : Stub) (d : RuleDocument) :
    (s.register d).2.stopping = s.stopping := by
  rw [register]
  split <;> rfl

theorem call_capacity (s : Stub) (x : Op) :
    (x.call s).2.journal.capacity = s.journal.capacity := by
  cases x with
  | register d => exact congrArg Journal.capacity (register_journal s d)
  | serve q => exact (congrArg Journal.capacity (serve_journal s q)).trans (noted_capacity ..)
  | lastRequest type => exact s.journal.capacity_takeLast type
  | reset => rfl
  | shutdown => rfl

theorem Alike.call {s t : Stub} (h : Alike s t) (x : Op) :
    (x.call s).1 = (x.call t).1 ∧ Alike (x.call s).2 (x.call t).2 := by
  cases x with
  | register d =>
    have hj : (s.register d).2.journal = (t.register d).2.journal := by
      rw [register_journal, register_journal, h.journal]
    have hs : (s.register d).2.stopping = (t.register d).2.stopping := by
      rw [register_stopping, register_stopping, h.stopping]
    cases hd : d.predicate with
    | error e =>
      obtain ⟨hsr, hsg⟩ := register_of_error (s := s) hd
      obtain ⟨htr, htg⟩ := register_of_error (s := t) hd
      exact ⟨congrArg Answer.registered (hsr.trans htr.symm),
        hsg.trans (h.registry.trans htg.symm), hj, hs⟩
    | ok p =>
      obtain ⟨hsr, hsg⟩ := register_of_ok (s := s) hd
      obtain ⟨htr, htg⟩ := register_of_ok (s := t) hd
      refine ⟨congrArg Answer.registered (hsr.trans htr.symm), ?_, hj, hs⟩
      exact hsg.trans (h.registry ▸ htg.symm)
  | serve q =>
    refine ⟨congrArg Answer.served ?_, ?_, ?_, ?_⟩
    · rw [serve_result, serve_result, h.registry, h.journal, h.stopping]
    · exact (serve_registry s q).trans (h.registry ▸ (serve_registry t q).symm)
    · exact (serve_journal s q).trans (h.registry ▸ h.journal ▸ (serve_journal t q).symm)
    · exact (serve_stopping s q).trans (h.stopping ▸ (serve_stopping t q).symm)
  | lastRequest type =>
    have htaken : (s.journal.takeLast type).1 = (t.journal.takeLast type).1 := by rw [h.journal]
    have hleft : (s.journal.takeLast type).2 = (t.journal.takeLast type).2 := by rw [h.journal]
    exact ⟨congrArg Answer.last htaken, h.registry, hleft, h.stopping⟩
  | reset =>
    exact ⟨rfl, congrArg Registry.reset h.registry, congrArg Journal.clear h.journal, h.stopping⟩
  | shutdown => exact ⟨rfl, h.registry, h.journal, rfl⟩

theorem Alike.refl (s : Stub) : Alike s s := ⟨rfl, rfl, rfl⟩

theorem Alike.symm {s t : Stub} (h : Alike s t) : Alike t s :=
  ⟨h.registry.symm, h.journal.symm, h.stopping.symm⟩

theorem Alike.trans {s t u : Stub} (h : Alike s t) (h' : Alike t u) : Alike s u :=
  ⟨h.registry.trans h'.registry, h.journal.trans h'.journal, h.stopping.trans h'.stopping⟩

theorem Alike.answers {s t : Stub} (h : Alike s t) (xs : List Op) : s.answers xs = t.answers xs := by
  induction xs generalizing s t with
  | nil => rfl
  | cons x xs ih =>
    obtain ⟨hanswer, halike⟩ := h.call x
    rw [Stub.answers, Stub.answers, hanswer, ih halike]

end StubHttp.Stub
