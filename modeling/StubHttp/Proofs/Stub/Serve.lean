import StubHttp.Proofs.Journal
import StubHttp.Stub

/-!
# What serving does

A request is decided by what the registry resolves it to and by whether the stop signal is raised
(`outcome`). Of the registry, the journal and the signal, only the first two change, and both before
the wait: one by the hand-out, the other by the record of the request.
-/
namespace StubHttp.Stub

def acceptance (j : Journal) (q : Request) :
    Option (Predicate × Option Canned) → Except Failure Pending
  | none => .error (.noMatch q)
  | some (p, k) =>
    if j.hasRoom p.requestType then
      match k with
      | none => .error (.noResponse p.render)
      | some c => .ok ⟨p.requestType, c⟩
    else .error .overflow

def outcome (raised : Bool) : Except Failure Pending → Served
  | .error e => ⟨.error e, 0⟩
  | .ok p =>
    if p.canned.millis = 0 then ⟨.ok p.canned.response, 0⟩
    else if raised then ⟨.error (.interrupted p.canned.millis), 0⟩
    else ⟨.ok p.canned.response, p.canned.millis⟩

def noted (j : Journal) (q : Request) : Option (Predicate × Option Canned) → Journal
  | none => j
  | some (p, _) => (j.record p.requestType q).getD j

section

variable {j : Journal} {p : Predicate}

theorem acceptance_of_room (h : j.hasRoom p.requestType = true) (q : Request) (c : Canned) :
    acceptance j q (some (p, some c)) = .ok ⟨p.requestType, c⟩ := if_pos h

theorem acceptance_of_room_missing (h : j.hasRoom p.requestType = true) (q : Request) :
    acceptance j q (some (p, none)) = .error (.noResponse p.render) := if_pos h

theorem acceptance_of_no_room (h : j.hasRoom p.requestType = false) (q : Request)
    (k : Option Canned) : acceptance j q (some (p, k)) = .error .overflow :=
  if_neg (Bool.eq_false_iff.1 h)

theorem noted_of_room (h : j.hasRoom p.requestType = true) (q : Request) (k : Option Canned) :
    noted j q (some (p, k)) = j.push p.requestType q := by
  rw [noted, Journal.record_of_hasRoom h]
  rfl

theorem noted_of_no_room (h : j.hasRoom p.requestType = false) (q : Request) (k : Option Canned) :
    noted j q (some (p, k)) = j := by
  rw [noted, Journal.record_of_not_hasRoom h]
  rfl

theorem noted_capacity (j : Journal) (q : Request) (m : Option (Predicate × Option Canned)) :
    (noted j q m).capacity = j.capacity := by
  rcases m with _ | ⟨p, k⟩
  · rfl
  · cases hroom : j.hasRoom p.requestType with
    | true => rw [noted_of_room hroom]; rfl
    | false => rw [noted_of_no_room hroom]

theorem record_of_room {s : Stub} (h : s.journal.hasRoom p.requestType = true) (q : Request) :
    s.record p q = some (gauge { s with journal := s.journal.push p.requestType q }) := by
  rw [record, Journal.record_of_hasRoom h, Option.map_some]

theorem record_eq_some {s s' : Stub} {q : Request} (h : s.record p q = some s') :
    s' = gauge { s with journal := s.journal.push p.requestType q } := by
  obtain ⟨j, hj, hs'⟩ := Option.map_eq_some_iff.1 h
  rw [← hs', Journal.eq_push_of_record hj]

end

theorem accept_result (s : Stub) (q : Request) :
    (s.accept q).1 = acceptance s.journal q (s.registry.resolve q).1 := by
  rcases hr : s.registry.resolve q with ⟨_ | ⟨p, k⟩, r⟩
  · simp [accept, resolve, hr, acceptance]
  · cases hroom : s.journal.hasRoom p.requestType <;> cases k <;>
      simp [accept, resolve, hr, record, Journal.record, hroom, acceptance]

theorem accept_registry (s : Stub) (q : Request) :
    (s.accept q).2.registry = (s.registry.resolve q).2 := by
  rcases hr : s.registry.resolve q with ⟨_ | ⟨p, k⟩, r⟩
  · simp [accept, resolve, hr]
  · cases hroom : s.journal.hasRoom p.requestType <;> cases k <;>
      simp [accept, resolve, hr, record, Journal.record, hroom, gauge]

theorem accept_journal (s : Stub) (q : Request) :
    (s.accept q).2.journal = noted s.journal q (s.registry.resolve q).1 := by
  rcases hr : s.registry.resolve q with ⟨_ | ⟨p, k⟩, r⟩
  · simp [accept, resolve, hr, noted]
  · cases hroom : s.journal.hasRoom p.requestType <;> cases k <;>
      simp [accept, resolve, hr, record, Journal.record, hroom, gauge, noted]

theorem accept_signal (s : Stub) (q : Request) : (s.accept q).2.signal = s.signal := by
  rcases hr : s.registry.resolve q with ⟨_ | ⟨p, k⟩, r⟩
  · simp [accept, resolve, hr]
  · cases hroom : s.journal.hasRoom p.requestType <;> cases k <;>
      simp [accept, resolve, hr, record, Journal.record, hroom, gauge]

theorem start_eq (s : Stub) (q : Request) :
    s.start q =
      match s.accept q with
      | (.error e, s') => (.done ⟨.error e, 0⟩, s')
      | (.ok p, s') =>
        if p.canned.millis = 0 then (.done ⟨.ok p.canned.response, 0⟩, s'.finish p)
        else (if s'.stopping then .done ⟨.error (.interrupted p.canned.millis), 0⟩
          else .waiting p s'.signal.subscribers, { s' with signal := s'.signal.subscribe.2 }) := by
  rw [start]
  rcases s.accept q with ⟨e | p, s'⟩
  · rfl
  · by_cases hr : s'.signal.raised = true <;> simp [Signal.await, Signal.subscribe, stopping, hr]

theorem start_registry (s : Stub) (q : Request) :
    (s.start q).2.registry = (s.registry.resolve q).2 := by
  rw [← accept_registry, start_eq]
  rcases s.accept q with ⟨e | p, s'⟩
  · rfl
  · dsimp only
    split <;> rfl

theorem start_journal (s : Stub) (q : Request) :
    (s.start q).2.journal = noted s.journal q (s.registry.resolve q).1 := by
  rw [← accept_journal, start_eq]
  rcases s.accept q with ⟨e | p, s'⟩
  · rfl
  · dsimp only
    split <;> rfl

theorem start_stopping (s : Stub) (q : Request) : (s.start q).2.stopping = s.stopping := by
  rw [stopping, stopping, ← accept_signal s q, start_eq]
  rcases s.accept q with ⟨e | p, s'⟩
  · rfl
  · dsimp only
    split <;> rfl

@[simp] theorem settle_registry (stop : Nat) (s : Stub) (x : Slot) :
    (s.settle stop x).2.registry = s.registry := by
  cases x with
  | done r => rfl
  | waiting p n => rw [settle]; split <;> rfl

@[simp] theorem settle_journal (stop : Nat) (s : Stub) (x : Slot) :
    (s.settle stop x).2.journal = s.journal := by
  cases x with
  | done r => rfl
  | waiting p n => rw [settle]; split <;> rfl

@[simp] theorem settle_signal (stop : Nat) (s : Stub) (x : Slot) :
    (s.settle stop x).2.signal = s.signal := by
  cases x with
  | done r => rfl
  | waiting p n => rw [settle]; split <;> rfl

theorem serve_registry (s : Stub) (q : Request) :
    (s.serve q).2.registry = (s.registry.resolve q).2 := by
  rw [← start_registry]
  exact settle_registry 0 _ _

theorem serve_journal (s : Stub) (q : Request) :
    (s.serve q).2.journal = noted s.journal q (s.registry.resolve q).1 := by
  rw [← start_journal]
  exact settle_journal 0 _ _

theorem serve_stopping (s : Stub) (q : Request) : (s.serve q).2.stopping = s.stopping := by
  rw [← start_stopping s q]
  exact congrArg Signal.raised (settle_signal 0 _ _)

theorem serve_result (s : Stub) (q : Request) :
    (s.serve q).1 = outcome s.stopping (acceptance s.journal q (s.registry.resolve q).1) := by
  rw [← accept_result, serve, start_eq, stopping, ← accept_signal s q]
  rcases s.accept q with ⟨e | p, s'⟩
  · rfl
  · -- Nobody who subscribes now has been told, so the wait is for the whole delay.
    have htold : s'.signal.subscribe.2.isTold s'.signal.subscribers = false :=
      decide_eq_false (Nat.not_lt.2 s'.signal.told_le)
    dsimp only [outcome]
    split
    · rfl
    · cases hr : s'.signal.raised with
      | true => simp [stopping, hr, settle]
      | false => simp [stopping, hr, settle, htold]

end StubHttp.Stub
