import StubHttp.Proofs.Stub.Run

/-!
# Delays and shutdowns

All that a request does to the rules and to the journal it does before it waits. So requests that
wait at the same time, and of which a shutdown ends some, leave what they leave when they are served
one after another by rules that answer at once, and each is answered from the same rule.
-/
namespace StubHttp

def Canned.prompt (c : Canned) : Canned := { c with millis := 0 }

def Registry.prompt (r : Registry) : Registry :=
  { r with shelf := r.shelf.map fun x => (x.1, x.2.prompt) }

def Stub.prompt (s : Stub) : Stub := { s with registry := s.registry.prompt, signal := .low }

theorem Shelf.get?_map {s : Shelf} {f : Canned → Canned} {i : Identity} :
    get? (s.map fun x => (x.1, f x.2)) i = (get? s i).map f := by
  induction s with
  | nil => rfl
  | cons x s ih =>
    rw [List.map_cons, get?_cons, ih, show x :: s = (x.1, x.2) :: s from rfl, get?_cons]
    split <;> rfl

namespace Registry

variable {r : Registry} {p : Predicate} {q : Request}

theorem canned?_prompt : r.prompt.canned? p = (r.canned? p).map Canned.prompt :=
  Shelf.get?_map

theorem spend_prompt : r.prompt.spend p = (r.spend p).prompt := by
  have herase : r.prompt.erase p = (r.erase p).prompt := by
    simp only [erase, prompt, Shelf.erase, List.filter_map]
    rfl
  rw [spend, spend, herase]
  split <;> rfl

theorem resolve_prompt :
    r.prompt.resolve q =
      ((r.resolve q).1.map fun x => (x.1, x.2.map Canned.prompt), (r.resolve q).2.prompt) := by
  have hfind : r.prompt.find? q = r.find? q := rfl
  cases hf : r.find? q with
  | none => rw [resolve_of_none hf, resolve_of_none (hfind.trans hf)]; rfl
  | some p =>
    rw [resolve_of_some hf, resolve_of_some (hfind.trans hf), canned?_prompt, spend_prompt]
    rfl

end Registry

namespace Stub

/-- What `t` holds is what `s` holds, all delays set to zero. -/
structure Shadows (t s : Stub) : Prop where
  registry : t.registry = s.registry.prompt
  journal : t.journal = s.journal

theorem noted_prompt (j : Journal) (q : Request) (m : Option (Predicate × Option Canned)) :
    noted j q (m.map fun x => (x.1, x.2.map Canned.prompt)) = noted j q m := by
  rcases m with _ | ⟨p, k⟩ <;> rfl

theorem Shadows.start {s t : Stub} (h : Shadows t s) (q : Request) :
    Shadows (t.serve q).2 (s.start q).2 where
  registry := by
    rw [serve_registry, start_registry, h.registry, Registry.resolve_prompt]
  journal := by
    rw [serve_journal, start_journal, h.registry, h.journal, Registry.resolve_prompt, noted_prompt]

theorem Shadows.startAll {s t : Stub} (h : Shadows t s) (qs : List Request) :
    Shadows (t.after (qs.map .serve)) (s.startAll qs).2 := by
  induction qs generalizing s t with
  | nil => exact h
  | cons q qs ih => exact ih (h.start q)

theorem settleAll_registry (stop : Nat) (s : Stub) (xs : List Slot) :
    (s.settleAll stop xs).2.registry = s.registry := by
  induction xs generalizing s with
  | nil => rfl
  | cons x xs ih => exact (ih _).trans (settle_registry stop s x)

theorem settleAll_journal (stop : Nat) (s : Stub) (xs : List Slot) :
    (s.settleAll stop xs).2.journal = s.journal := by
  induction xs generalizing s with
  | nil => rfl
  | cons x xs ih => exact (ih _).trans (settle_journal stop s x)

theorem serveAll_registry (s : Stub) (qs : List Request) (stop : Option Nat) :
    (s.serveAll qs stop).2.registry = (s.startAll qs).2.registry := by
  cases stop with
  | none => exact settleAll_registry 0 _ _
  | some t => exact settleAll_registry t _ _

theorem serveAll_journal (s : Stub) (qs : List Request) (stop : Option Nat) :
    (s.serveAll qs stop).2.journal = (s.startAll qs).2.journal := by
  cases stop with
  | none => exact settleAll_journal 0 _ _
  | some t => exact settleAll_journal t _ _

theorem start_slot (s : Stub) (q : Request) :
    (s.start q).1 =
      match acceptance s.journal q (s.registry.resolve q).1 with
      | .error e => .done ⟨.error e, 0⟩
      | .ok p =>
        if p.canned.millis = 0 then .done ⟨.ok p.canned.response, 0⟩
        else if s.stopping then .done ⟨.error (.interrupted p.canned.millis), 0⟩
        else .waiting p s.signal.subscribers := by
  rw [← accept_result, start_eq, stopping, ← accept_signal s q]
  rcases s.accept q with ⟨e | p, s'⟩
  · rfl
  · dsimp only
    split <;> rfl

theorem startAll_capacity (s : Stub) (qs : List Request) :
    (s.startAll qs).2.journal.capacity = s.journal.capacity := by
  induction qs generalizing s with
  | nil => rfl
  | cons q qs ih => exact (ih _).trans (start_journal s q ▸ noted_capacity ..)

theorem Reachable.start {s : Stub} (h : s.Reachable) (q : Request) : (s.start q).2.Reachable :=
  (h.serve q).congr ((start_registry s q).trans (serve_registry s q).symm)
    ((start_journal s q).trans (serve_journal s q).symm)

theorem Reachable.startAll {s : Stub} (h : s.Reachable) (qs : List Request) :
    (s.startAll qs).2.Reachable := by
  induction qs generalizing s with
  | nil => exact h
  | cons q qs ih => exact ih (h.start q)

end Stub
end StubHttp
