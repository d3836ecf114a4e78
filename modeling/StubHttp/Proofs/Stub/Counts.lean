import StubHttp.Proofs.Metrics
import StubHttp.Proofs.Presets
import StubHttp.Proofs.Stub.Delays

/-!
# Counts of calls

A run of calls on a stub has a history: what each request, registration, look-up and reset came to, as
the calls answer it. Each counter of the metrics tells how many events of the history it gathers. These are
the events that it is to count, and those that have other labels with the same key. The gauge tells how
many rules are registered, unless a request has found no room to be recorded.
-/
namespace StubHttp

inductive Event
  | served (q : Request) (result : Except Failure Response)
    (found : Option (Predicate × Option Canned))
  | registered (lifetime : Lifetime) (result : Except Failure Unit)
  | lookedUp (last : Option Request)
  | reset

def Event.interrupted : Event → Bool
  | served _ (.error (.interrupted _)) _ => true
  | _ => false

def Event.overflowed : Event → Bool
  | served _ (.error .overflow) _ => true
  | _ => false

namespace Counter

/-- A response counts for the type of the rule that was found, and also as delayed if this rule has it
wait. -/
def counts : Counter → Event → Bool
  | served type status, .served _ (.ok r) (some (p, _)) => type = p.requestType ∧ status = r.status
  | servedAll, .served _ (.ok _) _ => true
  | unmatched method, .served q (.error (.noMatch _)) _ => method = q.method
  | unmatchedAll, .served _ (.error (.noMatch _)) _ => true
  | delayed type, .served _ (.ok _) (some (p, some c)) => type = p.requestType ∧ c.millis ≠ 0
  | registered lifetime accepted, .registered l result => lifetime = l ∧ accepted = result.isOk
  | lookedUp found, .lookedUp last => found = last.isSome
  | resets, .reset => true
  | _, _ => false

/-- The events that a counter counts, and those that are counted by another counter of its series. -/
def gathers : Counter → Event → Bool
  | served type status, .served _ (.ok r) (some (p, _)) =>
    (served type status).meets (.served p.requestType r.status)
  | unmatched method, .served q (.error (.noMatch _)) _ => (unmatched method).meets (.unmatched q.method)
  | delayed type, .served _ (.ok _) (some (p, some c)) =>
    (delayed type).meets (.delayed p.requestType) && c.millis ≠ 0
  | k, e => k.counts e

/-- No event of a log is gathered by a counter that does not count it. -/
def Alone (k : Counter) (log : List Event) : Prop := ∀ e ∈ log, k.gathers e = true → k.counts e = true

def shares : Counter → Bool
  | served _ _ | unmatched _ | delayed _ => true
  | _ => false

variable (k : Counter) (q : Request) (found : Option (Predicate × Option Canned))

theorem alone_of_shares {k : Counter} {log : List Event} (h : k.shares = false) : k.Alone log := by
  intro e _ he
  cases k with
  | served | unmatched | delayed => cases h
  | _ => exact he

theorem gathers_of_counts {e : Event} (h : k.counts e = true) : k.gathers e = true := by
  unfold gathers
  split
  case h_1 =>
    obtain ⟨rfl, rfl⟩ := of_decide_eq_true h
    exact decide_eq_true rfl
  case h_2 =>
    obtain rfl := of_decide_eq_true h
    exact decide_eq_true rfl
  case h_3 =>
    obtain ⟨rfl, hc⟩ := of_decide_eq_true h
    exact Bool.and_eq_true_iff.2 ⟨decide_eq_true rfl, decide_eq_true hc⟩
  case h_4 => exact h

theorem Alone.countP {k : Counter} {log : List Event} (h : k.Alone log) :
    log.countP k.gathers = log.countP k.counts :=
  List.countP_congr fun e he => ⟨h e he, k.gathers_of_counts⟩

theorem gathers_response (p : Predicate) (c : Canned) (r : Response) :
    (k.gathers (.served q (.ok r) (some (p, some c)))).toNat =
      (k.meets (.served p.requestType r.status)).toNat +
        if c.millis = 0 then 0 else (k.meets (.delayed p.requestType)).toNat := by
  by_cases hc : c.millis = 0 <;> cases k <;> simp [gathers, counts, meets, hc]

theorem gathers_noMatch (q' : Request) :
    k.gathers (.served q (.error (.noMatch q')) found) = k.meets (.unmatched q.method) := by
  cases k <;> simp [gathers, counts, meets]

/-- No counter tells of a request that has ended in another way. -/
theorem gathers_failure {e : Failure} (h : ∀ q', e ≠ .noMatch q') :
    k.gathers (.served q (.error e) found) = false := by
  cases e with
  | noMatch q' => exact absurd rfl (h q')
  | _ => cases k <;> rfl

theorem gathers_registered (lifetime : Lifetime) (result : Except Failure Unit) :
    k.gathers (.registered lifetime result) = k.meets (.registered lifetime result.isOk) := by
  cases k <;> simp [gathers, counts, meets]

theorem gathers_lookedUp (last : Option Request) :
    k.gathers (.lookedUp last) = k.meets (.lookedUp last.isSome) := by
  cases k <;> simp [gathers, counts, meets]

theorem gathers_reset : k.gathers .reset = k.meets .resets := by
  cases k <;> rfl

end Counter

namespace Stub

/-- What it came to that these requests were served. Each is matched when those before it have
started. -/
def servings (s : Stub) : List Request → List Served → List Event
  | q :: qs, x :: xs => .served q x.result (s.registry.resolve q).1 :: (s.start q).2.servings qs xs
  | _, _ => []

def Op.events (s : Stub) : Op → List Event
  | register d => [.registered d.lifetime (s.register d).1]
  | serve q => [.served q (s.serve q).1.result (s.registry.resolve q).1]
  | lastRequest type => [.lookedUp (s.lastRequest type).1]
  | reset => [.reset]
  | shutdown => []

def events (s : Stub) : List Op → List Event
  | [] => []
  | x :: xs => x.events s ++ (x.call s).2.events xs

inductive Call
  | op (x : Op)
  | serveAll (qs : List Request) (stop : Option Nat)
  | loadPresets (root : Node) (dir : String)

namespace Call

def run (s : Stub) : Call → Stub
  | op x => (x.call s).2
  | serveAll qs stop => (s.serveAll qs stop).2
  | loadPresets root dir => (s.loadPresets root dir).2

def events (s : Stub) : Call → List Event
  | op x => x.events s
  | serveAll qs stop => s.servings qs (s.serveAll qs stop).1
  | loadPresets root dir => s.events ((presetDocuments root dir).map .register)

def serves : Call → Nat
  | op (.serve _) => 1
  | serveAll qs _ => qs.length
  | _ => 0

end Call

def afterCalls (s : Stub) : List Call → Stub
  | [] => s
  | x :: xs => (x.run s).afterCalls xs

def history (s : Stub) : List Call → List Event
  | [] => []
  | x :: xs => x.events s ++ (x.run s).history xs

/-- The metrics have come from those of `s` to those of `s'` by telling of these events. If no request
was without room, as none is if there can be room, the gauge still shows how many rules are registered. -/
structure Accounts (s : Stub) (log : List Event) (s' : Stub) : Prop where
  count : ∀ k, s'.metrics.count k = s.metrics.count k + log.countP k.gathers
  gauge : (∀ e ∈ log, e.overflowed = false) → s.metrics.gauge = s.active →
    s'.metrics.gauge = s'.active
  room : s.journal.capacity ≤ Journal.maxCapacity → ∀ e ∈ log, e.overflowed = false
  capacity : s'.journal.capacity = s.journal.capacity

theorem Accounts.refl (s : Stub) : Accounts s [] s := ⟨fun _ => rfl, fun _ => id, nofun, rfl⟩

/-- What no request can come to needs no room. -/
theorem Accounts.of_single {s s' : Stub} {e : Event} (he : e.overflowed = false)
    (count : ∀ k, s'.metrics.count k = s.metrics.count k + (Counter.gathers k e).toNat)
    (gauge : s.metrics.gauge = s.active → s'.metrics.gauge = s'.active)
    (capacity : s'.journal.capacity = s.journal.capacity) : Accounts s [e] s' where
  count := by
    intro k
    rw [count, List.countP_singleton, Bool.toNat]
    cases k.gathers e <;> rfl
  gauge := fun _ => gauge
  room := fun _ e' he' => List.mem_singleton.1 he' ▸ he
  capacity := capacity

theorem Accounts.trans {s s' s'' : Stub} {log log' : List Event} (h : Accounts s log s')
    (h' : Accounts s' log' s'') : Accounts s (log ++ log') s'' where
  count := by
    intro k
    rw [h'.count, h.count, List.countP_append, Nat.add_assoc]
  gauge := by
    intro hroom hg
    rw [List.forall_mem_append] at hroom
    exact h'.gauge hroom.2 (h.gauge hroom.1 hg)
  room := fun hc => List.forall_mem_append.2 ⟨h.room hc, h'.room (h.capacity ▸ hc)⟩
  capacity := h'.capacity.trans h.capacity

theorem countP_singleton (k : Counter) (e : Event) : [e].countP k.gathers = (k.gathers e).toNat := by
  rw [List.countP_singleton, Bool.toNat]
  cases k.gathers e <;> rfl

section Serve

variable (s : Stub) (q : Request) (k : Counter)

theorem count_accept :
    (s.accept q).2.metrics.count k = s.metrics.count k +
      match (s.registry.resolve q).1 with
      | none => (k.meets (.unmatched q.method)).toNat
      | some _ => 0 := by
  rcases hr : s.registry.resolve q with ⟨_ | ⟨p, c⟩, r⟩
  · simp [accept, resolve, hr, Metrics.count_addUnmatched]
  · cases hroom : s.journal.hasRoom p.requestType <;> cases c <;>
      simp [accept, resolve, hr, record, Journal.record, hroom, gauge, Metrics.count_setActive]

theorem gauge_accept (hroom : (s.accept q).1 ≠ .error .overflow) (h : s.metrics.gauge = s.active) :
    (s.accept q).2.metrics.gauge = (s.accept q).2.active := by
  rcases hr : s.registry.resolve q with ⟨_ | ⟨p, c⟩, r⟩
  · have hsame : r.size = s.registry.size := by
      cases hf : s.registry.find? q with
      | none =>
        rw [Registry.resolve_of_none hf] at hr
        rw [(Prod.mk.inj hr).2]
      | some p =>
        rw [Registry.resolve_of_some hf] at hr
        cases hr
    simp only [accept, resolve, hr]
    exact h.trans hsame.symm
  · cases hroom' : s.journal.hasRoom p.requestType with
    | false => simp [accept, resolve, hr, record, Journal.record, hroom'] at hroom
    | true =>
      cases c <;> simp [accept, resolve, hr, record, Journal.record, hroom', gauge] <;> rfl

theorem count_finish (p : Predicate) (c : Canned) :
    (s.finish ⟨p.requestType, c⟩).metrics.count k =
      s.metrics.count k + (k.gathers (.served q (.ok c.response) (some (p, some c)))).toNat := by
  rw [Counter.gathers_response]
  by_cases hm : c.millis = 0
  · simp [finish, hm, Metrics.count_addServed]
  · simp [finish, hm, Metrics.count_addServed, Metrics.count_addDelay]
    omega

theorem count_start_settle (t : Stub) (stop : Nat) :
    (s.start q).2.metrics.count k + (t.settle stop (s.start q).1).2.metrics.count k =
      s.metrics.count k + t.metrics.count k +
        (k.gathers (.served q (t.settle stop (s.start q).1).1.result
          (s.registry.resolve q).1)).toNat := by
  have haccept := count_accept s q k
  have hresult := accept_result s q
  rw [start_eq]
  generalize s.accept q = accepted at haccept hresult ⊢
  obtain ⟨x, s'⟩ := accepted
  generalize (s.registry.resolve q).1 = found at haccept hresult ⊢
  obtain rfl : x = acceptance s.journal q found := hresult
  rcases found with _ | ⟨p, c⟩ <;> dsimp only at haccept ⊢
  · dsimp only [acceptance, settle]
    rw [haccept, Counter.gathers_noMatch, Nat.add_right_comm]
  cases hroom : s.journal.hasRoom p.requestType with
  | false =>
    rw [acceptance_of_no_room hroom]
    dsimp only [settle]
    rw [haccept, Counter.gathers_failure _ _ _ (by simp)]
    rfl
  | true =>
    cases c with
    | none =>
      rw [acceptance_of_room_missing hroom]
      dsimp only [settle]
      rw [haccept, Counter.gathers_failure _ _ _ (by simp)]
      rfl
    | some c =>
      rw [acceptance_of_room hroom]
      by_cases hm : c.millis = 0
      · simp only [if_pos hm, settle]
        rw [count_finish s' q, haccept, Nat.add_right_comm]
        rfl
      · simp only [if_neg hm, haccept]
        by_cases hs : s'.stopping = true
        · simp only [if_pos hs, settle]
          rw [Counter.gathers_failure _ _ _ (by simp)]
          rfl
        · simp only [if_neg hs, settle]
          split
          -- interrupted while it waits
          · rw [Counter.gathers_failure _ _ _ (by simp)]
            rfl
          -- counted only now, by the stub that settles it
          · rw [count_finish t q, ← Nat.add_assoc]
            rfl

theorem gauge_finish (p : Pending) : (s.finish p).metrics.gauge = s.metrics.gauge := by
  rw [finish]
  split <;> rfl

theorem settle_start_of_overflow (h : (s.accept q).1 = .error .overflow) (t : Stub) (stop : Nat) :
    (t.settle stop (s.start q).1).1.result = .error .overflow := by
  rw [start_eq]
  generalize s.accept q = accepted at h ⊢
  obtain ⟨x, s'⟩ := accepted
  cases h
  rfl

theorem gauge_start {t : Stub} {stop : Nat}
    (hroom : (t.settle stop (s.start q).1).1.result ≠ .error .overflow)
    (h : s.metrics.gauge = s.active) : (s.start q).2.metrics.gauge = (s.start q).2.active := by
  have haccept := gauge_accept s q (fun ho => hroom (settle_start_of_overflow s q ho t stop)) h
  rw [start_eq]
  generalize s.accept q = accepted at haccept ⊢
  obtain ⟨e | p, s'⟩ := accepted
  · exact haccept
  · dsimp only at haccept ⊢
    split
    · exact (gauge_finish s' p).trans haccept
    · exact haccept

theorem gauge_settle (stop : Nat) (x : Slot) :
    (s.settle stop x).2.metrics.gauge = s.metrics.gauge := by
  cases x with
  | done r => rfl
  | waiting p n =>
    rw [settle]
    split
    · rfl
    · exact gauge_finish s p

theorem overflowed_served_iff {q : Request} {x : Except Failure Response}
    {found : Option (Predicate × Option Canned)} :
    (Event.served q x found).overflowed = false ↔ x ≠ .error .overflow := by
  rcases x with e | r
  · cases e <;> simp [Event.overflowed]
  · simp [Event.overflowed]

theorem settle_start_of_room (h : s.journal.capacity ≤ Journal.maxCapacity) (t : Stub) (stop : Nat) :
    (t.settle stop (s.start q).1).1.result ≠ .error .overflow := by
  rw [start_slot]
  rcases (s.registry.resolve q).1 with _ | ⟨p, _ | c⟩
  · simp [acceptance, settle]
  · rw [acceptance_of_room_missing (Journal.hasRoom_of_le h _)]
    simp [settle]
  · rw [acceptance_of_room (Journal.hasRoom_of_le h _)]
    dsimp only
    split
    · simp [settle]
    · split
      · simp [settle]
      · rw [settle]
        split <;> simp

theorem accounts_serve :
    Accounts s [.served q (s.serve q).1.result (s.registry.resolve q).1] (s.serve q).2 where
  count := by
    intro k
    rw [countP_singleton]
    have h := count_start_settle s q k (s.start q).2 0
    have hserve : (s.start q).2.settle 0 (s.start q).1 = s.serve q := rfl
    rw [hserve] at h
    omega
  gauge := by
    intro hroom h
    have hresult := overflowed_served_iff.1 (hroom _ List.mem_cons_self)
    refine (gauge_settle (s.start q).2 0 (s.start q).1).trans ((gauge_start s q hresult h).trans ?_)
    rw [active, active, serve_registry, start_registry]
  room := by
    intro hc e he
    rw [List.mem_singleton.1 he]
    exact overflowed_served_iff.2 (settle_start_of_room s q hc (s.start q).2 0)
  capacity := (congrArg Journal.capacity (serve_journal s q)).trans (noted_capacity ..)

end Serve

theorem servings_cons (s t : Stub) (stop : Nat) (q : Request) (qs : List Request) :
    s.servings (q :: qs) (t.settleAll stop (s.startAll (q :: qs)).1).1 =
      [.served q (t.settle stop (s.start q).1).1.result (s.registry.resolve q).1] ++
        (s.start q).2.servings qs
          ((t.settle stop (s.start q).1).2.settleAll stop ((s.start q).2.startAll qs).1).1 := rfl

theorem count_startAll_settleAll (s t : Stub) (stop : Nat) (qs : List Request) (k : Counter) :
    (s.startAll qs).2.metrics.count k + (t.settleAll stop (s.startAll qs).1).2.metrics.count k =
      s.metrics.count k + t.metrics.count k +
        (s.servings qs (t.settleAll stop (s.startAll qs).1).1).countP k.gathers := by
  -- While the rest starts and is settled, both stubs go on, so the induction is for any two.
  induction qs generalizing s t with
  | nil => rfl
  | cons q qs ih =>
    have hfirst := count_start_settle s q k t stop
    have hrest := ih (s.start q).2 (t.settle stop (s.start q).1).2
    rw [servings_cons, List.countP_append, countP_singleton, startAll, settleAll]
    dsimp only
    omega

theorem gauge_startAll {s t : Stub} {stop : Nat} {qs : List Request}
    (hroom : ∀ e ∈ s.servings qs (t.settleAll stop (s.startAll qs).1).1, e.overflowed = false)
    (h : s.metrics.gauge = s.active) :
    (s.startAll qs).2.metrics.gauge = (s.startAll qs).2.active := by
  induction qs generalizing s t with
  | nil => exact h
  | cons q qs ih =>
    rw [servings_cons, List.forall_mem_append] at hroom
    have hresult := overflowed_served_iff.1 (hroom.1 _ List.mem_cons_self)
    exact ih hroom.2 (gauge_start s q hresult h)

theorem gauge_settleAll (s : Stub) (stop : Nat) (xs : List Slot) :
    (s.settleAll stop xs).2.metrics.gauge = s.metrics.gauge := by
  induction xs generalizing s with
  | nil => rfl
  | cons x xs ih => exact (ih _).trans (gauge_settle s stop x)

theorem room_servings {s : Stub} (h : s.journal.capacity ≤ Journal.maxCapacity) (t : Stub) (stop : Nat)
    (qs : List Request) : ∀ e ∈ s.servings qs (t.settleAll stop (s.startAll qs).1).1,
      e.overflowed = false := by
  induction qs generalizing s t with
  | nil => nofun
  | cons q qs ih =>
    rw [servings_cons, List.forall_mem_append, List.forall_mem_singleton]
    have hcapacity : (s.start q).2.journal.capacity = s.journal.capacity :=
      startAll_capacity s [q]
    exact ⟨overflowed_served_iff.2 (settle_start_of_room s q h t stop), ih (hcapacity ▸ h) _⟩

theorem accounts_serveAll (s : Stub) (qs : List Request) (stop : Option Nat) :
    Accounts s (s.servings qs (s.serveAll qs stop).1) (s.serveAll qs stop).2 where
  count := by
    intro k
    cases stop with
    | none =>
      have h := count_startAll_settleAll s (s.startAll qs).2 0 qs k
      rw [serveAll]
      dsimp only
      omega
    | some n =>
      have h := count_startAll_settleAll s (s.startAll qs).2.shutdown n qs k
      have hshutdown : (s.startAll qs).2.shutdown.metrics = (s.startAll qs).2.metrics := rfl
      rw [hshutdown] at h
      rw [serveAll]
      dsimp only
      omega
  gauge := by
    intro hroom h
    rw [active, serveAll_registry]
    cases stop with
    | none => exact (gauge_settleAll _ 0 _).trans (gauge_startAll hroom h)
    | some n => exact (gauge_settleAll _ n _).trans (gauge_startAll hroom h)
  room := by
    intro hc
    cases stop with
    | none => exact room_servings hc _ 0 qs
    | some n => exact room_servings hc _ n qs
  capacity := by
    rw [serveAll_journal]
    exact startAll_capacity s qs

theorem accounts_register (s : Stub) (d : RuleDocument) :
    Accounts s [.registered d.lifetime (s.register d).1] (s.register d).2 := by
  refine .of_single rfl (fun k => ?_) (fun h => ?_) (congrArg Journal.capacity (register_journal s d))
  · rw [Counter.gathers_registered, register]
    cases d.predicate with
    | error e => exact Metrics.count_addRegistration ..
    | ok p => exact (Metrics.count_setActive ..).trans (Metrics.count_addRegistration ..)
  · rw [register]
    cases d.predicate with
    | error e => exact h
    | ok p => rfl

theorem accounts_call (s : Stub) (x : Op) : Accounts s (x.events s) (x.call s).2 := by
  have hcapacity := call_capacity s x
  cases x with
  | register d => exact accounts_register s d
  | serve q => exact accounts_serve s q
  | lastRequest type =>
    refine .of_single rfl (fun k => ?_) id hcapacity
    rw [Counter.gathers_lookedUp]
    exact Metrics.count_addLookup ..
  | reset =>
    refine .of_single rfl (fun k => ?_) (fun _ => rfl) hcapacity
    rw [Counter.gathers_reset]
    exact (Metrics.count_setActive ..).trans (Metrics.count_addReset ..)
  | shutdown => exact ⟨fun _ => rfl, fun _ => id, nofun, rfl⟩

theorem accounts_after (s : Stub) (xs : List Op) : Accounts s (s.events xs) (s.after xs) := by
  induction xs generalizing s with
  | nil => exact .refl s
  | cons x xs ih => exact (accounts_call s x).trans (ih _)

theorem accounts_run (s : Stub) (x : Call) : Accounts s (x.events s) (x.run s) := by
  cases x with
  | op x => exact accounts_call s x
  | serveAll qs stop => exact accounts_serveAll s qs stop
  | loadPresets root dir =>
    rw [Call.run, loadPresets_eq_after]
    exact accounts_after s _

theorem accounts_afterCalls (s : Stub) (xs : List Call) :
    Accounts s (s.history xs) (s.afterCalls xs) := by
  induction xs generalizing s with
  | nil => exact .refl s
  | cons x xs ih => exact (accounts_run s x).trans (ih _)

def ended (log : List Event) : Nat :=
  log.countP Counter.servedAll.gathers + log.countP Counter.unmatchedAll.gathers +
    log.countP Event.interrupted + log.countP Event.overflowed

theorem ended_append (log log' : List Event) : ended (log ++ log') = ended log + ended log' := by
  simp only [ended, List.countP_append]
  omega

theorem Reachable.ended_served {s : Stub} (h : s.Reachable) (q : Request) (t : Stub) (stop : Nat) :
    ended [.served q (t.settle stop (s.start q).1).1.result (s.registry.resolve q).1] = 1 := by
  rw [start_slot]
  rcases hr : (s.registry.resolve q).1 with _ | ⟨p, _ | c⟩
  · rfl
  · cases h.sound.isSome_of_resolve hr
  · cases hroom : s.journal.hasRoom p.requestType with
    | false =>
      rw [acceptance_of_no_room hroom]
      rfl
    | true =>
      rw [acceptance_of_room hroom]
      dsimp only
      split
      · rfl
      · split
        · rfl
        · rw [settle]
          split <;> rfl

theorem Reachable.ended_servings {s : Stub} (h : s.Reachable) (t : Stub) (stop : Nat)
    (qs : List Request) :
    ended (s.servings qs (t.settleAll stop (s.startAll qs).1).1) = qs.length := by
  induction qs generalizing s t with
  | nil => rfl
  | cons q qs ih =>
    have hrest := ih (h.start q) (t.settle stop (s.start q).1).2
    rw [servings_cons, ended_append, h.ended_served, hrest, List.length_cons, Nat.add_comm]

theorem ended_registers (s : Stub) (ds : List RuleDocument) :
    ended (s.events (ds.map .register)) = 0 := by
  induction ds generalizing s with
  | nil => rfl
  | cons d ds ih => exact (ended_append _ _).trans ((Nat.zero_add _).trans (ih _))

theorem Reachable.ended_call {s : Stub} (h : s.Reachable) (x : Call) :
    ended (x.events s) = x.serves := by
  cases x with
  | op x =>
    cases x with
    | serve q => exact h.ended_served q (s.start q).2 0
    | _ => rfl
  | serveAll qs stop =>
    cases stop with
    | none => exact h.ended_servings _ 0 qs
    | some n => exact h.ended_servings _ n qs
  | loadPresets root dir => exact ended_registers s _

theorem Reachable.run {s : Stub} (h : s.Reachable) (x : Call) : (x.run s).Reachable := by
  cases x with
  | op x => exact h.call x
  | serveAll qs stop =>
    exact (h.startAll qs).congr (serveAll_registry s qs stop) (serveAll_journal s qs stop)
  | loadPresets root dir =>
    rw [Call.run, loadPresets_eq_after]
    exact h.after _

theorem Reachable.ended_history {s : Stub} (h : s.Reachable) (xs : List Call) :
    ended (s.history xs) = (xs.map Call.serves).sum := by
  induction xs generalizing s with
  | nil => rfl
  | cons x xs ih =>
    rw [history, ended_append, h.ended_call, ih (h.run x), List.map_cons, List.sum_cons]

/-- After any run of calls on a new stub whose metrics tell nothing yet, every counter tells how many
events of the run it gathers. It counts no other events if it is alone with them, as all are that do not
tell of single types, statuses or methods. Every request that was served is told of as answered or as
unmatched, unless its wait was interrupted or there was no room for it. The gauge tells how many rules are
registered if there was always room. -/
theorem metrics_account_for_calls (capacity : Nat) {m : Metrics} (hm : m = .blank ∨ m = .zero)
    (xs : List Call) :
    let s := (new capacity m).afterCalls xs
    let log := (new capacity m).history xs
    ((∀ e ∈ log, e.overflowed = false) → s.metrics.gauge = s.active) ∧
      (∀ k : Counter, s.metrics.count k = log.countP k.gathers ∧
        (k.Alone log → s.metrics.count k = log.countP k.counts) ∧
        (k.shares = false → k.Alone log)) ∧
      (xs.map Call.serves).sum =
        s.metrics.count .servedAll + s.metrics.count .unmatchedAll + log.countP Event.interrupted +
          log.countP Event.overflowed ∧
      (max capacity 1 ≤ Journal.maxCapacity → ∀ e ∈ log, e.overflowed = false) := by
  intro s log
  have h := accounts_afterCalls (new capacity m) xs
  have hcount : ∀ k, s.metrics.count k = log.countP k.gathers := by
    intro k
    have hnone : m.count k = 0 := by
      rcases hm with rfl | rfl <;> cases k <;> rfl
    rw [h.count]
    exact (congrArg (· + log.countP k.gathers) hnone).trans (Nat.zero_add _)
  refine ⟨fun hroom => h.gauge hroom ?_, fun k => ⟨hcount k, fun halone => ?_, Counter.alone_of_shares⟩, ?_,
    h.room⟩
  · rcases hm with rfl | rfl <;> rfl
  · rw [hcount, halone.countP]
  · rw [← (Reachable.new capacity m).ended_history xs, hcount, hcount]
    rfl

/-- An order that is answered after a delay; then another, which takes a rule for one use and whose wait
is interrupted, at the same time as a request that finds no rule. A document is refused in between, and
a reset keeps the first rule and drops what is recorded. -/
theorem metrics_account_for_calls_orders :
    let always := { Predicate.ordersDocument 1 .forever with delay := some ⟨10⟩ }
    let once := { Predicate.ordersDocument 5 .singleUse with delay := some ⟨50⟩ }
    let other : Request := { Request.blank with method := "GET" }
    let q : Request := { other with url := "/order/1" }
    let xs : List Call := [.op (.register always), .op (.serve q), .op (.register once),
      .op (.register .blank), .serveAll [q, other] (some 20), .op (.lastRequest "Order"), .op .reset,
      .op (.lastRequest "Order")]
    let s := (new 10 .zero).afterCalls xs
    s.metrics.gauge = 1 ∧
      s.metrics.count (.served "Order" 200) = 1 ∧ s.metrics.count (.delayed "Order") = 1 ∧
      s.metrics.count (.unmatched "GET") = 1 ∧
      s.metrics.count (.registered .forever true) = 1 ∧
      s.metrics.count (.registered .singleUse true) = 1 ∧
      s.metrics.count (.registered .forever false) = 1 ∧
      s.metrics.count (.lookedUp true) = 1 ∧ s.metrics.count (.lookedUp false) = 1 ∧
      3 = s.metrics.count .servedAll + s.metrics.count .unmatchedAll + 1 := by
  intro always once other q xs s
  obtain ⟨hgauge, hcount, hserves, hroom⟩ := metrics_account_for_calls 10 (.inr rfl) xs
  have hnever := hroom (by decide)
  have hactive : s.active = 1 := by decide +kernel
  have hinterrupted : ((new 10 .zero).history xs).countP Event.interrupted = 1 := by decide +kernel
  have hoverflowed : ((new 10 .zero).history xs).countP Event.overflowed = 0 :=
    List.countP_eq_zero.2 fun e he => Bool.eq_false_iff.1 (hnever e he)
  rw [hinterrupted, hoverflowed] at hserves
  refine ⟨(hgauge hnever).trans hactive, ?_, ?_, ?_, ?_, ?_, ?_, ?_, ?_, hserves⟩
  all_goals
    rw [(hcount _).1]
    decide +kernel

/-- One response of a rule for `T` with the status 1200 and one of a rule for `T1` with the status 200 are
told as two of the first, and none of the second. -/
theorem metrics_account_for_calls_shared :
    let rule (type line : String) (status : UInt16) : RuleDocument :=
      { RuleDocument.blank with
        declaration := ⟨type, [line]⟩
        response := { Response.default with status := status } }
    let q (url : String) : Request := { Request.blank with url := url }
    let xs : List Call := [.op (.register (rule "T" "url is '/t'" 1200)),
      .op (.register (rule "T1" "url is '/t1'" 200)), .op (.serve (q "/t")), .op (.serve (q "/t1"))]
    let log := (new 10 .zero).history xs
    ((new 10 .zero).afterCalls xs).metrics.served = [⟨["T", "1200"], 2⟩] ∧
      log.countP (Counter.served "T" 1200).counts = 1 ∧
      log.countP (Counter.served "T1" 200).counts = 1 := by
  decide +kernel

end Stub
end StubHttp
