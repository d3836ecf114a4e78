import StubHttp.Proofs.Registry.Run
import StubHttp.Proofs.Stub.Serve

/-!
# Reachable stubs

Calls on a stub are made of steps, each under one lock. A reachable stub is what steps of any number
of calls, in any order, make of a new one. Its registry is the outcome of a run, so what holds after
every run of a registry holds of every reachable stub.
-/
namespace StubHttp

namespace Stub

inductive Step (s : Stub) : Stub → Prop
  | register (d : RuleDocument) : Step s (s.register d).2
  | resolve (q : Request) : Step s (s.resolve q).2
  | record {p : Predicate} {q : Request} {s' : Stub} (h : s.record p q = some s') : Step s s'
  | dropRules : Step s s.dropRules
  | forget : Step s s.forget
  | lastRequest (type : String) : Step s (s.lastRequest type).2
  | count (m : Metrics) : Step s { s with metrics := m }
  | signal (x : Signal) : Step s { s with signal := x }

inductive Reachable : Stub → Prop
  | new (capacity : Nat) (metrics : Metrics) : Reachable (.new capacity metrics)
  | step {s s' : Stub} (h : Reachable s) (hs : Step s s') : Reachable s'

namespace Reachable

variable {s t : Stub}

theorem congr (h : s.Reachable) (hr : t.registry = s.registry) (hj : t.journal = s.journal) :
    t.Reachable := by
  have hm := (h.step (.count t.metrics)).step (.signal t.signal)
  rw [← hr, ← hj] at hm
  exact hm

theorem serve (h : s.Reachable) (q : Request) : (s.serve q).2.Reachable := by
  have hresolve : (s.resolve q).2.Reachable := h.step (.resolve q)
  rcases hr : (s.registry.resolve q).1 with _ | ⟨p, k⟩
  · exact hresolve.congr (serve_registry s q) (by rw [serve_journal, hr]; rfl)
  · cases hj : s.journal.record p.requestType q with
    | none =>
      exact hresolve.congr (serve_registry s q) (by rw [serve_journal, hr, noted, hj]; rfl)
    | some j =>
      have hrecord : (s.resolve q).2.record p q =
          some (gauge { (s.resolve q).2 with journal := j }) := congrArg (Option.map _) hj
      exact (hresolve.step (.record hrecord)).congr (serve_registry s q)
        (by rw [serve_journal, hr, noted, hj]; rfl)

theorem reset (h : s.Reachable) : s.reset.Reachable :=
  ((h.step .dropRules).step .forget).congr rfl rfl

theorem shutdown (h : s.Reachable) : s.shutdown.Reachable := h.step (.signal _)

end Reachable

end Stub

theorem RuleDocument.declared_of_predicate {d : RuleDocument} {p : Predicate}
    (h : d.predicate = .ok p) : Predicate.ofDocument d = .ok p := by
  unfold RuleDocument.predicate at h
  split at h
  case h_1 o ho =>
    cases h
    exact ho
  case h_2 => cases h

namespace Stub

theorem register_of_error {s : Stub} {d : RuleDocument} {e : Failure} (h : d.predicate = .error e) :
    (s.register d).1 = .error e ∧ (s.register d).2.registry = s.registry := by
  rw [register, h]
  exact ⟨rfl, rfl⟩

theorem register_of_ok {s : Stub} {d : RuleDocument} {p : Predicate} (h : d.predicate = .ok p) :
    (s.register d).1 = .ok () ∧ (s.register d).2.registry = s.registry.register p d.canned := by
  rw [register, h]
  exact ⟨rfl, rfl⟩

theorem Reachable.exists_run {s : Stub} (h : s.Reachable) :
    ∃ ops, s.registry = Registry.after ops := by
  induction h with
  | new capacity metrics => exact ⟨[], rfl⟩
  | @step s s' h hs ih =>
    obtain ⟨ops, hops⟩ := ih
    cases hs with
    | register d =>
      cases hd : d.predicate with
      | error e => exact ⟨ops, (register_of_error hd).2.trans hops⟩
      | ok p =>
        refine ⟨ops ++ [.register p ⟨d, RuleDocument.declared_of_predicate hd⟩ d.canned], ?_⟩
        rw [(register_of_ok hd).2, hops, Registry.after_concat]
        rfl
    | resolve q =>
      refine ⟨ops ++ [.resolve q], ?_⟩
      rw [Registry.after_concat, ← hops]
      rfl
    | dropRules =>
      refine ⟨ops ++ [.reset], ?_⟩
      rw [Registry.after_concat, ← hops]
      rfl
    | lastRequest type => exact ⟨ops, hops⟩
    | record hrecord =>
      rw [Stub.record_eq_some hrecord]
      exact ⟨ops, hops⟩
    | forget => exact ⟨ops, hops⟩
    | count m => exact ⟨ops, hops⟩
    | signal x => exact ⟨ops, hops⟩

theorem Reachable.sound {s : Stub} (h : s.Reachable) : s.registry.Sound := by
  obtain ⟨ops, hops⟩ := h.exists_run
  rw [hops]
  exact Registry.sound_after ops

end Stub

theorem Stub.Reachable.serve_ne_noResponse {s : Stub} (h : s.Reachable) (q : Request) (m : String) :
    (s.serve q).1.result ≠ .error (.noResponse m) := by
  obtain ⟨ops, hops⟩ := h.exists_run
  have hsound := Registry.sound_after ops
  rw [serve_result, hops]
  rcases hr : ((Registry.after ops).resolve q).1 with _ | ⟨p, _ | c⟩
  · simp [acceptance, outcome]
  · have := hsound.isSome_of_resolve hr
    cases this
  · cases hroom : s.journal.hasRoom p.requestType with
    | false => simp [acceptance_of_no_room hroom, outcome]
    | true =>
      rw [acceptance_of_room hroom, outcome]
      dsimp only
      split
      · simp
      · split <;> simp

/-- After any run of a registry the order and the shelf belong together: priorities do not rise, no
two predicates are the same, priorities start at one, and the shelf has a response for each predicate
and for no other. So nothing is resolved without its response, a response is missing only for a
predicate that is not registered, and no reachable stub misses one. -/
theorem order_and_shelf_agree (ops : List Registry.Op) :
    (Registry.after ops).order.Pairwise (fun p q => q.priority ≤ p.priority) ∧
      (Registry.after ops).order.Pairwise (fun p q => p.same q = false) ∧
      (∀ p ∈ (Registry.after ops).order, 1 ≤ p.priority) ∧
      ((Registry.after ops).shelf.map (·.1)).Perm ((Registry.after ops).order.map (·.identity)) ∧
      (∀ q p k, ((Registry.after ops).resolve q).1 = some (p, k) → k.isSome = true) ∧
      (∀ p, ((Registry.after ops).consumeOrFail p).1 = .error (.noResponse p.render) ↔
        ∀ o ∈ (Registry.after ops).order, o.same p = false) ∧
      ∀ s : Stub, s.Reachable → ∀ q m, (s.serve q).1.result ≠ .error (.noResponse m) := by
  have h := Registry.sound_after ops
  refine ⟨h.descending, ?_, fun p hp => (h.declared p hp).one_le_priority, h.keyed,
    fun q p k => h.isSome_of_resolve,
    fun p => Registry.consumeOrFail_eq_error_iff.trans h.canned?_eq_none_iff,
    fun s hs => hs.serve_ne_noResponse⟩
  refine (List.pairwise_map.1 h.distinct).imp fun hne => ?_
  simpa [Predicate.same] using hne

/-- Two rules for orders, the lower one with its priority raised to one, after a predicate was consumed
that is not registered; and a stub with one of them. -/
theorem order_and_shelf_agree_orders :
    let low := Predicate.orders (-3) .forever
    let high := Predicate.orders 5 .singleUse
    let other := Predicate.orders 7 .forever
    let q : Request := { Request.blank with url := "/order/1" }
    let r := Registry.after
      [.offer (-3) .forever 0, .offer 5 .singleUse 1, .consume other]
    let s := ((Stub.new 1 .blank).register (Predicate.ordersDocument 5 .singleUse)).2
    low ∈ r.order ∧ 1 ≤ low.priority ∧
      (∃ k, (r.resolve q).1 = some (high, k) ∧ k.isSome = true) ∧
      (r.consumeOrFail other).1 = .error (.noResponse other.render) ∧
      s.Reachable ∧ (s.serve q).1.result ≠ .error (.noResponse high.render) := by
  intro low high other q r s
  have horder : r.order = [high, low] := by rfl
  have hlow : low ∈ r.order := by rw [horder]; exact .tail _ (.head _)
  have hq : high.accepts q = true := by decide
  have hfind : r.find? q = some high := List.find?_cons_of_pos (l := [low]) hq
  have hresolve : (r.resolve q).1 = some (high, r.canned? high) := by
    rw [Registry.resolve_of_some hfind]
  have hs : s.Reachable := (Stub.Reachable.new 1 .blank).step (.register _)
  have hother : ∀ o ∈ r.order, o.same other = false := by
    rw [horder]
    decide
  obtain ⟨-, -, hpriority, -, hsome, hmissing, hserve⟩ := order_and_shelf_agree
    [.offer (-3) .forever 0, .offer 5 .singleUse 1, .consume other]
  exact ⟨hlow, hpriority low hlow, ⟨_, hresolve, hsome q high _ hresolve⟩,
    (hmissing other).2 hother, hs, hserve s hs q _⟩

end StubHttp
