import StubHttp.Http.Routes
import StubHttp.Proofs.Http.Pairs
import StubHttp.Proofs.Journal
import StubHttp.Proofs.Stub.Run

/-!
# Requests that fail

A request that fails leaves the stub `Alike`: a rule document that cannot be read or has no predicate,
a question for a last request that has no type or no answer, and traffic with an unreadable body or
without a rule. So requests that fail can be left out of a conversation, and all others are answered
as before.
-/
namespace StubHttp

theorem Route.ofRequest_of_preset {r : HttpRequest} (hm : r.method = "POST")
    (hp : r.target.path = "/presetResponse") : Route.ofRequest r = .preset := by
  simp [ofRequest, hm, hp]

theorem Route.ofRequest_of_lastRequest {r : HttpRequest} (hm : r.method = "GET")
    (hp : r.target.path = "/applicationRequest") : Route.ofRequest r = .lastRequest := by
  simp [ofRequest, hm, hp]

def HttpRequest.Presets (r : HttpRequest) (d : RuleDocument) (p : Predicate) : Prop :=
  ∃ bytes, r.body = .ok bytes ∧ RuleDocument.reader.parse (Utf8.pieces bytes) = .ok d ∧
    d.predicate = .ok p

namespace Stub

theorem documentOf_eq_ok_iff {r : HttpRequest} {d : RuleDocument} :
    documentOf r = .ok d ↔
      ∃ bytes, r.body = .ok bytes ∧ RuleDocument.reader.parse (Utf8.pieces bytes) = .ok d := by
  rw [documentOf]
  cases hb : r.body with
  | error e => simp
  | ok bytes =>
    cases hd : RuleDocument.reader.parse (Utf8.pieces bytes) with
    | error e => simp [hd]
    | ok d' => simp [hd]

theorem presets_iff {r : HttpRequest} {d : RuleDocument} {p : Predicate} :
    r.Presets d p ↔ documentOf r = .ok d ∧ d.predicate = .ok p := by
  rw [documentOf_eq_ok_iff]
  constructor
  · rintro ⟨bytes, hb, hd, hp⟩
    exact ⟨⟨bytes, hb, hd⟩, hp⟩
  · rintro ⟨⟨bytes, hb, hd⟩, hp⟩
    exact ⟨bytes, hb, hd, hp⟩

variable {s t : Stub} {r : HttpRequest} {header : String}

theorem register_alike {d : RuleDocument} {e : Failure} (h : d.predicate = .error e) :
    Alike s (s.register d).2 := by
  rw [register, h]
  exact ⟨rfl, rfl, rfl⟩

theorem answerPreset_of_document {d : RuleDocument} (h : documentOf r = .ok d) :
    s.answerPreset r =
      (match (s.register d).1 with
        | .ok () => .plain 200 ""
        | .error e => .error 400 e.message, (s.register d).2) := by
  rw [answerPreset, h]
  dsimp only
  rcases s.register d with ⟨_ | ⟨⟩, s'⟩ <;> rfl

theorem answerPreset_of_presets {d : RuleDocument} {p : Predicate} (h : r.Presets d p) :
    (s.answerPreset r).1.status = 200 ∧
      (s.answerPreset r).2.registry = s.registry.register p d.canned := by
  obtain ⟨hd, hp⟩ := presets_iff.1 h
  obtain ⟨hresult, hregistry⟩ := register_of_ok (s := s) hp
  rw [answerPreset_of_document hd, hresult]
  exact ⟨rfl, hregistry⟩

theorem answerPreset_of_forall_not (h : ∀ d p, ¬ r.Presets d p) :
    (s.answerPreset r).1.status = 400 ∧ Alike s (s.answerPreset r).2 := by
  cases hd : documentOf r with
  | error message =>
    rw [answerPreset, hd]
    exact ⟨rfl, .refl s⟩
  | ok d =>
    cases hp : d.predicate with
    | ok p => exact absurd (presets_iff.2 ⟨hd, hp⟩) (h d p)
    | error e =>
      rw [answerPreset_of_document hd, (register_of_error hp).1]
      exact ⟨rfl, register_alike hp⟩

/-- The value of the first pair in the query that is named so, unless it is empty. -/
def requestType? (r : HttpRequest) : Option String :=
  (((r.target.query.map Query.pairs).getD []).lookup "requestType").filter (· ≠ "")

theorem answerLastRequest_of_none (h : requestType? r = none) :
    (s.answerLastRequest r).1.status = 400 ∧ (s.answerLastRequest r).2 = s := by
  rw [answerLastRequest]
  split
  case h_1 => exact ⟨rfl, rfl⟩
  case h_2 => exact ⟨rfl, rfl⟩
  case h_3 type hne htype =>
    rw [requestType?, ← Query.param?_eq_lookup, htype,
      Option.filter_some_pos (by simpa using hne)] at h
    cases h

theorem answerLastRequest_of_some {type : String} (h : requestType? r = some type) :
    (s.answerLastRequest r).1.status = (if (s.lastRequest type).1.isSome then 200 else 404) ∧
      (s.answerLastRequest r).2 = (s.lastRequest type).2 := by
  obtain ⟨htype, hne⟩ := Option.filter_eq_some_iff.1 h
  rw [answerLastRequest, Query.param?_eq_lookup, htype]
  split
  case h_1 h => cases h
  case h_2 h =>
    cases h
    exact absurd hne (by decide)
  case h_3 type' hne' h =>
    cases h
    rcases s.lastRequest type with ⟨_ | q, s'⟩ <;> exact ⟨rfl, rfl⟩

theorem lastRequest_of_held_nil {type : String} (h : s.journal.held type = []) :
    s.lastRequest type = (none, { s with metrics := s.metrics.addLookup false }) := by
  rw [lastRequest, Journal.takeLast, h]
  rfl

theorem lastRequest_of_held {type : String} (h : s.journal.held type ≠ []) :
    (s.lastRequest type).1.isSome = true := by
  have hresult : (s.lastRequest type).1 = (s.journal.held type).head? :=
    Journal.takeLast_result s.journal type
  rw [hresult, List.isSome_head?]
  simpa using h

theorem serve_of_forall {q : Request} (h : ∀ p ∈ s.registry.order, p.accepts q = false) :
    (s.serve q).1 = ⟨.error (.noMatch q), 0⟩ ∧ Alike s (s.serve q).2 := by
  have hfind : s.registry.find? q = none :=
    List.find?_eq_none.2 fun p hp => Bool.eq_false_iff.1 (h p hp)
  have hresolve := Registry.resolve_of_none hfind
  refine ⟨?_, ?_, ?_, (serve_stopping s q).symm⟩
  · rw [serve_result, hresolve]
    rfl
  · rw [serve_registry, hresolve]
  · rw [serve_journal, hresolve]
    rfl

theorem answerTraffic_of_error {e : String} (h : r.body = .error e) :
    (s.answerTraffic header r).1.map (·.status) = some 400 ∧ (s.answerTraffic header r).2 = s := by
  rw [answerTraffic, h]
  exact ⟨rfl, rfl⟩

theorem answerTraffic_of_forall {bytes : List UInt8} (hb : r.body = .ok bytes)
    (h : ∀ p ∈ s.registry.order, p.accepts (r.capture header bytes) = false) :
    (s.answerTraffic header r).1.map (·.status) = some 404 ∧
      Alike s (s.answerTraffic header r).2 := by
  obtain ⟨hresult, halike⟩ := serve_of_forall h
  rw [answerTraffic, hb]
  dsimp only
  rcases hs : s.serve (r.capture header bytes) with ⟨x, s'⟩
  rw [hs] at hresult halike
  subst hresult
  exact ⟨rfl, halike⟩

theorem answer_of_preset (header : String) (h : Route.ofRequest r = .preset) :
    s.answer header r = (some (s.answerPreset r).1, (s.answerPreset r).2) := by
  rw [answer, h]
  rfl

theorem answer_of_reset (header : String) (h : Route.ofRequest r = .reset) :
    s.answer header r = (some (.plain 200 ""), s.reset) := by
  rw [answer, h]

theorem answer_of_lastRequest (header : String) (h : Route.ofRequest r = .lastRequest) :
    s.answer header r = (some (s.answerLastRequest r).1, (s.answerLastRequest r).2) := by
  rw [answer, h]
  rfl

theorem answer_of_traffic (header : String) (h : Route.ofRequest r = .traffic) :
    s.answer header r = s.answerTraffic header r := by
  rw [answer, h]

def status? (header : String) (s : Stub) (r : HttpRequest) : Option Nat :=
  (s.answer header r).1.map (·.status)

def answerAll (header : String) (s : Stub) : List HttpRequest → List (Option HttpResponse)
  | [] => []
  | r :: rs => (s.answer header r).1 :: (s.answer header r).2.answerAll header rs

theorem Alike.answerPreset (h : Alike s t) (r : HttpRequest) :
    (s.answerPreset r).1 = (t.answerPreset r).1 ∧
      Alike (s.answerPreset r).2 (t.answerPreset r).2 := by
  cases hd : documentOf r with
  | error message =>
    rw [Stub.answerPreset, Stub.answerPreset, hd]
    exact ⟨rfl, h⟩
  | ok d =>
    obtain ⟨hanswer, halike⟩ := h.call (.register d)
    have hresult : (s.register d).1 = (t.register d).1 := Answer.registered.inj hanswer
    rw [answerPreset_of_document hd, answerPreset_of_document hd, hresult]
    exact ⟨rfl, halike⟩

theorem Alike.answerLastRequest (h : Alike s t) (r : HttpRequest) :
    (s.answerLastRequest r).1 = (t.answerLastRequest r).1 ∧
      Alike (s.answerLastRequest r).2 (t.answerLastRequest r).2 := by
  rw [Stub.answerLastRequest, Stub.answerLastRequest]
  split
  case h_1 => exact ⟨rfl, h⟩
  case h_2 => exact ⟨rfl, h⟩
  case h_3 type _ _ =>
    obtain ⟨hanswer, halike⟩ := h.call (.lastRequest type)
    have hresult : (s.lastRequest type).1 = (t.lastRequest type).1 := Answer.last.inj hanswer
    change Alike (s.lastRequest type).2 (t.lastRequest type).2 at halike
    rcases hs : s.lastRequest type with ⟨x, s'⟩
    rcases ht : t.lastRequest type with ⟨y, t'⟩
    rw [hs, ht] at hresult halike
    subst hresult
    cases x <;> exact ⟨rfl, halike⟩

theorem Alike.answerTraffic (h : Alike s t) (header : String) (r : HttpRequest) :
    (s.answerTraffic header r).1 = (t.answerTraffic header r).1 ∧
      Alike (s.answerTraffic header r).2 (t.answerTraffic header r).2 := by
  rw [Stub.answerTraffic, Stub.answerTraffic]
  cases r.body with
  | error e => exact ⟨rfl, h⟩
  | ok bytes =>
    obtain ⟨hanswer, halike⟩ := h.call (.serve (r.capture header bytes))
    have hresult := Answer.served.inj hanswer
    change Alike (s.serve _).2 (t.serve _).2 at halike
    dsimp only
    rcases hs : s.serve (r.capture header bytes) with ⟨x, s'⟩
    rcases ht : t.serve (r.capture header bytes) with ⟨y, t'⟩
    rw [hs, ht] at hresult halike
    subst hresult
    rcases x with ⟨_ | _, _⟩ <;> exact ⟨rfl, halike⟩

theorem Alike.answer (h : Alike s t) (header : String) (r : HttpRequest) :
    (s.answer header r).1 = (t.answer header r).1 ∧
      Alike (s.answer header r).2 (t.answer header r).2 := by
  cases hroute : Route.ofRequest r with
  | preset =>
    obtain ⟨hresponse, halike⟩ := h.answerPreset r
    rw [answer_of_preset header hroute, answer_of_preset header hroute]
    exact ⟨congrArg some hresponse, halike⟩
  | reset =>
    rw [answer_of_reset header hroute, answer_of_reset header hroute]
    exact ⟨rfl, (h.call .reset).2⟩
  | lastRequest =>
    obtain ⟨hresponse, halike⟩ := h.answerLastRequest r
    rw [answer_of_lastRequest header hroute, answer_of_lastRequest header hroute]
    exact ⟨congrArg some hresponse, halike⟩
  | traffic =>
    rw [answer_of_traffic header hroute, answer_of_traffic header hroute]
    exact h.answerTraffic header r

/-- So a request that leaves the stub alike can be left out: all others are answered as before. -/
theorem Alike.answerAll (h : Alike s t) (header : String) (rs : List HttpRequest) :
    s.answerAll header rs = t.answerAll header rs := by
  induction rs generalizing s t with
  | nil => rfl
  | cons r rs ih =>
    obtain ⟨hresponse, halike⟩ := h.answer header r
    rw [Stub.answerAll, Stub.answerAll, hresponse, ih halike]

/-- A rule document is registered exactly if it can be read and has a predicate. Without a type, a
question for a last request is refused, and one that finds nothing is only counted. Traffic that cannot
be read or that no rule accepts is not served. All that fails leaves rules and recorded requests as
they are. -/
theorem failed_request_changes_nothing (header : String) (s : Stub) (r : HttpRequest) :
    (r.method = "POST" → r.target.path = "/presetResponse" →
      (s.status? header r = some 200 ↔ ∃ d p, r.Presets d p) ∧
      (s.status? header r ≠ some 200 →
        s.status? header r = some 400 ∧ Alike s (s.answer header r).2)) ∧
    (r.method = "GET" → r.target.path = "/applicationRequest" →
      match requestType? r with
      | none => s.status? header r = some 400 ∧ (s.answer header r).2 = s
      | some type =>
        if s.journal.held type = [] then
          s.status? header r = some 404 ∧
            (s.answer header r).2 = { s with metrics := s.metrics.addLookup false }
        else s.status? header r = some 200) ∧
    (Route.ofRequest r = .traffic →
      match r.body with
      | .error _ => s.status? header r = some 400 ∧ (s.answer header r).2 = s
      | .ok bytes =>
        (∀ p ∈ s.registry.order, p.accepts (r.capture header bytes) = false) →
          s.status? header r = some 404 ∧ Alike s (s.answer header r).2) := by
  refine ⟨fun hm hp => ?_, fun hm hp => ?_, fun hroute => ?_⟩
  · rw [status?, answer_of_preset header (Route.ofRequest_of_preset hm hp)]
    dsimp only [Option.map_some]
    by_cases h : ∃ d p, r.Presets d p
    · obtain ⟨d, p, hd⟩ := h
      have hstatus := (answerPreset_of_presets (s := s) hd).1
      rw [hstatus]
      exact ⟨iff_of_true rfl ⟨d, p, hd⟩, fun hne => absurd rfl hne⟩
    · obtain ⟨hstatus, halike⟩ :=
        answerPreset_of_forall_not (s := s) fun d p hd => h ⟨d, p, hd⟩
      rw [hstatus]
      exact ⟨iff_of_false (by decide) h, fun _ => ⟨rfl, halike⟩⟩
  · rw [status?, answer_of_lastRequest header (Route.ofRequest_of_lastRequest hm hp)]
    dsimp only [Option.map_some]
    cases htype : requestType? r with
    | none =>
      obtain ⟨hstatus, hstate⟩ := answerLastRequest_of_none (s := s) htype
      exact ⟨congrArg some hstatus, hstate⟩
    | some type =>
      obtain ⟨hstatus, hstate⟩ := answerLastRequest_of_some (s := s) htype
      dsimp only
      split
      case isTrue hheld =>
        rw [lastRequest_of_held_nil hheld] at hstatus hstate
        exact ⟨congrArg some hstatus, hstate⟩
      case isFalse hheld =>
        rw [lastRequest_of_held hheld] at hstatus
        exact congrArg some hstatus
  · rw [status?, answer_of_traffic header hroute]
    cases hb : r.body with
    | error e => exact answerTraffic_of_error hb
    | ok bytes => exact answerTraffic_of_forall hb

theorem failed_request_changes_nothing_orders :
    let s : Stub := { Stub.new 10 .blank with registry := .after [.offer 5 .singleUse 0] }
    let preset : HttpRequest := ⟨"POST", ⟨"/presetResponse", none⟩, [], .error "reset"⟩
    let untyped : HttpRequest := ⟨"GET", ⟨"/applicationRequest", none⟩, [], .ok []⟩
    let other : HttpRequest := ⟨"GET", ⟨"/", none⟩, [], .ok []⟩
    (s.status? "" preset = some 400 ∧ Alike s (s.answer "" preset).2) ∧
      (s.status? "" untyped = some 400 ∧ (s.answer "" untyped).2 = s) ∧
      s.status? "" other = some 404 ∧ Alike s (s.answer "" other).2 := by
  intro s preset untyped other
  obtain ⟨hiff, hfailed⟩ := (failed_request_changes_nothing "" s preset).1 rfl rfl
  have hpreset : s.status? "" preset ≠ some 200 := by
    intro h
    obtain ⟨d, p, bytes, hbytes, -⟩ := hiff.1 h
    cases hbytes
  have hother : ∀ p ∈ s.registry.order, p.accepts (other.capture "" []) = false := by
    intro p hp
    have horder : p = Predicate.orders 5 .singleUse := List.mem_singleton.1 hp
    rw [horder]
    decide
  exact ⟨hfailed hpreset, (failed_request_changes_nothing "" s untyped).2.1 rfl rfl,
    (failed_request_changes_nothing "" s other).2.2 rfl hother⟩

end Stub
end StubHttp
