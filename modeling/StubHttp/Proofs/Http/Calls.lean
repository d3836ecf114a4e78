import StubHttp.Proofs.Http.Refusal
import StubHttp.Proofs.RuleDocument
import StubHttp.Server

/-!
# Requests as calls

A request on the main surface stands for one call on the stub or, if it has nothing to be called with,
for none. A request on the monitoring surface stands for none. So a conversation on both surfaces does
to rules and recorded requests what its calls do, and requests on the monitoring surface can be left
out of it.
-/
namespace StubHttp

theorem Route.ofRequest_eq (r : HttpRequest) :
    ofRequest r =
      if r.method = "POST" ∧ r.target.path = "/presetResponse" then .preset
      else if r.method = "DELETE" ∧ r.target.path = "/reset" then .reset
      else if r.method = "GET" ∧ r.target.path = "/applicationRequest" then .lastRequest
      else .traffic := by
  unfold ofRequest
  split
  case h_1 hm hp => rw [if_pos ⟨hm, hp⟩]
  case h_2 hm hp => rw [hm, if_neg (by simp), if_pos ⟨rfl, hp⟩]
  case h_3 hm hp => rw [hm, if_neg (by simp), if_neg (by simp), if_pos ⟨rfl, hp⟩]
  case h_4 hpreset hreset hlast =>
    rw [if_neg fun h => hpreset h.1 h.2, if_neg fun h => hreset h.1 h.2,
      if_neg fun h => hlast h.1 h.2]

namespace HttpRequest

def document? (r : HttpRequest) : Option RuleDocument :=
  match r.body with
  | .error _ => none
  | .ok bytes => (RuleDocument.reader.parse (Utf8.pieces bytes)).toOption

def snapshot? (header : String) (r : HttpRequest) : Option Request :=
  match r.body with
  | .error _ => none
  | .ok bytes => some (r.capture header bytes)

def call? (header : String) (r : HttpRequest) : Option Stub.Op :=
  if r.method = "POST" ∧ r.target.path = "/presetResponse" then r.document?.map .register
  else if r.method = "DELETE" ∧ r.target.path = "/reset" then some .reset
  else if r.method = "GET" ∧ r.target.path = "/applicationRequest" then
    (Stub.requestType? r).map .lastRequest
  else (r.snapshot? header).map .serve

/-- What the method and the path of the target say, and no header, makes a request one of these. -/
def IsAdmin (r : HttpRequest) : Prop :=
  (r.method = "POST" ∧ r.target.path = "/presetResponse") ∨
    (r.method = "DELETE" ∧ r.target.path = "/reset") ∨
    (r.method = "GET" ∧ r.target.path = "/applicationRequest")

theorem isAdmin_iff {r : HttpRequest} : r.IsAdmin ↔ Route.ofRequest r ≠ .traffic := by
  rw [Route.ofRequest_eq, IsAdmin]
  split
  case isTrue h => simp [h]
  case isFalse hpreset =>
    split
    case isTrue h => simp [h]
    case isFalse hreset =>
      split
      case isTrue h => simp [h]
      case isFalse hlast => simp [hpreset, hreset, hlast]

theorem call?_eq (header : String) (r : HttpRequest) :
    r.call? header =
      match Route.ofRequest r with
      | .preset => r.document?.map .register
      | .reset => some .reset
      | .lastRequest => (Stub.requestType? r).map .lastRequest
      | .traffic => (r.snapshot? header).map .serve := by
  rw [Route.ofRequest_eq, call?]
  split
  · rfl
  · split
    · rfl
    · split <;> rfl

theorem document?_eq (r : HttpRequest) : r.document? = (Stub.documentOf r).toOption := by
  rw [document?, Stub.documentOf]
  cases r.body with
  | error e => rfl
  | ok bytes =>
    dsimp only
    cases RuleDocument.reader.parse (Utf8.pieces bytes) <;> rfl

theorem document?_render {d : RuleDocument} (hd : d.millis ≤ Delay.limit) {r : HttpRequest}
    (h : r.body = .ok (Utf8.bytes d.json.render)) : r.document? = some d := by
  have hparse : RuleDocument.reader.parse (Utf8.pieces (Utf8.bytes d.json.render)) = .ok d := by
    rw [Utf8.pieces_bytes]
    exact (d.parseText_json _ List.mem_cons_self).trans (if_pos hd)
  rw [document?, h]
  dsimp only
  rw [hparse]
  rfl

theorem call?_of_lists (header : String) {r : HttpRequest} {query : String}
    {l : List (String × String)} (hmethod : r.method = "GET")
    (htarget : r.target = ⟨"/applicationRequest", some query⟩) (hl : Query.Lists query l) :
    r.call? header = ((l.lookup "requestType").filter (· ≠ "")).map .lastRequest := by
  rw [r.call?_eq, Route.ofRequest_of_lastRequest hmethod (by rw [htarget]), Stub.requestType?, htarget]
  dsimp only
  rw [Option.map_some, Option.getD_some, Query.pairs_of_lists hl]

end HttpRequest

namespace Stub

variable {s t : Stub}

def perform (s : Stub) : Option Op → Stub
  | none => s
  | some x => (x.call s).2

theorem Alike.perform (h : Alike s t) (x : Option Op) : Alike (s.perform x) (t.perform x) := by
  cases x with
  | none => exact h
  | some x => exact (h.call x).2

theorem after_toList_append (s : Stub) (x : Option Op) (xs : List Op) :
    s.after (x.toList ++ xs) = (s.perform x).after xs := by
  cases x <;> rfl

theorem answerPreset_state (s : Stub) (r : HttpRequest) :
    (s.answerPreset r).2 = s.perform (r.document?.map .register) := by
  rw [r.document?_eq]
  cases hd : documentOf r with
  | error message =>
    rw [answerPreset, hd]
    rfl
  | ok d =>
    rw [answerPreset_of_document hd]
    rfl

theorem answerLastRequest_state (s : Stub) (r : HttpRequest) :
    (s.answerLastRequest r).2 = s.perform ((requestType? r).map .lastRequest) := by
  cases htype : requestType? r with
  | none => exact (answerLastRequest_of_none htype).2
  | some type => exact (answerLastRequest_of_some htype).2

theorem answerTraffic_state (header : String) (s : Stub) (r : HttpRequest) :
    (s.answerTraffic header r).2 = s.perform ((r.snapshot? header).map .serve) := by
  rw [answerTraffic, HttpRequest.snapshot?]
  cases r.body with
  | error e => rfl
  | ok bytes =>
    change _ = (s.serve (r.capture header bytes)).2
    dsimp only
    rcases s.serve (r.capture header bytes) with ⟨⟨_ | _, _⟩, s'⟩ <;> rfl

/-- On the main surface a request does what its call does, and without one it does nothing. -/
theorem answer_state (header : String) (s : Stub) (r : HttpRequest) :
    (s.answer header r).2 = s.perform (r.call? header) := by
  rw [r.call?_eq]
  cases hroute : Route.ofRequest r with
  | preset => exact answer_of_preset header hroute ▸ s.answerPreset_state r
  | reset => exact answer_of_reset header hroute ▸ rfl
  | lastRequest => exact answer_of_lastRequest header hroute ▸ s.answerLastRequest_state r
  | traffic => exact answer_of_traffic header hroute ▸ s.answerTraffic_state header r

theorem answerMonitoring_alike (s : Stub) (r : HttpRequest) : Alike s (s.answerMonitoring r).2 := by
  rw [answerMonitoring]
  split <;> exact ⟨rfl, rfl, rfl⟩

theorem call?_ne_serve (header : String) {r : HttpRequest} (hr : r.IsAdmin) (q : Request) :
    r.call? header ≠ some (.serve q) := by
  have hroute := HttpRequest.isAdmin_iff.1 hr
  rw [r.call?_eq]
  cases h : Route.ofRequest r with
  | preset => simp
  | reset => simp
  | lastRequest => simp
  | traffic => exact absurd h hroute

/-- The answer comes from the body of the request or from the journal, never from a rule. -/
theorem answer_admin_congr (header : String) {r : HttpRequest} (hr : r.IsAdmin)
    (h : s.journal = t.journal) : (s.answer header r).1 = (t.answer header r).1 := by
  cases hroute : Route.ofRequest r with
  | traffic => exact absurd hroute (HttpRequest.isAdmin_iff.1 hr)
  | reset => rw [answer_of_reset header hroute, answer_of_reset header hroute]
  | preset =>
    rw [answer_of_preset header hroute, answer_of_preset header hroute]
    dsimp only
    cases hd : documentOf r with
    | error message => rw [answerPreset, answerPreset, hd]
    | ok d =>
      have hresult : (s.register d).1 = (t.register d).1 := by
        cases hp : d.predicate with
        | error e => rw [(register_of_error hp).1, (register_of_error hp).1]
        | ok p => rw [(register_of_ok hp).1, (register_of_ok hp).1]
      rw [answerPreset_of_document hd, answerPreset_of_document hd, hresult]
  | lastRequest =>
    rw [answer_of_lastRequest header hroute, answer_of_lastRequest header hroute, answerLastRequest,
      answerLastRequest]
    split
    case h_1 => rfl
    case h_2 => rfl
    case h_3 type _ _ =>
      have htaken : (s.lastRequest type).1 = (t.lastRequest type).1 :=
        congrArg (fun j => (j.takeLast type).1) h
      rcases hs : s.lastRequest type with ⟨x, s'⟩
      rcases ht : t.lastRequest type with ⟨y, t'⟩
      rw [hs, ht] at htaken
      cases htaken
      cases x <;> rfl

theorem held_admin_suffix (header : String) (s : Stub) {r : HttpRequest} (hr : r.IsAdmin)
    (type : String) : (s.answer header r).2.journal.held type <:+ s.journal.held type := by
  rw [answer_state]
  cases hx : r.call? header with
  | none => exact List.suffix_refl _
  | some x =>
    cases x with
    | register d =>
      have hj : (s.register d).2.journal = s.journal := register_journal s d
      change (s.register d).2.journal.held type <:+ _
      exact hj ▸ List.suffix_refl _
    | serve q => exact absurd hx (call?_ne_serve header hr q)
    | lastRequest type' =>
      have hheld := s.journal.held_takeLast type' type
      change (s.journal.takeLast type').2.held type <:+ _
      rw [hheld]
      split
      case isTrue ht => exact ht ▸ List.tail_suffix _
      case isFalse => exact List.suffix_refl _
    | reset => exact List.nil_suffix
    | shutdown => exact List.suffix_refl _

end Stub

namespace Server

abbrev Visit := Surface × HttpRequest

namespace Visit

def call? (header : String) : Visit → Option Stub.Op
  | (.main, r) => r.call? header
  | (.monitoring, _) => none

def main? : Visit → Option HttpRequest
  | (.main, r) => some r
  | (.monitoring, _) => none

end Visit

def after (s : Server) : List Visit → Server
  | [] => s
  | x :: xs => (s.answer x.1 x.2).2.after xs

def mainAnswers (s : Server) : List Visit → List (Option HttpResponse)
  | [] => []
  | (.main, r) :: xs => (s.answer .main r).1 :: (s.answer .main r).2.mainAnswers xs
  | (.monitoring, r) :: xs => (s.answer .monitoring r).2.mainAnswers xs

variable {s : Server} {t : Stub}

theorem answer_alike (s : Server) (x : Visit) :
    (s.answer x.1 x.2).2.stub.Alike (s.stub.perform (x.call? s.overrideHeader)) := by
  obtain ⟨surface, r⟩ := x
  cases surface with
  | main =>
    have hstate := s.stub.answer_state s.overrideHeader r
    exact hstate ▸ .refl _
  | monitoring => exact (s.stub.answerMonitoring_alike r).symm

theorem after_alike (h : s.stub.Alike t) (xs : List Visit) :
    (s.after xs).stub.Alike (t.after (xs.filterMap (Visit.call? s.overrideHeader))) := by
  induction xs generalizing s t with
  | nil => exact h
  | cons x xs ih =>
    have hnext := (s.answer_alike x).trans (h.perform (x.call? s.overrideHeader))
    have hcalls : (x :: xs).filterMap (Visit.call? s.overrideHeader) =
        (x.call? s.overrideHeader).toList ++ xs.filterMap (Visit.call? s.overrideHeader) := by
      rw [List.filterMap_cons]
      cases x.call? s.overrideHeader <;> rfl
    rw [hcalls, Stub.after_toList_append]
    exact ih hnext

theorem mainAnswers_eq (h : s.stub.Alike t) (xs : List Visit) :
    s.mainAnswers xs = t.answerAll s.overrideHeader (xs.filterMap Visit.main?) := by
  induction xs generalizing s t with
  | nil => rfl
  | cons x xs ih =>
    obtain ⟨surface, r⟩ := x
    cases surface with
    | main =>
      obtain ⟨hresponse, halike⟩ := h.answer s.overrideHeader r
      have hrest := ih (s := (s.answer .main r).2) halike
      simp only [List.filterMap_cons, Visit.main?, Stub.answerAll, mainAnswers]
      rw [hrest, ← hresponse]
      rfl
    | monitoring =>
      have halike := (s.stub.answerMonitoring_alike r).symm.trans h
      exact ih (s := (s.answer .monitoring r).2) halike

/-- A conversation leaves the rules and the recorded requests that its calls leave, also where it is
about the monitoring surface, whose requests change no answer on the main one. What registers, resets
or asks for a last request is no call that serves: rules have no say in its answer, and it is not
recorded. Who asks for the last request names its type in the first pair of the query that has this
name. -/
theorem requests_refine_calls (s : Server) :
    (∀ xs : List Visit,
      let calls := xs.filterMap (Visit.call? s.overrideHeader)
      (s.after xs).stub.registry = (s.stub.after calls).registry ∧
        (s.after xs).stub.journal = (s.stub.after calls).journal) ∧
    (∀ (xs ys : List Visit) (r : HttpRequest),
      s.mainAnswers (xs ++ (.monitoring, r) :: ys) = s.mainAnswers (xs ++ ys)) ∧
    (∀ r : HttpRequest, r.IsAdmin →
      (∀ q, r.call? s.overrideHeader ≠ some (.serve q)) ∧
      (∀ t : Stub, s.stub.journal = t.journal →
        (s.stub.answer s.overrideHeader r).1 = (t.answer s.overrideHeader r).1) ∧
      ∀ type, (s.stub.answer s.overrideHeader r).2.journal.held type <:+ s.stub.journal.held type) ∧
    ∀ (r : HttpRequest) query l, r.method = "GET" → r.target = ⟨"/applicationRequest", some query⟩ →
      Query.Lists query l →
      r.call? s.overrideHeader = ((l.lookup "requestType").filter (· ≠ "")).map .lastRequest := by
  refine ⟨?_, ?_, ?_, ?_⟩
  · intro xs
    have halike := after_alike (.refl s.stub) xs
    exact ⟨halike.registry, halike.journal⟩
  · intro xs ys r
    have hmain : (xs ++ (.monitoring, r) :: ys).filterMap Visit.main? =
        (xs ++ ys).filterMap Visit.main? := by
      rw [List.filterMap_append, List.filterMap_append]
      rfl
    rw [mainAnswers_eq (.refl s.stub), mainAnswers_eq (.refl s.stub), hmain]
  · intro r hr
    refine ⟨?_, ?_, ?_⟩
    · intro q
      exact Stub.call?_ne_serve s.overrideHeader hr q
    · intro t ht
      exact Stub.answer_admin_congr s.overrideHeader hr ht
    · intro type
      exact s.stub.held_admin_suffix s.overrideHeader hr type
  · intro r query l hmethod htarget hl
    exact HttpRequest.call?_of_lists s.overrideHeader hmethod htarget hl

/-- A rule for one order is registered, an order is served from it, and after a visit of the monitoring
surface the order is found as the last request of its type. The question for it carries the target of an
order, which has no effect, and an escaped letter. -/
theorem requests_refine_calls_conversation :
    let d := Predicate.ordersDocument 5 .singleUse
    let s := Server.new (.new 10 .blank) "x-target"
    let preset : HttpRequest :=
      ⟨"POST", ⟨"/presetResponse", none⟩, [], .ok (Utf8.bytes d.json.render)⟩
    let order : HttpRequest := ⟨"PUT", ⟨"/order/1", some "page=2"⟩, [], .ok (Utf8.bytes "tea")⟩
    let visit : HttpRequest := ⟨"GET", ⟨"/metrics", none⟩, [], .ok []⟩
    let last : HttpRequest := ⟨"GET", ⟨"/applicationRequest", some "&requestType=%4Frder"⟩,
      [("x-target", Utf8.bytes "/order/2")], .ok []⟩
    let q : Request := ⟨"PUT", "/order/1", .ofPairs [("page", "2")], {}, "tea"⟩
    let xs : List Visit := [(.main, preset), (.main, order), (.monitoring, visit), (.main, last)]
    let calls : List Stub.Op := [.register d, .serve q, .lastRequest "Order"]
    (s.after xs).stub.registry = (s.stub.after calls).registry ∧
      (s.after xs).stub.journal = (s.stub.after calls).journal ∧
      (s.stub.after calls).active = 0 ∧ (s.stub.after calls).journal.held "Order" = [] ∧
      s.mainAnswers xs = s.mainAnswers [(.main, preset), (.main, order), (.main, last)] ∧
      s.mainAnswers [(.main, preset), (.main, order), (.main, last)] =
        [some (.plain 200 ""), some (.ofResponse .default), some (.document 200 q.json)] ∧
      last.IsAdmin ∧ (∀ q', last.call? "x-target" ≠ some (.serve q')) ∧
      Query.Lists "&requestType=%4Frder" [("requestType", "Order")] ∧
      last.call? "x-target" = some (.lastRequest "Order") := by
  intro d s preset order visit last q xs calls
  obtain ⟨hcalls, hmonitoring, hadmin, hasked⟩ := requests_refine_calls s
  have hlists : Query.Lists "&requestType=%4Frder" [("requestType", "Order")] := by
    refine ⟨[[], "requestType=%4Frder".toList], ?_, by decide⟩
    have hname : Query.Written "requestType" "requestType".toList := Query.written_encode true _
    have htype : Query.Written "Order" "%4Frder".toList := by
      have hbytes : List.Forall₂ Query.EscapesByte (String.utf8EncodeChar 'O') ["%4F".toList] :=
        .cons ⟨'4', 'F', .inl (by decide), .inl (by decide), by decide⟩ .nil
      refine ⟨["%4F".toList, ['r'], ['d'], ['e'], ['r']], ?_, by decide⟩
      exact .cons (.bytes hbytes) (.cons (.plain rfl) (.cons (.plain rfl) (.cons (.plain rfl)
        (.cons (.plain rfl) .nil))))
    rw [List.filter_cons_of_neg (by simp), List.filter_cons_of_pos (by decide), List.filter_nil]
    exact .cons ⟨_, _, hname, htype, by decide⟩ .nil
  have hlast : last.call? "x-target" = some (.lastRequest "Order") :=
    hasked last _ _ rfl rfl hlists
  have hpreset : preset.call? "x-target" = some (.register d) := by
    have hdocument : preset.document? = some d := HttpRequest.document?_render (by decide) rfl
    rw [preset.call?_eq, show Route.ofRequest preset = .preset by decide, hdocument]
    rfl
  have horder : order.call? "x-target" = some (.serve q) := by
    have hcapture : order.capture "x-target" (Utf8.bytes "tea") = q := by decide +kernel
    rw [order.call?_eq, show Route.ofRequest order = .traffic by decide]
    exact congrArg (fun q => some (Stub.Op.serve q)) hcapture
  have hxs : xs.filterMap (Visit.call? "x-target") = calls := by
    simp only [xs, List.filterMap_cons, List.filterMap_nil, Visit.call?, hpreset, horder, hlast]
    rfl
  have hafter := hcalls xs
  rw [show s.overrideHeader = "x-target" from rfl, hxs] at hafter
  have hr : last.IsAdmin := .inr (.inr ⟨rfl, rfl⟩)
  refine ⟨hafter.1, hafter.2, ?_, ?_,
    hmonitoring [(.main, preset), (.main, order)] [(.main, last)] visit, ?_, hr, (hadmin last hr).1,
    hlists, hlast⟩
  all_goals decide +kernel

end Server

end StubHttp
