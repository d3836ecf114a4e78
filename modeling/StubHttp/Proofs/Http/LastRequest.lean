import StubHttp.Proofs.Http.Calls
import StubHttp.Proofs.Http.Pairs
import StubHttp.Proofs.Request

/-!
# A request served and shown

A request that is answered from a rule is recorded under the type of the rule. Who asks for the last request
of the type is shown this one, and the type then holds what it held before, less what the record has
pushed out.
-/
namespace StubHttp

namespace HttpRequest

def asking (plus : Bool) (type : String) (headers : List (String × List UInt8))
    (body : Except String (List UInt8)) : HttpRequest where
  method := "GET"
  target := .ofRequestLine
    ("/applicationRequest?requestType=" ++ String.ofList (Query.encode plus type))
  headers := headers
  body := body

variable {plus : Bool} {type : String} {headers : List (String × List UInt8)}
  {body : Except String (List UInt8)}

theorem target_asking : (asking plus type headers body).target =
    ⟨"/applicationRequest",
      some (String.ofList (Query.encode plus "requestType" ++ '=' :: Query.encode plus type))⟩ := by
  have hname : ∀ plus, "/applicationRequest?requestType=".toList =
      "/applicationRequest".toList ++ '?' :: (Query.encode plus "requestType" ++ ['=']) := by decide
  have hline : ("/applicationRequest?requestType=" ++ String.ofList (Query.encode plus type)).toList =
      "/applicationRequest".toList ++
        '?' :: (Query.encode plus "requestType" ++ '=' :: Query.encode plus type) := by
    have hescaped : (String.ofList (Query.encode plus type)).toList = Query.encode plus type :=
      String.toList_ofList
    calc
      _ = "/applicationRequest?requestType=".toList ++
          (String.ofList (Query.encode plus type)).toList := String.toList_append
      _ = _ := by
        rw [hname plus, hescaped]
        simp only [List.append_assoc, List.cons_append, List.nil_append]
  have hpath : '?' ∉ "/applicationRequest".toList ∧ '#' ∉ "/applicationRequest".toList := by decide
  have hescaped : ∀ value, '#' ∉ Query.encode plus value := fun value =>
    Query.not_mem_encode (by decide) (by decide) (by decide)
  have hfragment : '#' ∉ "/applicationRequest".toList ++
      '?' :: (Query.encode plus "requestType" ++ '=' :: Query.encode plus type) := by
    simp only [List.mem_append, List.mem_cons, not_or]
    exact ⟨hpath.2, by decide, hescaped _, by decide, hescaped _⟩
  have hstar : "/applicationRequest?requestType=" ++ String.ofList (Query.encode plus type) ≠ "*" := by
    intro h
    have hchars := congrArg String.toList h
    rw [hline] at hchars
    exact absurd (List.cons.inj hchars).1 (by decide)
  have hhead : ("/applicationRequest".toList ++ '?' :: (Query.encode plus "requestType" ++
      '=' :: Query.encode plus type)).head? = some '/' := rfl
  rw [asking]
  simp only
  rw [Target.ofRequestLine, if_neg hstar, hline, if_pos hhead, Text.cut_of_not_mem hfragment,
    Target.ofRelative, Text.cut_append_cons _ hpath.1]
  rfl

theorem requestType?_asking (htype : type ≠ "") :
    Stub.requestType? (asking plus type headers body) = some type := by
  rw [Stub.requestType?, ← Query.param?_eq_lookup, target_asking, Query.param?_encode,
    Option.filter_some_pos (by simpa using htype)]

end HttpRequest

namespace Stub

variable {s : Stub} {r : HttpRequest} {header : String}

theorem Reachable.bounded (h : s.Reachable) : s.journal.Bounded := by
  induction h with
  | new capacity metrics => exact .ofCapacity capacity
  | @step s s' h hs ih =>
    cases hs with
    | register d => rw [register_journal]; exact ih
    | resolve q => exact ih
    | record hrecord =>
      rw [record_eq_some hrecord]
      exact ih.push _ _
    | dropRules => exact ih
    | forget => exact ih.clear
    | lastRequest type => exact ih.takeLast type
    | count m => exact ih
    | signal x => exact ih

theorem Reachable.requestType_ne (h : s.Reachable) {q : Request} {p : Predicate}
    (hp : s.registry.find? q = some p) : p.requestType ≠ "" := by
  obtain ⟨d, hd⟩ := h.sound.declared p (List.mem_of_find?_eq_some hp)
  have htype := Predicate.ofDocument_eq_ok hd
  rw [Predicate.requestType, htype.1]
  exact htype.2.2.2

theorem hasRoom_of_answer {bytes : List UInt8} {p : Predicate} {response : HttpResponse}
    (hroute : Route.ofRequest r = .traffic) (hbody : r.body = .ok bytes)
    (hp : s.registry.find? (r.capture header bytes) = some p)
    (h : (s.answer header r).1 = some response) : s.journal.hasRoom p.requestType = true := by
  by_contra hroom
  have hserved : (s.serve (r.capture header bytes)).1 = ⟨.error .overflow, 0⟩ := by
    rw [serve_result, Registry.resolve_of_some hp, acceptance_of_no_room (Bool.eq_false_iff.2 hroom)]
    rfl
  rw [answer_of_traffic header hroute, answerTraffic, hbody] at h
  dsimp only at h
  rcases hs : s.serve (r.capture header bytes) with ⟨x, s'⟩
  rw [hs] at h hserved
  subst hserved
  cases h

theorem answer_journal_of_find? {bytes : List UInt8} {p : Predicate}
    (hroute : Route.ofRequest r = .traffic) (hbody : r.body = .ok bytes)
    (hp : s.registry.find? (r.capture header bytes) = some p)
    (hroom : s.journal.hasRoom p.requestType = true) :
    (s.answer header r).2.journal = s.journal.push p.requestType (r.capture header bytes) := by
  have hcall : r.call? header = some (.serve (r.capture header bytes)) := by
    rw [r.call?_eq, hroute, HttpRequest.snapshot?, hbody]
    rfl
  rw [answer_state, hcall]
  change (s.serve (r.capture header bytes)).2.journal = _
  rw [serve_journal, Registry.resolve_of_some hp, noted_of_room hroom]

theorem answerLastRequest_of_head {type : String} {q : Request} (htype : requestType? r = some type)
    (hq : (s.journal.held type).head? = some q) :
    (s.answerLastRequest r).1 = .document 200 q.json := by
  obtain ⟨hparam, hne⟩ := Option.filter_eq_some_iff.1 htype
  have htaken : (s.lastRequest type).1 = some q := (Journal.takeLast_result s.journal type).trans hq
  rw [answerLastRequest, Query.param?_eq_lookup, hparam]
  split
  case h_1 h => cases h
  case h_2 h =>
    cases h
    exact absurd hne (by decide)
  case h_3 type' hne' h =>
    cases h
    rcases hs : s.lastRequest type with ⟨x, s'⟩
    rw [hs] at htaken
    cases htaken
    rfl

theorem answer_asking (header : String) (plus : Bool) (headers : List (String × List UInt8))
    (body : Except String (List UInt8)) {type : String} {q : Request} (htype : type ≠ "")
    (hq : (s.journal.held type).head? = some q) :
    (s.answer header (.asking plus type headers body)).1 = some (.document 200 q.json) ∧
      (s.answer header (.asking plus type headers body)).2.journal =
        (s.journal.takeLast type).2 := by
  have hroute : Route.ofRequest (.asking plus type headers body) = .lastRequest :=
    Route.ofRequest_of_lastRequest rfl (by rw [HttpRequest.target_asking])
  have hasked : requestType? (.asking plus type headers body) = some type :=
    HttpRequest.requestType?_asking htype
  rw [answer_of_lastRequest header hroute]
  dsimp only
  rw [answerLastRequest_of_head hasked hq, (answerLastRequest_of_some hasked).2]
  exact ⟨rfl, rfl⟩

/-- A request that is answered from a rule is shown to who asks next for the last request of the type of
the rule, however the type is escaped. Then the type holds what it held before, less its oldest request if
it was full, and each other type holds what it held. -/
theorem served_then_shown (h : s.Reachable) (hroute : Route.ofRequest r = .traffic)
    {bytes : List UInt8} (hbody : r.body = .ok bytes) {p : Predicate}
    (hp : s.registry.find? (r.capture header bytes) = some p) {response : HttpResponse}
    (hanswer : (s.answer header r).1 = some response) (plus : Bool)
    (headers : List (String × List UInt8)) (body : Except String (List UInt8)) :
    let shown := (s.answer header r).2.answer header
      (HttpRequest.asking plus p.requestType headers body)
    (∃ x : HttpResponse, shown.1 = some x ∧ x.status = 200 ∧
        Request.reader.parseText x.body = .ok (r.capture header bytes)) ∧
      shown.2.journal.held p.requestType =
        (if (s.journal.held p.requestType).length = s.journal.capacity then
          (s.journal.held p.requestType).dropLast
        else s.journal.held p.requestType) ∧
      ∀ type, type ≠ p.requestType → shown.2.journal.held type = s.journal.held type := by
  have hbounded := h.bounded
  have hserved := answer_journal_of_find? hroute hbody hp (hasRoom_of_answer hroute hbody hp hanswer)
  have hhead : ((s.answer header r).2.journal.held p.requestType).head? =
      some (r.capture header bytes) := by
    obtain ⟨k, hk⟩ : ∃ k, s.journal.capacity = k + 1 :=
      ⟨s.journal.capacity - 1, (Nat.succ_pred_eq_of_pos hbounded.pos).symm⟩
    rw [hserved, Journal.held_push, if_pos rfl, hk, List.take_succ_cons, List.head?_cons]
  obtain ⟨hshown, hjournal⟩ := answer_asking header plus headers body (h.requestType_ne hp) hhead
  rw [hserved] at hjournal
  -- What the answer is, and not how it comes about, matters from here on.
  generalize (s.answer header r).2.answer header
    (.asking plus p.requestType headers body) = shown at hshown hjournal ⊢
  refine ⟨⟨_, hshown, rfl, Request.parseText_renderPretty _⟩, ?_, ?_⟩
  · rw [hjournal, Journal.held_takeLast_push hbounded]
    simp only [true_and]
  · intro type hne
    rw [hjournal, Journal.held_takeLast_push hbounded, if_neg fun hc => hne hc.1]

/-- An order with a stray byte in its body pushes out the only order that there is room for. -/
theorem served_then_shown_full :
    let rule := Predicate.orders 5 .forever
    let stub := ((Stub.new 1 .blank).register (Predicate.ordersDocument 5 .forever)).2
    let s := gauge { stub with journal := stub.journal.push rule.requestType .blank }
    let r : HttpRequest := ⟨"PUT", ⟨"/order/1", some "page=2"⟩, [], .ok [0xFF]⟩
    let shown := (s.answer "" r).2.answer "" (.asking true rule.requestType [] (.ok []))
    s.Reachable ∧ Route.ofRequest r = .traffic ∧
      s.registry.find? (r.capture "" [0xFF]) = some rule ∧
      (s.answer "" r).1 = some (.ofResponse .default) ∧ s.journal.held rule.requestType = [.blank] ∧
      (∃ x : HttpResponse, shown.1 = some x ∧ x.status = 200 ∧
        Request.reader.parseText x.body = .ok (r.capture "" [0xFF])) ∧
      shown.2.journal.held rule.requestType = [] ∧ shown.2.journal.held "Invoice" = [] := by
  intro rule stub s r
  have hrecord : stub.record rule .blank = some s :=
    record_of_room (Journal.hasRoom_of_le (j := stub.journal) (by decide) _) _
  have hs : s.Reachable := ((Reachable.new 1 .blank).step (.register _)).step (.record hrecord)
  have hroute : Route.ofRequest r = .traffic := by decide
  have haccepts : rule.accepts (r.capture "" [0xFF]) = true := by decide
  have hfind : s.registry.find? (r.capture "" [0xFF]) = some rule :=
    List.find?_cons_of_pos (l := []) haccepts
  have hheld : s.journal.held rule.requestType = [.blank] := by decide
  have hfull : (s.journal.held rule.requestType).length = s.journal.capacity := by decide
  have hserved : (s.serve (r.capture "" [0xFF])).1 = ⟨.ok .default, 0⟩ := by
    have hroom : s.journal.hasRoom rule.requestType = true := Journal.hasRoom_of_le (by decide) _
    have hcanned : s.registry.canned? rule = some ⟨.default, 0⟩ := rfl
    rw [serve_result, Registry.resolve_of_some hfind, hcanned, acceptance_of_room hroom]
    rfl
  have hanswer : (s.answer "" r).1 = some (.ofResponse .default) := by
    rw [answer_of_traffic "" hroute, answerTraffic]
    rcases hx : s.serve (r.capture "" [0xFF]) with ⟨x, s'⟩
    rw [hx] at hserved
    subst hserved
    simp only [r, hx]
  have hshown := served_then_shown hs hroute rfl hfind hanswer true [] (.ok [])
  revert hshown
  generalize (s.answer "" r).2.answer "" (.asking true rule.requestType [] (.ok [])) = shown
  rintro ⟨hshown, horder, hother⟩
  rw [if_pos hfull] at horder
  refine ⟨hs, hroute, hfind, hanswer, hheld, hshown, horder.trans ?_, ?_⟩
  · decide
  · exact (hother "Invoice" (by decide)).trans (by decide)

end Stub

end StubHttp
