import StubHttp.Proofs.Json.Reader
import StubHttp.Request

/-!
# The document of a request

The document of a request is read back as the request.
-/
namespace StubHttp.Request

open Json

theorem whole_json (q : Request) : q.json.Whole := by
  refine Value.wholeMembers_iff.2 ?_
  intro e he
  simp only [List.mem_cons, List.not_mem_nil, or_false] at he
  rcases he with rfl | rfl | rfl | rfl | rfl
  · trivial
  · trivial
  · exact Value.whole_multimap q.params
  · exact Value.whole_multimap q.headers
  · trivial

theorem multimap_inverts : (Reader.dict (.list .text)).Inverts Value.multimap 2 :=
  Reader.dict_inverts Reader.strings_inverts

theorem reader_inverts : reader.Inverts json 3 := by
  intro s hs q
  obtain ⟨s', henter, hs'⟩ := Scope.enter_eq_ok hs
  have hs₀ : s'.Allows 0 := fun hm => Nat.lt_trans (by decide) (hs' hm)
  have hfields : Reader.readFields fields s' (Doc.ofMembers [("httpMethod", .string q.method),
      ("url", .string q.url), ("urlParameters", .multimap q.params),
      ("headers", .multimap q.headers), ("body", .string q.body)]) [] blank =
        .ok (q, ["body", "headers", "urlParameters", "url", "httpMethod"]) := by
    simp only [Doc.ofMembers]
    rw [Reader.readFields_cons _ _ rfl rfl (Reader.field_read Reader.text_inverts hs₀ ..),
      Reader.readFields_cons _ _ rfl rfl (Reader.field_read Reader.text_inverts hs₀ ..),
      Reader.readFields_cons _ _ rfl rfl (Reader.field_read multimap_inverts hs' ..),
      Reader.readFields_cons _ _ rfl rfl (Reader.field_read multimap_inverts hs' ..),
      Reader.readFields_cons _ _ rfl rfl (Reader.field_read Reader.text_inverts hs₀ ..)]
    rfl
  have hmissing : Reader.firstMissing fields
    ["body", "headers", "urlParameters", "url", "httpMethod"] = none := by decide
  exact Reader.record_eq_ok henter hfields hmissing

theorem parseText_renderPretty (q : Request) : reader.parseText q.json.renderPretty = .ok q :=
  Reader.parseText_renderPretty reader_inverts (by decide) q.whole_json

end StubHttp.Request
