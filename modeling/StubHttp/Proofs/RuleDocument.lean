import StubHttp.Proofs.Request
import StubHttp.Proofs.Response
import StubHttp.RuleDocument

/-!
# The document of a rule

Delays are written as unsigned numbers and read as signed ones, so the document of a rule is read back as
the rule unless its delay is beyond the range of signed numbers. A rule that was read has no such delay,
and so reading and writing it once more changes nothing.
-/
namespace StubHttp

open Json

variable {s : Scope}

theorem Lifetime.reader_ofValue (s : Scope) (l : Lifetime) :
    reader s (Doc.ofValue (.string l.name)) = .ok l := by
  obtain ⟨medium, depth⟩ := s
  cases medium <;> cases l <;> rfl

theorem Declaration.reader_inverts : reader.Inverts json 2 := by
  intro s hs d
  obtain ⟨s', henter, hs'⟩ := Scope.enter_eq_ok hs
  have hs₀ : s'.Allows 0 := fun hm => Nat.lt_trans (by decide) (hs' hm)
  have hfields : Reader.readFields fields s' (Doc.ofMembers [("requestType", .string d.requestType),
      ("rules", .strings d.lines)]) [] ⟨"", []⟩ = .ok (d, ["rules", "requestType"]) := by
    simp only [Doc.ofMembers]
    rw [Reader.readFields_cons _ _ rfl rfl (Reader.field_read Reader.text_inverts hs₀ ..),
      Reader.readFields_cons _ _ rfl rfl (Reader.field_read Reader.strings_inverts hs' ..)]
    rfl
  exact Reader.record_eq_ok henter hfields rfl

namespace Delay

def limit : Nat := 9223372036854775807

variable {x : Delay}

theorem millisReader_of_le (h : x.millis.toNat ≤ limit) :
    millisReader s (Doc.ofValue (.nat x.millis.toNat)) = .ok x.millis := by
  have hlow : (-0x8000000000000000 : Int) ≤ x.millis.toNat := by omega
  have hhigh : (x.millis.toNat : Int) ≤ 0x7fffffffffffffff := Int.ofNat_le.2 h
  change (if _ ∧ _ then Except.ok (x.millis.toNat : Int) else _).map _ = _
  rw [if_pos ⟨hlow, hhigh⟩]
  exact congrArg Except.ok x.millis.ofNat_toNat

theorem millisReader_of_lt (h : limit < x.millis.toNat) :
    millisReader s (Doc.ofValue (.nat x.millis.toNat)) =
      .error (.wrongValue (.integer x.millis.toNat) "i64") := by
  have hhigh : ¬ (x.millis.toNat : Int) ≤ 0x7fffffffffffffff := by
    rw [limit] at h
    omega
  change (if _ ∧ _ then Except.ok (x.millis.toNat : Int) else _).map _ = _
  rw [if_neg fun hle => hhigh hle.2]
  rfl

theorem reader_of_le (hs : s.Allows 1) (h : x.millis.toNat ≤ limit) :
    reader s (Doc.ofValue x.json) = .ok x := by
  obtain ⟨s', henter, -⟩ := Scope.enter_eq_ok hs
  have hfields : Reader.readFields fields s' (Doc.ofMembers [("delayTimeInMillis",
      .nat x.millis.toNat)]) [] ⟨0⟩ = .ok (x, ["delayTimeInMillis"]) := by
    simp only [Doc.ofMembers]
    rw [Reader.readFields_cons _ _ rfl rfl (Reader.field_read_of_ok (millisReader_of_le h) ..)]
    rfl
  exact Reader.record_eq_ok henter hfields rfl

theorem reader_of_lt (hs : s.Allows 1) (h : limit < x.millis.toNat) :
    reader s (Doc.ofValue x.json) = .error (.wrongValue (.integer x.millis.toNat) "i64") := by
  obtain ⟨s', henter, -⟩ := Scope.enter_eq_ok hs
  refine Reader.record_eq_error henter ?_
  exact Reader.readFields_cons_error _ _ rfl rfl (Reader.field_read_of_error (millisReader_of_lt h) ..)

theorem le_limit_of_millisReader {d : Doc} {n : UInt64} (h : millisReader s d = .ok n) :
    n.toNat ≤ limit := by
  obtain ⟨m, hm, rfl⟩ := map_eq_ok h
  have hhigh := (Reader.between_of_integer hm).2
  have hsize : m.toNat < 2 ^ 64 := by omega
  rw [Nat.toUInt64, UInt64.toNat_ofNat', Nat.mod_eq_of_lt hsize, limit]
  omega

theorem le_limit_of_reader {d : Doc} (h : reader s d = .ok x) : x.millis.toNat ≤ limit := by
  refine Reader.record_keeps (P := fun x => x.millis.toNat ≤ limit) (Nat.zero_le _) ?_ h
  simp only [fields, List.forall_mem_singleton]
  exact Reader.field_keeps (fun s d n hn => le_limit_of_millisReader hn) (fun n _ hn _ => hn) _ _

end Delay

namespace RuleDocument

variable {d : RuleDocument}

theorem whole_json (d : RuleDocument) : d.json.Whole := by
  have hdelay : ∀ x : Delay, x.json.Whole := fun x => ⟨x.millis.toNat_lt, trivial⟩
  have hpriority : (Value.int d.priority.toInt).Whole := by
    have hlow := d.priority.le_toInt
    have hhigh := d.priority.toInt_lt
    cases hn : d.priority.toInt with
    | ofNat n =>
      rw [hn, Int.ofNat_eq_natCast] at hhigh
      change n < 0x10000000000000000
      omega
    | negSucc n =>
      change 0 < n + 1 ∧ n + 1 ≤ 0x8000000000000000
      omega
  have hdeclaration : d.declaration.json.Whole := ⟨trivial, Value.whole_strings _, trivial⟩
  refine Value.wholeMembers_iff.2 ?_
  intro e he
  simp only [List.mem_append, List.mem_cons, List.not_mem_nil, or_false, Option.mem_toList,
    Option.map_eq_some_iff] at he
  rcases he with ((rfl | rfl | rfl) | ⟨x, -, rfl⟩) | rfl
  · exact hdeclaration
  · exact hpriority
  · trivial
  · exact hdelay x
  · exact d.response.whole_json

theorem readFields_lead (hs : s.Allows 3) (d : RuleDocument) (ms : List (String × Value)) :
    Reader.readFields fields s (Doc.ofMembers ([("predicate", d.declaration.json),
        ("priority", .int d.priority.toInt), ("timeToLive", .string d.lifetime.name)] ++ ms)) [] blank =
      Reader.readFields fields s (Doc.ofMembers ms) ["timeToLive", "priority", "predicate"]
        ⟨d.declaration, d.priority, d.lifetime, none, .default⟩ := by
  have hs₂ : s.Allows 2 := fun hm => Nat.lt_trans (by decide) (hs hm)
  have hpriority : Reader.integer (-0x80000000) 0x7fffffff "i32" s
      (Doc.ofValue (.int d.priority.toInt)) = .ok d.priority.toInt :=
    Reader.integer_ofValue "i32" s d.priority.le_toInt (Int.le_of_lt_add_one d.priority.toInt_lt)
  simp only [List.cons_append, List.nil_append, Doc.ofMembers]
  rw [Reader.readFields_cons _ _ rfl rfl (Reader.field_read Declaration.reader_inverts hs₂ ..),
    Reader.readFields_cons _ _ rfl rfl (Reader.field_read_of_ok hpriority ..),
    Reader.readFields_cons _ _ rfl rfl (Reader.field_read_of_ok (Lifetime.reader_ofValue s _) ..)]
  simp only [blank, Int32.ofInt_toInt]

theorem delay_read_of_le (hs : s.Allows 1) {x : Delay} (h : x.millis.toNat ≤ Delay.limit) :
    Reader.option Delay.reader s (Doc.ofValue x.json) = .ok (some x) := by
  change (Delay.reader s (Doc.ofValue x.json)).map some = _
  rw [Delay.reader_of_le hs h]
  rfl

theorem delay_read_of_lt (hs : s.Allows 1) {x : Delay} (h : Delay.limit < x.millis.toNat) :
    Reader.option Delay.reader s (Doc.ofValue x.json) =
      .error (.wrongValue (.integer x.millis.toNat) "i64") := by
  change (Delay.reader s (Doc.ofValue x.json)).map some = _
  rw [Delay.reader_of_lt hs h]
  rfl

theorem readFields_rest (hs : s.Allows 3) (h : d.millis ≤ Delay.limit) :
    Reader.readFields fields s (Doc.ofMembers ((d.delay.map fun x => ("delay", x.json)).toList ++
        [("response", d.response.json)])) ["timeToLive", "priority", "predicate"]
        ⟨d.declaration, d.priority, d.lifetime, none, .default⟩ =
      .ok (d, "response" :: ((d.delay.map fun _ => "delay").toList ++
        ["timeToLive", "priority", "predicate"])) := by
  have hs₁ : s.Allows 1 := fun hm => Nat.lt_trans (by decide) (hs hm)
  obtain ⟨declaration, priority, lifetime, delay, response⟩ := d
  cases delay with
  | none =>
    simp only [Option.map_none, Option.toList_none, List.nil_append, Doc.ofMembers]
    rw [Reader.readFields_cons _ _ rfl rfl (Reader.field_read Response.reader_inverts hs ..)]
    rfl
  | some x =>
    simp only [Option.map_some, Option.toList_some, List.singleton_append, Doc.ofMembers]
    rw [Reader.readFields_cons _ _ rfl rfl (Reader.field_read_of_ok (delay_read_of_le hs₁ h) ..),
      Reader.readFields_cons _ _ rfl rfl (Reader.field_read Response.reader_inverts hs ..)]
    rfl

theorem reader_of_le (hs : s.Allows 4) (h : d.millis ≤ Delay.limit) :
    reader s (Doc.ofValue d.json) = .ok d := by
  obtain ⟨s', henter, hs'⟩ := Scope.enter_eq_ok hs
  have hfields := (readFields_lead hs' d _).trans (readFields_rest hs' h)
  rw [← List.append_assoc] at hfields
  refine Reader.record_eq_ok henter hfields ?_
  cases d.delay <;> rfl

theorem reader_of_lt (hs : s.Allows 4) (h : Delay.limit < d.millis) :
    reader s (Doc.ofValue d.json) = .error (.wrongValue (.integer d.millis) "i64") := by
  obtain ⟨s', henter, hs'⟩ := Scope.enter_eq_ok hs
  have hs₁ : s'.Allows 1 := fun hm => Nat.lt_trans (by decide) (hs' hm)
  refine Reader.record_eq_error henter ?_
  rw [List.append_assoc, readFields_lead hs']
  obtain ⟨declaration, priority, lifetime, delay, response⟩ := d
  cases delay with
  | none => exact absurd h (Nat.not_lt_zero _)
  | some x =>
    simp only [Option.map_some, Option.toList_some, List.singleton_append, Doc.ofMembers]
    exact Reader.readFields_cons_error _ _ rfl rfl
      (Reader.field_read_of_error (delay_read_of_lt hs₁ h) ..)

theorem le_limit_of_delay {doc : Doc} {v : Option Delay}
    (h : Reader.option Delay.reader s doc = .ok v) :
    (v.map (·.millis.toNat)).getD 0 ≤ Delay.limit := by
  unfold Reader.option at h
  split at h
  case h_1 =>
    cases h
    exact Nat.zero_le _
  case h_2 =>
    obtain ⟨x, hx, rfl⟩ := map_eq_ok h
    exact Delay.le_limit_of_reader hx

theorem le_limit_of_reader {doc : Doc} (h : reader s doc = .ok d) : d.millis ≤ Delay.limit := by
  refine Reader.record_keeps (P := fun d => d.millis ≤ Delay.limit) (Nat.zero_le _) ?_ h
  have hother : ∀ {α : Type} {r : Reader α} {set : α → RuleDocument → RuleDocument} (name : String),
      (∀ v d, (set v d).millis = d.millis) →
        (Reader.field name false r set).Keeps fun d => d.millis ≤ Delay.limit := by
    intro α r set name hset
    refine Reader.field_keeps (Q := fun _ => True) (fun _ _ _ _ => trivial) ?_ name false
    intro v d _ hd
    rw [hset]
    exact hd
  intro f hf
  simp only [fields, List.mem_cons, List.not_mem_nil, or_false] at hf
  rcases hf with rfl | rfl | rfl | rfl | rfl
  case inr.inr.inr.inl =>
    exact Reader.field_keeps (fun _ _ _ h => le_limit_of_delay h) (fun v d hv _ => hv) _ _
  all_goals exact hother _ fun _ _ => rfl

theorem parseText_json (d : RuleDocument) : ∀ text ∈ [d.json.render, d.json.renderPretty],
    reader.parseText text =
      if d.millis ≤ Delay.limit then .ok d else .error (.wrongValue (.integer d.millis) "i64") := by
  have hs : Scope.text.Allows 4 := fun _ => by decide
  have hread : reader .text (Doc.ofValue d.json) =
      if d.millis ≤ Delay.limit then .ok d else .error (.wrongValue (.integer d.millis) "i64") := by
    by_cases h : d.millis ≤ Delay.limit
    · rw [if_pos h, reader_of_le hs h]
    · rw [if_neg h, reader_of_lt hs (Nat.lt_of_not_le h)]
  intro text htext
  simp only [List.mem_cons, List.not_mem_nil, or_false] at htext
  rcases htext with rfl | rfl
  · exact (Reader.parse_eq (Value.parse_render d.whole_json)).trans hread
  · exact (Reader.parse_eq (Value.parse_renderPretty d.whole_json)).trans hread

end RuleDocument

/-- The text of a document, compact or pretty, gives the document back: that of a request and of a response
always, and that of a rule unless its delay is beyond the limit, when it is refused. What was read, from
whatever text, is given back. -/
theorem documents_read_back :
    (∀ q : Request, ∀ text ∈ [q.json.render, q.json.renderPretty],
      Request.reader.parseText text = .ok q) ∧
    (∀ d : RuleDocument, ∀ text ∈ [d.json.render, d.json.renderPretty],
      RuleDocument.reader.parseText text =
        if d.millis ≤ Delay.limit then .ok d else .error (.wrongValue (.integer d.millis) "i64")) ∧
    (∀ source d, RuleDocument.reader.parse source = .ok d →
      ∀ text ∈ [d.json.render, d.json.renderPretty], RuleDocument.reader.parseText text = .ok d) ∧
    ∀ source r, Response.reader.parse source = .ok r →
      ∀ text ∈ [r.json.render, r.json.renderPretty], Response.reader.parseText text = .ok r := by
  refine ⟨fun q => ?_, RuleDocument.parseText_json, fun source d hread => ?_, fun source r _ => ?_⟩
  · exact Reader.parseText_of_mem Request.reader_inverts (by decide) q.whole_json
  · have hle : d.millis ≤ Delay.limit := RuleDocument.le_limit_of_reader (Reader.read_of_parse hread)
    intro text htext
    rw [d.parseText_json text htext, if_pos hle]
  · exact Reader.parseText_of_mem Response.reader_inverts (by decide) r.whole_json

theorem documents_read_back_lenient :
    let source := pieces ("\x7b\"delay\": \x7b\"delayTimeInMillis\": -5\x7d, \"response\": " ++
      "\x7b\"statusCode\": \"+201\", \"headers\": \x7b\"X-A\": \"one\"\x7d\x7d\x7d")
    let d : RuleDocument := { RuleDocument.blank with
      delay := some ⟨0⟩
      response := ⟨201, .ofPairs [("X-A", "one")], ""⟩ }
    RuleDocument.reader.parse source = .ok d ∧ RuleDocument.reader.parseText d.json.render = .ok d := by
  intro source d
  have hread : RuleDocument.reader.parse source = .ok d := by decide +kernel
  exact ⟨hread, documents_read_back.2.2.1 source d hread _ List.mem_cons_self⟩

end StubHttp
