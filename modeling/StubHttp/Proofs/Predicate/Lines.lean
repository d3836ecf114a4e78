import Mathlib.Data.List.Forall2
import StubHttp.Proofs.Except
import StubHttp.Proofs.Predicate
import StubHttp.Proofs.Rule.Parse
import StubHttp.Proofs.Text.Dict
import StubHttp.Proofs.Text.Search

/-!
# What the lines of a declaration ask for

A declaration has a predicate exactly if it has lines and a type and each of its lines is accepted by
itself. If it has none, it is told what is missing, or else what is wrong with the first line that is not
accepted. The predicate accepts the requests that have, for each line, a value in the field of the line
that stands to the required value as the operator says. All this is so for any engine of patterns.
-/
namespace StubHttp

open Pattern

/-- How a value stands to the one that an operator requires. A pattern is compiled with the marks for
start and end of the value around it, and matches somewhere in the value. -/
def Operator.Relates [Engine] (op : Operator) (value required : String) : Prop :=
  match op with
  | .equals => value = required
  | .contains => required.toList <:+: value.toList
  | .startsWith => required.toList <+: value.toList
  | .endsWith => required.toList <:+ value.toList
  | .fits => ∃ found, Engine.compile (whole required) = .ok found ∧ found value = true

/-- The first value that a request has in a field. A header has the values under its very name, or if there
are none under this name, those under the first name that differs from it in case only. -/
def Field.Holds (f : Field) (q : Request) (v : String) : Prop :=
  match f with
  | .method => v = q.method
  | .url => v = q.url
  | .body => v = q.body
  | .param k => ∃ vs, (k, v :: vs) ∈ q.params.entries
  | .header k =>
    (∃ vs, (k, v :: vs) ∈ q.headers.entries) ∨
      (∀ e ∈ q.headers.entries, e.1 ≠ k) ∧ ∃ before k' vs after,
        q.headers.entries = before ++ (k', v :: vs) :: after ∧ k'.toLower = k.toLower ∧
          ∀ e ∈ before, e.1.toLower ≠ k.toLower

/-- A line that is read as a rule, with a pattern that compiles if it requires one. -/
def Rule.Accepted [Engine] (line : String) : Prop :=
  ∃ r, parse line = .ok r ∧
    (r.operator = .fits → ∃ found, Engine.compile (whole r.value) = .ok found)

variable {q : Request} {v line : String}

namespace Field

theorem get?_head_iff {m : Multimap} {k : String} :
    (m.get? k).bind List.head? = some v ↔ ∃ vs, (k, v :: vs) ∈ m.entries := by
  simp only [Option.bind_eq_some_iff, List.head?_eq_some_iff, Dict.get?_eq_some_iff]
  exact ⟨fun ⟨_, hmem, vs, h⟩ => ⟨vs, h ▸ hmem⟩, fun ⟨vs, hmem⟩ => ⟨_, hmem, vs, rfl⟩⟩

theorem header?_eq_some_iff {k : String} : q.header? k = some v ↔ (header k).Holds q v := by
  rw [Request.header?, Request.headerValues?, Holds]
  cases hexact : q.headers.get? k with
  | some vs =>
    have hmem := Dict.get?_eq_some_iff.1 hexact
    have hsome : (some vs).bind List.head? = some v ↔ ∃ vs, (k, v :: vs) ∈ q.headers.entries := by
      rw [← hexact, get?_head_iff]
    rw [Option.some_or, hsome]
    exact ⟨.inl, fun h => h.resolve_right fun hnone => hnone.1 _ hmem rfl⟩
  | none =>
    have hnone := Dict.get?_eq_none_iff.1 hexact
    have hcase : ∀ e : String × List String,
        Text.sameIgnoringCase e.1 k = true ↔ e.1.toLower = k.toLower :=
      fun e => Text.sameIgnoringCase_iff_toLower
    simp only [Option.none_or, Option.bind_map, Option.bind_eq_some_iff, Function.comp_apply,
      List.head?_eq_some_iff, List.find?_eq_some_iff_append, Bool.not_eq_true', ← Bool.not_eq_true,
      hcase]
    constructor
    · rintro ⟨⟨k', _⟩, ⟨hk, before, after, hentries, hbefore⟩, vs, rfl⟩
      exact .inr ⟨hnone, before, k', vs, after, hentries, hk, hbefore⟩
    · rintro (⟨vs, hmem⟩ | ⟨-, before, k', vs, after, hentries, hk, hbefore⟩)
      · exact absurd rfl (hnone _ hmem)
      · exact ⟨_, ⟨hk, before, after, hentries, hbefore⟩, vs, rfl⟩

theorem read_eq_some_iff {f : Field} : f.read q = some v ↔ f.Holds q v := by
  cases f with
  | method => simp [read, Holds, eq_comm]
  | url => simp [read, Holds, eq_comm]
  | body => simp [read, Holds, eq_comm]
  | param k => exact get?_head_iff
  | header k => exact header?_eq_some_iff

end Field

theorem Field.field?_kind (f : Field) : f.kind.field? f.key? = some f := by cases f <;> rfl

section

variable [Engine]

theorem Matcher.accepts_iff {op : Operator} {required : String} {m : Matcher}
    (h : compile op required = .ok m) : m.accepts v = true ↔ op.Relates v required := by
  cases op with
  | fits =>
    obtain ⟨found, hfound, rfl⟩ := map_eq_ok h
    simp [accepts, Operator.Relates, hfound]
  | equals => cases h; simp [accepts, Operator.Relates]
  | contains => cases h; simp [accepts, Operator.Relates, Text.occurs_iff]
  | startsWith => cases h; simp [accepts, Operator.Relates]
  | endsWith => cases h; simp [accepts, Operator.Relates]

theorem Matcher.test_iff {op : Operator} {required : String} {m : Matcher} {value : Option String}
    (h : compile op required = .ok m) :
    m.test value = true ↔ ∃ v, value = some v ∧ op.Relates v required := by
  rw [test, Option.any_eq_true]
  exact exists_congr fun v => and_congr_right fun _ => accepts_iff h

theorem Matcher.exists_compile_iff {op : Operator} {required : String} :
    (∃ m, compile op required = .ok m) ↔
      (op = .fits → ∃ found, Engine.compile (whole required) = .ok found) := by
  cases op with
  | fits =>
    rw [compile]
    cases Engine.compile (whole required) <;> simp [Except.map]
  | equals => simp [compile]
  | contains => simp [compile]
  | startsWith => simp [compile]
  | endsWith => simp [compile]

namespace Condition

theorem compile_eq (r : Rule) : compile r =
    match Matcher.compile r.operator r.value with
    | .error why => .error (.badPattern r.value why)
    | .ok m => .ok ⟨r, r.field, m⟩ := by
  have hfield : r.kind.field? r.key? = some r.field := r.field.field?_kind
  unfold compile
  cases Matcher.compile r.operator r.value <;> simp only [hfield]

theorem parse_eq_ok_iff {c : Condition} : parse line = .ok c ↔ ∃ r m, Rule.parse line = .ok r ∧
    Matcher.compile r.operator r.value = .ok m ∧ c = ⟨r, r.field, m⟩ := by
  rw [parse]
  cases Rule.parse line with
  | error e => simp
  | ok r =>
    simp only [compile_eq, Except.ok.injEq, exists_and_left, exists_eq_left']
    cases Matcher.compile r.operator r.value with
    | error why => simp
    | ok m => simp [eq_comm]

theorem exists_parse_iff : (∃ c, parse line = .ok c) ↔ Rule.Accepted line := by
  simp only [parse_eq_ok_iff, Rule.Accepted, ← Matcher.exists_compile_iff]
  constructor
  · rintro ⟨c, r, m, hr, hm, -⟩
    exact ⟨r, hr, m, hm⟩
  · rintro ⟨r, hr, m, hm⟩
    exact ⟨_, r, m, hr, hm, rfl⟩

theorem holds_iff {c : Condition} (h : parse line = .ok c) : c.holds q = true ↔
    ∃ r v, Rule.parse line = .ok r ∧ r.field.Holds q v ∧ r.operator.Relates v r.value := by
  obtain ⟨r, m, hr, hm, rfl⟩ := parse_eq_ok_iff.1 h
  simp only [holds, Matcher.test_iff hm, Field.read_eq_some_iff, hr, Except.ok.injEq,
    exists_eq_left', exists_and_left]

end Condition

namespace Predicate

variable {lines : List String}

theorem conditionsOf_eq_ok_iff {cs : List Condition} : conditionsOf lines = .ok cs ↔
    List.Forall₂ (fun line c => Condition.parse line = .ok c) lines cs := by
  induction lines generalizing cs with
  | nil => simp [conditionsOf, eq_comm]
  | cons line lines ih =>
    rw [conditionsOf, List.forall₂_cons_left_iff]
    cases Condition.parse line with
    | error e => simp
    | ok c =>
      cases hmore : conditionsOf lines with
      | error e => simp [← ih, hmore, Except.map]
      | ok cs' =>
        simp only [Except.map, Except.ok.injEq, ← ih, hmore]
        constructor
        · intro h
          exact ⟨c, cs', rfl, rfl, h.symm⟩
        · rintro ⟨_, _, rfl, rfl, h⟩
          exact h.symm

theorem exists_conditionsOf_iff :
    (∃ cs, conditionsOf lines = .ok cs) ↔ ∀ line ∈ lines, Rule.Accepted line := by
  simp only [conditionsOf_eq_ok_iff]
  induction lines with
  | nil => simp
  | cons line lines ih =>
    rw [List.forall_mem_cons, ← ih, ← Condition.exists_parse_iff]
    constructor
    · rintro ⟨_, h⟩
      cases h with
      | cons hline hlines => exact ⟨⟨_, hline⟩, _, hlines⟩
    · rintro ⟨⟨c, hline⟩, cs, hlines⟩
      exact ⟨c :: cs, .cons hline hlines⟩

theorem all_holds_iff {cs : List Condition} (h : conditionsOf lines = .ok cs) :
    cs.all (·.holds q) = true ↔ ∀ line ∈ lines,
      ∃ r v, Rule.parse line = .ok r ∧ r.field.Holds q v ∧ r.operator.Relates v r.value := by
  induction conditionsOf_eq_ok_iff.1 h with
  | nil => simp
  | cons hline hlines ih =>
    simp [Condition.holds_iff hline, ih (conditionsOf_eq_ok_iff.2 hlines)]

end Predicate

/-- What is wrong with a declaration: its lines are missing, or else its type, or else it is what is wrong
with the first line that is not accepted. -/
inductive Declaration.Fault (d : Declaration) : DeclarationError → Prop
  | noLines (hlines : d.lines = []) : d.Fault (.noLines d.requestType)
  | noRequestType (hlines : d.lines ≠ []) (htype : d.requestType = "") :
      d.Fault (.noRequestType d.lines)
  | line {before after : List String} {line : String} {why : DeclarationError}
      (htype : d.requestType ≠ "") (hlines : d.lines = before ++ line :: after)
      (hbefore : ∀ l ∈ before, Rule.Accepted l) (hline : Condition.parse line = .error why) :
      d.Fault why

namespace RuleDocument

variable {d : RuleDocument} {p : Predicate}

theorem predicate_eq (d : RuleDocument) : d.predicate =
    if d.declaration.lines = [] then .error (.ofDeclaration (.noLines d.declaration.requestType))
    else if d.declaration.requestType = "" then
      .error (.ofDeclaration (.noRequestType d.declaration.lines))
    else
      match Predicate.conditionsOf d.declaration.lines with
      | .error e => .error (.ofDeclaration e)
      | .ok cs => .ok ⟨⟨d.declaration.lines, Predicate.rank d.priority, d.lifetime,
          d.declaration.requestType⟩, cs⟩ := by
  rw [predicate, Predicate.ofDocument]
  by_cases hlines : d.declaration.lines = []
  · simp [hlines]
  · by_cases htype : d.declaration.requestType = ""
    · simp [hlines, htype]
    · simp only [hlines, htype, List.isEmpty_iff, String.isEmpty_iff, if_false]
      cases Predicate.conditionsOf d.declaration.lines <;> rfl

theorem conditionsOf_of_predicate (h : d.predicate = .ok p) :
    Predicate.conditionsOf d.declaration.lines = .ok p.conditions := by
  rw [predicate] at h
  split at h
  case h_1 hp =>
    cases h
    exact (Predicate.ofDocument_eq_ok hp).2.1
  case h_2 => cases h

theorem exists_predicate_iff : (∃ p, d.predicate = .ok p) ↔
    d.declaration.lines ≠ [] ∧ d.declaration.requestType ≠ "" ∧
      ∀ line ∈ d.declaration.lines, Rule.Accepted line := by
  rw [predicate_eq, ← Predicate.exists_conditionsOf_iff]
  by_cases hlines : d.declaration.lines = []
  · simp [hlines]
  · by_cases htype : d.declaration.requestType = ""
    · simp [hlines, htype]
    · cases Predicate.conditionsOf d.declaration.lines <;> simp [hlines, htype]

end RuleDocument

end

end StubHttp
