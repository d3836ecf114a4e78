import StubHttp.Http.Capture
import StubHttp.Proofs.Predicate.Lines
import StubHttp.Proofs.Text.Dict
import StubHttp.Proofs.Text.Search
import StubHttp.Proofs.Text.Utf8

/-!
# Header lines of rules

A request is captured with its headers under their names in lower case, each with its values in order. A
rule line about a header is about the first header on the wire that has its key as name, in any case; the
value is compared with its case.
-/
namespace StubHttp

open Text

theorem Assoc.find?_key {β : Type} (k : String) (l : List (String × β)) :
    (l.find? fun e => e.1 = k).map (·.2) = l.lookup k := by
  induction l with
  | nil => rfl
  | cons e l ih =>
    rw [lookup_cons, List.find?_cons]
    by_cases h : e.1 = k
    · simp [h]
    · simp [h, Ne.symm h, ih]

theorem Multimap.mem_of_mem_ofPairs {l : List (String × String)} {e : String × List String}
    (h : e ∈ (ofPairs l).entries) : e.1 ∈ l.map (·.1) := by
  by_contra hnot
  have hnone := List.lookup_eq_none_iff.1 (get?_ofPairs_of_not_mem hnot) e h
  simp at hnone

theorem Request.headerValues?_of_lower {q : Request}
    (hlower : ∀ e ∈ q.headers.entries, lowerCase e.1 = e.1) (key : String) :
    q.headerValues? key = q.headers.get? (lowerCase key) := by
  have hfind : (q.headers.entries.find? fun e => sameIgnoringCase e.1 key).map (·.2) =
      q.headers.get? (lowerCase key) := by
    have hsame : ∀ e ∈ q.headers.entries, sameIgnoringCase e.1 key = decide (e.1 = lowerCase key) := by
      intro e he
      rw [sameIgnoringCase_eq_decide, hlower e he]
    rw [← List.head?_filter, List.filter_congr hsame, List.head?_filter]
    exact Assoc.find?_key _ _
  rw [headerValues?, hfind]
  cases hexact : q.headers.get? key with
  | none => rfl
  | some vs =>
    obtain ⟨before, after, hentries, -⟩ := List.lookup_eq_some_iff.1 hexact
    have hkey : lowerCase key = key := hlower (key, vs) (by simp [hentries])
    rw [hkey, hexact, Option.some_or]

namespace HttpRequest

/-- The headers of a request are those on the wire with their names in lower case, and the values of one
name in their order on the wire. -/
def Carries (r : HttpRequest) (wire : List (String × List UInt8)) : Prop :=
  ∀ n, r.headers.filter (·.1 = n) = (wire.filter fun h => lowerCase h.1 = n).map fun h => (n, h.2)

variable {r : HttpRequest} {wire : List (String × List UInt8)}

theorem carries_map (method : String) (target : Target) (wire : List (String × List UInt8))
    (body : Except String (List UInt8)) :
    Carries ⟨method, target, wire.map fun h => (lowerCase h.1, h.2), body⟩ wire := by
  intro n
  rw [List.filter_map]
  refine List.map_congr_left fun h hh => ?_
  have hname : lowerCase h.1 = n := by simpa using (List.mem_filter.1 hh).2
  rw [hname]

theorem Carries.lower (hr : r.Carries wire) {h : String × List UInt8} (hmem : h ∈ r.headers) :
    lowerCase h.1 = h.1 := by
  have hfilter : h ∈ r.headers.filter (·.1 = h.1) := List.mem_filter.2 ⟨hmem, by simp⟩
  rw [hr h.1] at hfilter
  obtain ⟨w, hw, -⟩ := List.mem_map.1 hfilter
  have hname : lowerCase w.1 = h.1 := by simpa using (List.mem_filter.1 hw).2
  rw [← hname, lowerCase_lowerCase]

theorem Carries.header?_eq (hr : r.Carries wire) {name : String} (hname : Header.isName name = true) :
    r.header? name = (wire.find? fun h => sameIgnoringCase h.1 name).map (·.2) := by
  simp only [sameIgnoringCase_eq_decide]
  rw [header?, if_pos hname, ← Assoc.find?_key, ← List.head?_filter, hr, List.head?_map,
    List.head?_filter, Option.map_map]
  rfl

theorem Carries.header?_capture (hr : r.Carries wire) (overrideHeader : String) (body : List UInt8)
    (key : String) : (r.capture overrideHeader body).header? key =
      (wire.find? fun h => sameIgnoringCase h.1 key).map fun h => Utf8.lossy h.2 := by
  have hlower : ∀ e ∈ (r.capture overrideHeader body).headers.entries, lowerCase e.1 = e.1 := by
    intro e he
    obtain ⟨x, hx, hname⟩ := List.mem_map.1 (Multimap.mem_of_mem_ofPairs he)
    obtain ⟨h, hh, rfl⟩ := List.mem_map.1 hx
    rw [← hname]
    exact hr.lower hh
  have hvalues : Multimap.valuesOf (r.headers.map fun h => (h.1, Utf8.lossy h.2)) (lowerCase key) =
      (r.headers.filter (·.1 = lowerCase key)).map fun h => Utf8.lossy h.2 := by
    rw [Multimap.valuesOf, List.filter_map, List.map_map]
    rfl
  calc (r.capture overrideHeader body).header? key
      = (r.headers.map fun h => (h.1, Utf8.lossy h.2)).lookup (lowerCase key) := by
        rw [Request.header?, Request.headerValues?_of_lower hlower]
        exact Multimap.head?_get?_ofPairs _ _
    _ = ((wire.filter fun h => lowerCase h.1 = lowerCase key).map fun h => Utf8.lossy h.2).head? := by
        rw [← Multimap.head?_valuesOf, hvalues, hr, List.map_map]
        rfl
    _ = (wire.find? fun h => sameIgnoringCase h.1 key).map fun h => Utf8.lossy h.2 := by
        simp only [List.head?_map, List.head?_filter, sameIgnoringCase_eq_decide]

end HttpRequest

section

variable [Pattern.Engine]

theorem Operator.Relates.isInfix {op : Operator} {value required : String} (hop : op ≠ .fits)
    (h : op.Relates value required) : required.toList <:+: value.toList := by
  cases op with
  | equals =>
    obtain rfl : value = required := h
    exact List.infix_rfl
  | contains => exact h
  | startsWith => exact List.IsPrefix.isInfix h
  | endsWith => exact List.IsSuffix.isInfix h
  | fits => exact absurd rfl hop

namespace Condition

variable {line line' key key' : String} {c c' : Condition} {r : HttpRequest}
  {wire : List (String × List UInt8)}

theorem holds_header_iff (hline : parse line = .ok c) (hkey : c.rule.field = .header key)
    (hr : r.Carries wire) (overrideHeader : String) (body : List UInt8) :
    c.holds (r.capture overrideHeader body) = true ↔
      ∃ h, wire.find? (fun h => sameIgnoringCase h.1 key) = some h ∧
        c.rule.operator.Relates (Utf8.lossy h.2) c.rule.value := by
  obtain ⟨x, m, -, hm, rfl⟩ := parse_eq_ok_iff.1 hline
  have hfield : x.field = .header key := hkey
  rw [holds, Matcher.test_iff hm, hfield, Field.read, hr.header?_capture]
  simp

/-- A rule line about a header holds of a request exactly if the request has a header with the key of the
line as name, in any case, and the first such header on the wire has a value that stands to the required
one as the operator says. So two such lines with one operator and one required value, and keys that differ
in case only, hold of the same requests; but a value that passes has the required one in it with its case,
unless that is a pattern. -/
theorem header_line_by_wire (hline : parse line = .ok c) (hkey : c.rule.field = .header key)
    (hr : r.Carries wire) (overrideHeader : String) (body : List UInt8) :
    (c.holds (r.capture overrideHeader body) = true ↔
      ∃ h, wire.find? (fun h => sameIgnoringCase h.1 key) = some h ∧
        c.rule.operator.Relates (Utf8.lossy h.2) c.rule.value) ∧
    (∀ line' c' key', parse line' = .ok c' → c'.rule.field = .header key' →
      c'.rule.operator = c.rule.operator → c'.rule.value = c.rule.value →
      sameIgnoringCase key key' = true →
        c'.holds (r.capture overrideHeader body) = c.holds (r.capture overrideHeader body)) ∧
    ∀ op value required, op ≠ .fits → Operator.Relates op value required →
      required.toList <:+: value.toList := by
  refine ⟨holds_header_iff hline hkey hr overrideHeader body, ?_,
    fun _ _ _ hop h => Operator.Relates.isInfix hop h⟩
  intro line' c' key' hline' hkey' hop hvalue hsame
  have hfind : (fun h : String × List UInt8 => sameIgnoringCase h.1 key') =
      fun h => sameIgnoringCase h.1 key := by
    funext h
    rw [Bool.eq_iff_iff, sameIgnoringCase_iff, sameIgnoringCase_iff, sameIgnoringCase_iff.1 hsame]
  rw [Bool.eq_iff_iff, holds_header_iff hline' hkey' hr, holds_header_iff hline hkey hr, hfind, hop,
    hvalue]

end Condition

end

theorem Condition.header_line_by_wire_twice :
    let wire := [("accept", Utf8.bytes "abc"), ("X-trace", Utf8.bytes "abc"),
      ("x-TRACE", Utf8.bytes "ABC")]
    let r : HttpRequest := ⟨"GET", ⟨"/", none⟩, wire.map fun h => (lowerCase h.1, h.2), .ok []⟩
    let low := "headers contain entry 'X-Trace' whose value is 'abc'"
    let low' := "headers contain entry 'x-tracE' whose value is 'abc'"
    let high := "headers contain entry 'x-trace' whose value is 'ABC'"
    let c (line key value : String) : Condition :=
      ⟨⟨line, .header key, .equals, value⟩, .header key, .equals value⟩
    r.Carries wire ∧ sameIgnoringCase "X-Trace" "x-tracE" = true ∧
      parse low = .ok (c low "X-Trace" "abc") ∧ parse low' = .ok (c low' "x-tracE" "abc") ∧
      parse high = .ok (c high "x-trace" "ABC") ∧
      (c low "X-Trace" "abc").holds (r.capture "" []) = true ∧
      (c low' "x-tracE" "abc").holds (r.capture "" []) = true ∧
      (c high "x-trace" "ABC").holds (r.capture "" []) = false := by
  intro wire r low low' high c
  have hr : r.Carries wire := HttpRequest.carries_map _ _ _ _
  have hsame : sameIgnoringCase "X-Trace" "x-tracE" = true := by decide
  have hlow : parse low = .ok (c low "X-Trace" "abc") :=
    parse_eq_ok_iff.2 ⟨_, .equals "abc", by decide, rfl, rfl⟩
  have hlow' : parse low' = .ok (c low' "x-tracE" "abc") :=
    parse_eq_ok_iff.2 ⟨_, .equals "abc", by decide, rfl, rfl⟩
  have hhigh : parse high = .ok (c high "x-trace" "ABC") :=
    parse_eq_ok_iff.2 ⟨_, .equals "ABC", by decide, rfl, rfl⟩
  obtain ⟨hholds, halike, -⟩ := header_line_by_wire hlow rfl hr "" []
  have hfound : (c low "X-Trace" "abc").holds (r.capture "" []) = true :=
    hholds.2 ⟨("X-trace", Utf8.bytes "abc"), by decide +kernel, Utf8.lossy_bytes "abc"⟩
  refine ⟨hr, hsame, hlow, hlow', hhigh, hfound, ?_, ?_⟩
  · rw [halike _ _ _ hlow' rfl rfl rfl hsame, hfound]
  · rw [Bool.eq_false_iff, Ne, (header_line_by_wire hhigh rfl hr "" []).1]
    rintro ⟨h, hh, hvalue⟩
    have hfirst : wire.find? (fun h => sameIgnoringCase h.1 "x-trace") =
        some ("X-trace", Utf8.bytes "abc") := by decide +kernel
    rw [hfirst] at hh
    obtain rfl := Option.some.inj hh
    have hne : Utf8.lossy (Utf8.bytes "abc") ≠ "ABC" := by
      rw [Utf8.lossy_bytes]
      decide
    exact hne hvalue

end StubHttp
