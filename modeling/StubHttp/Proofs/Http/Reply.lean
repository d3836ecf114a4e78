import StubHttp.Http.Reply
import StubHttp.Proofs.Text.Dict
import StubHttp.Proofs.Text.Search

/-!
# Replies of rules

The reply of a rule has the body of its response, its status if it is one, and the headers of the response
under their names in lower case. What is no header name, what is no value, and the length are left out.
-/
namespace StubHttp

open Text Multimap

variable {n name : String} {values : List String}

theorem Multimap.valuesOf_flatMap {α : Type} (f : α → List (String × String)) (l : List α)
    (name : String) : valuesOf (l.flatMap f) name = l.flatMap fun a => valuesOf (f a) name := by
  simp only [valuesOf, List.filter_flatMap, List.map_flatMap]

theorem Multimap.valuesOf_pairs (k : String) (vs : List String) (name : String) :
    valuesOf (vs.map fun v => (k, v)) name = if k = name then vs else [] := by
  by_cases h : k = name
  · simp [valuesOf, h, List.filter_map, Function.comp_def]
  · simp [valuesOf, h, List.filter_map, Function.comp_def]

namespace Header

def isToken (s : String) : Bool := !s.toList.isEmpty && s.toList.all isTokenChar

def isVisible (s : String) : Bool :=
  s.toList.all fun c => (32 ≤ c.toNat && c.toNat < 127) || c = '\t'

theorem isName_eq (s : String) : isName s = (isToken s && decide (s.toList.length < 0x10000)) := rfl

theorem isValue_of_ascii {s : String} (h : ∀ c ∈ s.toList, c.toNat < 128) :
    isValue s = isVisible s := by
  rw [Bool.eq_iff_iff, isValue, isVisible, List.all_eq_true, List.all_eq_true]
  refine forall₂_congr fun c hc => ?_
  have hlt := h c hc
  simp only [Bool.or_eq_true, Bool.and_eq_true, decide_eq_true_eq]
  exact or_congr_left (by omega)

end Header

namespace HttpResponse

theorem valuesOf_headerLines (hn : lowerCase n = n) (hlength : n ≠ "content-length") :
    valuesOf (headerLines name values) n =
      if sameIgnoringCase name n && Header.isName name then values.filter Header.isValue else [] := by
  have hsame : sameIgnoringCase name n = decide (lowerCase name = n) := by
    rw [Bool.eq_iff_iff, sameIgnoringCase_iff, hn, decide_eq_true_iff]
  have hkey : lowerCase name = n → sameIgnoringCase name "content-length" = false := by
    intro h
    rw [Bool.eq_false_iff, Ne, sameIgnoringCase_iff, h]
    exact hlength
  rw [headerLines, hsame]
  by_cases h : lowerCase name = n
  · cases hname : Header.isName name with
    | false => simp [valuesOf]
    | true => simp [hkey h, h, valuesOf_pairs]
  · split
    · simp [h, valuesOf]
    · simp [h, valuesOf_pairs]

theorem lower_of_mem_headerLines {e : String × String} (h : e ∈ headerLines name values) :
    lowerCase e.1 = e.1 ∧ sameIgnoringCase e.1 "content-length" = false := by
  rw [headerLines] at h
  split at h
  · cases h
  case isFalse hname =>
    obtain ⟨v, -, rfl⟩ := List.mem_map.1 h
    rw [Bool.or_eq_true, not_or, sameIgnoringCase_iff, ← lowerCase_lowerCase name,
      ← sameIgnoringCase_iff, Bool.not_eq_true] at hname
    exact ⟨lowerCase_lowerCase name, hname.1⟩

/-- The headers of the reply are those of the response, by what counts as a name and as a value: under a
name in lower case the values of its keys, in the order of the keys. -/
def Gathers (named valued : String → Bool) (r : Response) : Prop :=
  ∀ n, lowerCase n = n → n ≠ "content-length" →
    valuesOf (ofResponse r).headers n = r.headers.entries.flatMap fun e =>
      if sameIgnoringCase e.1 n && named e.1 then e.2.filter valued else []

theorem gathers_ofResponse (r : Response) : Gathers Header.isName Header.isValue r := by
  intro n hn hlength
  rw [ofResponse, valuesOf_flatMap]
  exact List.flatMap_congr fun e _ => valuesOf_headerLines hn hlength

/-- The reply of a rule has the body of its response, and its status if this is one, else 500. Its headers
are in lower case and none is the length; each name has the values of the keys that differ from it in case
only, if they are header names, without those that are no header values. Of ASCII a header value has what
can be seen and tabs. -/
theorem ofResponse_gathers (r : Response) :
    (ofResponse r).body = r.body ∧
      (ofResponse r).status =
        (if 100 ≤ r.status.toNat ∧ r.status.toNat ≤ 999 then r.status.toNat else 500) ∧
      (∀ e ∈ (ofResponse r).headers,
        lowerCase e.1 = e.1 ∧ sameIgnoringCase e.1 "content-length" = false) ∧
      Gathers Header.isName Header.isValue r ∧
      ∀ v : String, (∀ c ∈ v.toList, c.toNat < 128) → Header.isValue v = Header.isVisible v := by
  refine ⟨rfl, rfl, fun e he => ?_, gathers_ofResponse r, fun v => Header.isValue_of_ascii⟩
  obtain ⟨x, -, hx⟩ := List.mem_flatMap.1 he
  exact lower_of_mem_headerLines hx

/-- Keys in two cases, a key that is no name, a value that is none, and one beyond ASCII. -/
theorem ofResponse_gathers_cases :
    let headers : Multimap := ⟨[("Content-Length", ["9"]), ("X-A", ["1\t2", "1\n2"]), ("x a", ["3"]),
      ("x-a", ["4", "é"])], by decide⟩
    let r : Response := ⟨1000, headers, "done"⟩
    (ofResponse r).status = 500 ∧ lowerCase "x-a" = "x-a" ∧
      valuesOf (ofResponse r).headers "x-a" = ["1\t2", "4", "é"] ∧
      ("x-a", "é") ∈ (ofResponse r).headers ∧ sameIgnoringCase "x-a" "content-length" = false ∧
      Header.isValue "1\t2" = Header.isVisible "1\t2" := by
  intro headers r
  obtain ⟨-, hstatus, hlower, hgathers, hvalue⟩ := ofResponse_gathers r
  have hmem : ("x-a", "é") ∈ (ofResponse r).headers := by decide
  refine ⟨hstatus.trans (by decide), (hlower _ hmem).1, ?_, hmem, (hlower _ hmem).2,
    hvalue _ (by simp)⟩
  exact (hgathers "x-a" (hlower _ hmem).1 (by decide)).trans (by decide)

theorem not_gathers_of_long {long : String} (htoken : Header.isToken long = true)
    (hlong : 0x10000 ≤ long.toList.length) (hlower : lowerCase long = long) :
    ¬ Gathers Header.isToken Header.isValue
      ⟨200, ⟨[(long, ["v"])], List.pairwise_singleton _ _⟩, ""⟩ := by
  intro h
  have hne : long ≠ "content-length" := by
    rintro rfl
    simp at hlong
  have hname : Header.isName long = false := by simp [Header.isName_eq, hlong]
  have hsame : sameIgnoringCase long long = true := sameIgnoringCase_iff.2 rfl
  have htaken := h long hlower hne
  rw [gathers_ofResponse _ long hlower hne] at htaken
  simp [hname, hsame, htoken, Header.isValue] at htaken

theorem not_gathers_visible :
    let long := String.ofList (List.replicate 0x10000 'x')
    ¬ Gathers Header.isToken Header.isVisible
        ⟨200, ⟨[("x", ["é"])], List.pairwise_singleton _ _⟩, ""⟩ ∧
      ¬ Gathers Header.isToken Header.isValue
        ⟨200, ⟨[(long, ["v"])], List.pairwise_singleton _ _⟩, ""⟩ := by
  intro long
  constructor
  · intro h
    exact absurd (h "x" (by decide) (by decide)) (by decide)
  · have hchars : long.toList = List.replicate 0x10000 'x' := String.toList_ofList
    refine not_gathers_of_long ?_ ?_ ?_
    · rw [Header.isToken, hchars, List.all_replicate]
      decide
    · rw [hchars, List.length_replicate]
    · rw [lowerCase, hchars, List.map_replicate]
      rfl

end HttpResponse

end StubHttp
