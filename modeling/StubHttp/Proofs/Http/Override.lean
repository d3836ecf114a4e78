import StubHttp.Http.Capture
import StubHttp.Proofs.Http.Weight

/-!
# Targets that a header overrides

A header may put a reference in the place of the target of a request. Where a reference that starts with
a slash has no `://` in it, it is read as the same text on a request line. Otherwise the text up to the
next slash or question mark is taken for a scheme and an authority, also within a query, and the two
readings differ in the path or in the parameters.
-/
namespace StubHttp

open Text

namespace Target

variable {t : String}

def params (t : Target) : Multimap := (t.query.map Query.parse).getD {}

theorem ofRequestLine_of_slash (hslash : t.toList.head? = some '/') (hfrag : '#' ∉ t.toList) :
    ofRequestLine t = ofRelative t.toList := by
  have hstar : t ≠ "*" := by
    intro h
    rw [h] at hslash
    simp at hslash
  rw [ofRequestLine, if_neg hstar, if_pos hslash, cut_of_not_mem hfrag]

theorem ofReference_of_unlinked (hfrag : '#' ∉ t.toList) (h : ¬ "://".toList <:+: t.toList) :
    ofReference t = ofRelative t.toList := by
  rw [ofReference, cut_of_not_mem hfrag, after?_eq_none_iff.2 h]

/-- What a reference with `://` in it is read as: what stands behind the authority. -/
theorem ofReference_of_linked (hfrag : '#' ∉ t.toList) (h : "://".toList <:+: t.toList) :
    ∃ p authority s, t.toList = p ++ "://".toList ++ authority ++ s ∧ '?' ∉ authority ∧
      ofReference t = ofRelative s := by
  obtain ⟨rest, hrest⟩ := Option.ne_none_iff_exists'.1 (mt after?_eq_none_iff.1 (not_not.2 h))
  obtain ⟨p, hp⟩ := eq_append_of_after? hrest
  refine ⟨p, rest.takeWhile fun c => c ≠ '/' ∧ c ≠ '?', rest.dropWhile fun c => c ≠ '/' ∧ c ≠ '?',
    ?_, ?_, ?_⟩
  · rw [List.append_assoc, List.takeWhile_append_dropWhile, hp]
  · intro hmem
    have hne := List.mem_takeWhile_imp hmem
    simp at hne
  · rw [ofReference, cut_of_not_mem hfrag, hrest]

theorem path_ofRelative (cs : List Char) : (ofRelative cs).path = String.ofList (cut '?' cs).1 := rfl

theorem query_ofRelative (cs : List Char) :
    (ofRelative cs).query = (cut '?' cs).2.map String.ofList := rfl

theorem weight_params_ofRelative (cs : List Char) :
    (ofRelative cs).params.weight = ((cut '?' cs).2.map Query.weight).getD 0 := by
  rw [params, query_ofRelative]
  cases (cut '?' cs).2 with
  | none => rfl
  | some q =>
    simp only [Option.map_some, Option.getD_some, Query.weight_parse, String.toList_ofList]

theorem path_append_ne {u : List Char} (s : List Char) (hu : '?' ∉ u) (hne : u ≠ []) :
    (ofRelative s).path ≠ (ofRelative (u ++ s)).path := by
  rw [path_ofRelative, path_ofRelative, cut_append_of_not_mem s hu]
  intro h
  have hlen := congrArg (fun p : String => p.toList.length) h
  simp only [String.toList_ofList, List.length_append] at hlen
  have hpos := List.length_pos_of_ne_nil hne
  omega

theorem params_append_ne {a z s : List Char} {c : Char} (ha : '?' ∉ a) (hc : c ∈ z) (hne : c ≠ '&') :
    (ofRelative s).params ≠ (ofRelative (a ++ '?' :: z ++ s)).params := by
  intro h
  have hweight := congrArg Multimap.weight h
  rw [weight_params_ofRelative, weight_params_ofRelative, List.append_assoc, List.cons_append,
    cut_append_cons _ ha, Option.map_some, Option.getD_some] at hweight
  by_cases hs : '?' ∈ s
  · obtain ⟨path, query, rfl, hpath⟩ := List.eq_append_cons_of_mem hs
    rw [cut_append_cons _ hpath, Option.map_some, Option.getD_some, ← List.append_assoc] at hweight
    exact Nat.ne_of_lt (Query.weight_lt_of_question (z ++ path) query) hweight
  · rw [cut_of_not_mem hs, Option.map_none, Option.getD_none] at hweight
    exact Nat.ne_of_lt (Query.weight_pos (List.mem_append_left s hc) hne) hweight

theorem ofReference_agrees_iff (hslash : t.toList.head? = some '/') (hfrag : '#' ∉ t.toList) :
    ((ofReference t).path = (ofRequestLine t).path ∧
      (ofReference t).params = (ofRequestLine t).params) ↔ ¬ "://".toList <:+: t.toList := by
  rw [ofRequestLine_of_slash hslash hfrag]
  constructor
  · intro hsame hinfix
    obtain ⟨p, authority, s, ht, hauthority, href⟩ := ofReference_of_linked hfrag hinfix
    rw [href, ht] at hsame
    by_cases hp : '?' ∈ p
    · obtain ⟨a, z, rfl, ha⟩ := List.eq_append_cons_of_mem hp
      have hcolon : ':' ∈ z ++ "://".toList ++ authority := by simp
      refine params_append_ne (s := s) ha hcolon (by decide) ?_
      rw [hsame.2]
      simp only [List.append_assoc, List.cons_append]
    · have hu : '?' ∉ p ++ "://".toList ++ authority := by simp [hp, hauthority]
      exact path_append_ne s hu (by simp) hsame.1
  · intro hnot
    rw [ofReference_of_unlinked hfrag hnot]
    exact ⟨rfl, rfl⟩

end Target

namespace HttpRequest

variable {header t : String} {r : HttpRequest}

theorem override?_of_lossy {v : List UInt8} (hr : r.header? header = some v) (hv : Utf8.lossy v ≠ "") :
    r.override? header = some (.ofReference (Utf8.lossy v)) := by
  simp only [override?, hr, Option.map_some, if_neg hv]

theorem override?_of_header (hr : r.header? header = some (Utf8.bytes t)) (ht : t ≠ "") :
    r.override? header = some (.ofReference t) := by
  rw [← Utf8.lossy_bytes t] at ht
  rw [override?_of_lossy hr ht, Utf8.lossy_bytes]

theorem override?_of_none (hr : r.header? header = none) : r.override? header = none := by
  simp only [override?, hr, Option.map_none]

/-- A request whose target a header overrides with a text that starts with a slash is captured with the
path and the parameters of a request to that text, exactly if the text has no `://` in it. -/
theorem capture_override_iff (hslash : t.toList.head? = some '/') (hfrag : '#' ∉ t.toList)
    {r r' : HttpRequest} (hr : r.header? header = some (Utf8.bytes t))
    (hr' : r'.header? header = none) (htarget : r'.target = .ofRequestLine t)
    (body body' : List UInt8) :
    ((r.capture header body).url = (r'.capture header body').url ∧
      (r.capture header body).params = (r'.capture header body').params) ↔
      ¬ "://".toList <:+: t.toList := by
  have ht : t ≠ "" := by
    intro h
    rw [h] at hslash
    simp at hslash
  rw [← Target.ofReference_agrees_iff hslash hfrag]
  simp only [capture, override?_of_header hr ht, override?_of_none hr', htarget, Option.getD_some,
    Option.getD_none, Target.params]

/-- A request that has a value in the header is captured with what this value refers to, whatever its own
target is. -/
theorem capture_of_lossy {v : List UInt8} (hr : r.header? header = some v) (hv : Utf8.lossy v ≠ "")
    (body : List UInt8) : (r.capture header body).url = (Target.ofReference (Utf8.lossy v)).path ∧
      (r.capture header body).params = (Target.ofReference (Utf8.lossy v)).params := by
  rw [capture, override?_of_lossy hr hv, Option.getD_some]
  exact ⟨rfl, rfl⟩

theorem header?_of_nil (h : r.headers = []) : r.header? header = none := by
  simp [header?, h]

theorem header?_of_singleton {v : List UInt8} (hname : Header.isName header = true)
    (hlower : lowerCase header = header) (h : r.headers = [(header, v)]) :
    r.header? header = some v := by
  simp [header?, hname, hlower, h]

theorem capture_override_plain :
    let t := "/a:b//c?to=/x?y:/z"
    let r : HttpRequest := ⟨"GET", ⟨"/", none⟩, [("x-target", Utf8.bytes t)], .ok []⟩
    let r' : HttpRequest := ⟨"GET", .ofRequestLine t, [], .ok []⟩
    (r.capture "x-target" []).url = (r'.capture "x-target" []).url ∧
      (r.capture "x-target" []).params = (r'.capture "x-target" []).params := by
  intro t r r'
  have hr : r.header? "x-target" = some (Utf8.bytes t) :=
    header?_of_singleton (by decide +kernel) (by decide +kernel) rfl
  have hr' : r'.header? "x-target" = none := header?_of_nil rfl
  have hlink : ¬ "://".toList <:+: t.toList := fun h => absurd (occurs_iff.2 h) (by decide)
  exact (capture_override_iff (by decide) (by decide) hr hr' rfl [] []).2 hlink

theorem capture_override_link :
    let t := "/login?next=http://shop/home"
    let r : HttpRequest := ⟨"GET", ⟨"/", none⟩, [("x-target", Utf8.bytes t)], .ok []⟩
    let r' : HttpRequest := ⟨"GET", .ofRequestLine t, [], .ok []⟩
    (r.capture "x-target" []).url = "/home" ∧ (r.capture "x-target" []).params = {} ∧
      (r'.capture "x-target" []).url = "/login" ∧
      (r'.capture "x-target" []).params.get? "next" = some ["http://shop/home"] := by
  intro t r r'
  have hr : r.header? "x-target" = some (Utf8.bytes t) :=
    header?_of_singleton (by decide +kernel) (by decide +kernel) rfl
  have hr' : r'.header? "x-target" = none := header?_of_nil rfl
  have hreference : Target.ofReference t = ⟨"/home", none⟩ := by decide +kernel
  have hline : Target.ofRequestLine t = ⟨"/login", some "next=http://shop/home"⟩ := by decide +kernel
  have hquery : (Query.parse "next=http://shop/home").get? "next" = some ["http://shop/home"] := by
    cbv
  have hcapture : ∀ body, (r.capture "x-target" body).url = "/home" ∧
      (r.capture "x-target" body).params = {} := by
    intro body
    simp only [capture, override?_of_header hr (by decide), Option.getD_some, hreference]
    exact ⟨trivial, rfl⟩
  have hcapture' : ∀ body, (r'.capture "x-target" body).url = (Target.ofRequestLine t).path ∧
      (r'.capture "x-target" body).params = (Target.ofRequestLine t).params := by
    intro body
    simp only [capture, override?_of_none hr', Option.getD_none, Target.params]
    exact ⟨rfl, rfl⟩
  rw [(hcapture' []).1, (hcapture' []).2, hline]
  exact ⟨(hcapture []).1, (hcapture []).2, rfl, hquery⟩

end HttpRequest

end StubHttp
