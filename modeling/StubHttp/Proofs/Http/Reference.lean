import StubHttp.Proofs.Http.Override

/-!
# References with an authority

A reference names a target behind a scheme and an authority, and perhaps a fragment behind the target.
Each of its parts is free of the signs that end it, and may hold those that end other parts. The reader
cuts a reference four times, each time at the first sign of its kind: the fragment off, the scheme off,
the authority off, and the path from the query. Where earlier cuts have left nothing in front that holds
the sign, the cut is the right one.
-/
namespace StubHttp

open Text

namespace Target

def written (t : Target) : List Char := t.path.toList ++ led '?' t.query

theorem ofRelative_written {t : Target} (hpath : '?' ∉ t.path.toList) :
    ofRelative t.written = t := by
  have hcut : cut '?' t.written = (t.path.toList, t.query.map String.toList) :=
    cut_append_led hpath t.query
  simp [ofRelative, hcut, Function.comp_def]

end Target

/-- A target behind a scheme and an authority, and perhaps with a fragment behind it. -/
structure Reference extends Target where
  scheme : String
  authority : String
  fragment : Option String
  scheme_free : ∀ c ∈ [':', '/', '?', '#'], c ∉ scheme.toList
  authority_free : ∀ c ∈ ['/', '?', '#'], c ∉ authority.toList
  path_rooted : path = "" ∨ path.toList.head? = some '/'
  path_free : ∀ c ∈ ['?', '#'], c ∉ path.toList
  query_free : ∀ q ∈ query, '#' ∉ q.toList

namespace Reference

def whole (t : Reference) : List Char :=
  t.scheme.toList ++ ("://".toList ++ (t.authority.toList ++ t.written))

def text (t : Reference) : String := String.ofList (t.whole ++ led '#' t.fragment)

theorem toList_text (t : Reference) : t.text.toList = t.whole ++ led '#' t.fragment :=
  String.toList_ofList

theorem hash_not_mem_whole (t : Reference) : '#' ∉ t.whole := by
  have hscheme := t.scheme_free '#' (by decide)
  have hauthority := t.authority_free '#' (by decide)
  have hpath := t.path_free '#' (by decide)
  have hquery : '#' ∉ led '?' t.query := not_mem_led (by decide) t.query_free
  simp [whole, Target.written, hscheme, hauthority, hpath, hquery]

theorem text_ne_empty (t : Reference) : t.text ≠ "" := by
  intro h
  have hnil := congrArg String.toList h
  simp [toList_text, whole] at hnil

theorem head_written (t : Reference) {c : Char} (h : t.written.head? = some c) : c = '/' ∨ c = '?' := by
  rcases t.path_rooted with hpath | hpath
  · cases hquery : t.query with
    | none => simp [Target.written, led, hpath, hquery] at h
    | some q =>
      right
      simpa [Target.written, led, hpath, hquery, eq_comm] using h
  · left
    simpa [Target.written, List.head?_append, hpath, eq_comm] using h

theorem drop_authority (t : Reference) :
    (t.authority.toList ++ t.written).dropWhile (fun c => c ≠ '/' ∧ c ≠ '?') = t.written := by
  have hauthority : ∀ c ∈ t.authority.toList, decide (c ≠ '/' ∧ c ≠ '?') = true := by
    intro c hc
    refine decide_eq_true ⟨?_, ?_⟩
    · rintro rfl
      exact t.authority_free '/' (by decide) hc
    · rintro rfl
      exact t.authority_free '?' (by decide) hc
  rw [List.dropWhile_append_of_pos hauthority]
  cases h : t.written with
  | nil => rfl
  | cons c cs =>
    have hc : c = '/' ∨ c = '?' := t.head_written (by rw [h, List.head?_cons])
    rcases hc with rfl | rfl
    · rfl
    · rfl

theorem ofReference_text (t : Reference) : Target.ofReference t.text = t.toTarget := by
  have hafter : after? "://".toList t.whole = some (t.authority.toList ++ t.written) :=
    after?_append_of_not_mem _ (t.scheme_free ':' (by decide))
  rw [Target.ofReference, toList_text, cut_append_led t.hash_not_mem_whole, hafter]
  simp only [drop_authority]
  exact Target.ofRelative_written (t.path_free '?' (by decide))

end Reference

namespace HttpRequest

variable {header : String} {r : HttpRequest} {v : List UInt8} {t : Reference}

theorem capture_of_reference (hr : r.header? header = some v) (hv : Utf8.lossy v = t.text)
    (body : List UInt8) :
    (r.capture header body).url = t.path ∧
      (r.capture header body).params = t.toTarget.params := by
  have hcapture := capture_of_lossy hr (hv ▸ t.text_ne_empty) body
  rwa [hv, t.ofReference_text] at hcapture

/-- A request whose override header has a reference with an authority as its value is captured with the
path of this reference and the parameters of its query, or none if it has no query. So the scheme, the
authority and the fragment of the reference make no difference, nor does the target of the request. -/
theorem capture_reference (hr : r.header? header = some v) (hv : Utf8.lossy v = t.text)
    (body : List UInt8) :
    (r.capture header body).url = t.path ∧
      (∀ q, t.query = some q → (r.capture header body).params = Query.parse q) ∧
      (t.query = none → (r.capture header body).params = {}) ∧
      ∀ (header' : String) (r' : HttpRequest) (v' : List UInt8) (t' : Reference) (body' : List UInt8),
        r'.header? header' = some v' → Utf8.lossy v' = t'.text → t'.path = t.path →
        t'.query = t.query → (r'.capture header' body').url = (r.capture header body).url ∧
          (r'.capture header' body').params = (r.capture header body).params := by
  obtain ⟨hurl, hparams⟩ := capture_of_reference hr hv body
  refine ⟨hurl, ?_, ?_, ?_⟩
  · intro q hq
    rw [hparams, Target.params, hq, Option.map_some, Option.getD_some]
  · intro hq
    rw [hparams, Target.params, hq, Option.map_none, Option.getD_none]
  · intro header' r' v' t' body' hr' hv' hpath hquery
    obtain ⟨hurl', hparams'⟩ := capture_of_reference hr' hv' body'
    rw [hurl', hparams', hurl, hparams, Target.params, Target.params, hpath, hquery]
    exact ⟨rfl, rfl⟩

/-- Two references to the same target. One has a query and a fragment with all signs in them, and no path;
the other has neither scheme nor authority nor fragment. The requests themselves ask for something else. -/
theorem capture_reference_links :
    let t : Reference :=
      { path := "", query := some "next=ftp://a/b?c", scheme := "http", authority := "u:p@shop:80",
        fragment := some "x://y/z?w#v", scheme_free := by simp, authority_free := by simp,
        path_rooted := by simp, path_free := by simp, query_free := by simp }
    let t' : Reference :=
      { t with scheme := "", authority := "", fragment := none, scheme_free := by simp,
               authority_free := by simp }
    let r : HttpRequest := ⟨"GET", ⟨"/own", some "a=b"⟩, [("x-target", Utf8.bytes t.text)], .ok []⟩
    let r' : HttpRequest := ⟨"PUT", ⟨"/", none⟩, [("x-other", Utf8.bytes t'.text)], .ok []⟩
    t.text = "http://u:p@shop:80?next=ftp://a/b?c#x://y/z?w#v" ∧ t'.text = "://?next=ftp://a/b?c" ∧
      (r.capture "x-target" []).url = "" ∧
      (r.capture "x-target" []).params.get? "next" = some ["ftp://a/b?c"] ∧
      (r'.capture "x-other" []).url = (r.capture "x-target" []).url ∧
      (r'.capture "x-other" []).params = (r.capture "x-target" []).params := by
  intro t t' r r'
  have hr : r.header? "x-target" = some (Utf8.bytes t.text) :=
    header?_of_singleton (by decide +kernel) (by decide +kernel) rfl
  have hr' : r'.header? "x-other" = some (Utf8.bytes t'.text) :=
    header?_of_singleton (by decide +kernel) (by decide +kernel) rfl
  have hquery : (Query.parse "next=ftp://a/b?c").get? "next" = some ["ftp://a/b?c"] := by cbv
  obtain ⟨hurl, hparams, -, hsame⟩ := capture_reference hr (Utf8.lossy_bytes t.text) []
  refine ⟨by decide +kernel, by decide +kernel, hurl, ?_, ?_⟩
  · rw [hparams _ rfl, hquery]
  · exact hsame "x-other" r' _ t' [] hr' (Utf8.lossy_bytes t'.text) rfl rfl

end HttpRequest

end StubHttp
