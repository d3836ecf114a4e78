import StubHttp.Proofs.Http.Query
import StubHttp.Proofs.Text.Dict

/-!
# Queries and back

A query that lists escaped pairs, with empty stretches between them or not, is parsed as the multimap of
the pairs.
-/
namespace StubHttp.Query

open Text Multimap

variable {e : String × String} {l : List (String × String)} {w : List Char} {query : String}

def WrittenPair (e : String × String) (w : List Char) : Prop :=
  ∃ k v, Written e.1 k ∧ Written e.2 v ∧ w = k ++ '=' :: v

/-- The query lists the pairs in their order. Before, between and after them it may have more separators,
with nothing in between. -/
def Lists (query : String) (l : List (String × String)) : Prop :=
  ∃ ss, List.Forall₂ WrittenPair l (ss.filter (!·.isEmpty)) ∧ query.toList = ['&'].intercalate ss

theorem writtenPair_encode (plus : Bool) (e : String × String) :
    WrittenPair e (encode plus e.1 ++ '=' :: encode plus e.2) :=
  ⟨_, _, written_encode plus e.1, written_encode plus e.2, rfl⟩

theorem WrittenPair.decodePair (h : WrittenPair e w) : decodePair w = e := by
  obtain ⟨k, v, hk, hv, rfl⟩ := h
  have hfree : '=' ∉ k := hk.not_mem (by decide) (by decide) (by decide)
  rw [Query.decodePair, cut_append_cons _ hfree]
  exact Prod.ext hk.decode hv.decode

theorem WrittenPair.not_mem (h : WrittenPair e w) : '&' ∉ w := by
  obtain ⟨k, v, hk, hv, rfl⟩ := h
  have hfree : '&' ∉ k := hk.not_mem (by decide) (by decide) (by decide)
  have hfree' : '&' ∉ v := hv.not_mem (by decide) (by decide) (by decide)
  simp [hfree, hfree']

theorem writtenPairs {ws : List (List Char)} (h : List.Forall₂ WrittenPair l ws) :
    ws.map decodePair = l ∧ ∀ w ∈ ws, '&' ∉ w := by
  induction h with
  | nil => simp
  | cons hw _ ih => simpa [hw.decodePair, hw.not_mem] using ih

theorem pairs_of_lists (h : Lists query l) : pairs query = l := by
  obtain ⟨ss, hpairs, hquery⟩ := h
  obtain ⟨hdecoded, hfree⟩ := writtenPairs hpairs
  have hsplit : (split '&' query.toList).filter (!·.isEmpty) = ss.filter (!·.isEmpty) := by
    cases ss with
    | nil => rw [hquery]; rfl
    | cons s ss =>
      have hstretch : ∀ t ∈ s :: ss, '&' ∉ t := by
        intro t ht
        by_cases hempty : t = []
        · simp [hempty]
        · exact hfree t (by simp [hempty, List.mem_cons.1 ht])
      rw [hquery, split_eq_splitOn, List.splitOn_intercalate _ hstretch (List.cons_ne_nil s ss)]
  rw [pairs, hsplit, hdecoded]

theorem param?_eq_lookup (query : Option String) (name : String) :
    param? query name = ((query.map pairs).getD []).lookup name := by
  cases query with
  | none => rfl
  | some query => exact head?_get?_ofPairs _ _

theorem param?_of_lists (h : Lists query l) (name : String) :
    param? (some query) name = l.lookup name := by
  rw [param?_eq_lookup, Option.map_some, Option.getD_some, pairs_of_lists h]

theorem param?_encode (plus : Bool) (name value : String) :
    param? (some (String.ofList (encode plus name ++ '=' :: encode plus value))) name = some value := by
  have hlists : Lists (String.ofList (encode plus name ++ '=' :: encode plus value))
      [(name, value)] := by
    refine ⟨[encode plus name ++ '=' :: encode plus value], ?_, by simp⟩
    rw [List.filter_cons_of_pos (by simp), List.filter_nil]
    exact .cons (writtenPair_encode plus (name, value)) .nil
  rw [param?_of_lists hlists, List.lookup_cons_self]

/-- Whatever pairs a query lists, it is parsed as their multimap: a name that occurs has its values in the
order of the pairs, and no other name has any. The first of them is what is found under the name. -/
theorem parse_lists (h : Lists query l) :
    (∀ name ∈ l.map (·.1), (parse query).get? name = some (valuesOf l name)) ∧
      (∀ name ∉ l.map (·.1), (parse query).get? name = none) ∧
      ∀ name, param? (some query) name = l.lookup name := by
  rw [parse, pairs_of_lists h]
  exact ⟨fun name => get?_ofPairs_of_mem, fun name => get?_ofPairs_of_not_mem, param?_of_lists h⟩

/-- An empty name, and a name that comes twice with its blank written in both ways. -/
theorem parse_lists_blanks :
    let query := "&=&a+b=%26%3D%C3%A9&&a%20b=1%2B1&"
    Lists query [("", ""), ("a b", "&=é"), ("a b", "1+1")] ∧
      (parse query).get? "a b" = some ["&=é", "1+1"] ∧ (parse query).get? "b" = none ∧
      param? (some query) "" = some "" := by
  intro query
  let stretch (plus : Bool) (e : String × String) : List Char :=
    encode plus e.1 ++ '=' :: encode plus e.2
  have hlists : Lists query [("", ""), ("a b", "&=é"), ("a b", "1+1")] := by
    refine ⟨[[], stretch true ("", ""), stretch true ("a b", "&=é"), [],
      stretch false ("a b", "1+1"), []], ?_, by decide +kernel⟩
    rw [List.filter_cons_of_neg (by simp), List.filter_cons_of_pos (by simp [stretch]),
      List.filter_cons_of_pos (by simp [stretch]), List.filter_cons_of_neg (by simp),
      List.filter_cons_of_pos (by simp [stretch]), List.filter_cons_of_neg (by simp), List.filter_nil]
    exact .cons (writtenPair_encode true _)
      (.cons (writtenPair_encode true _) (.cons (writtenPair_encode false _) .nil))
  obtain ⟨hmem, hnone, hparam⟩ := parse_lists hlists
  exact ⟨hlists, hmem "a b" (by simp), hnone "b" (by simp), hparam ""⟩

end StubHttp.Query
