import Mathlib.Algebra.GroupWithZero.Nat
import Mathlib.Data.List.Induction
import StubHttp.Text.Dict

/-!
# Sums over dictionaries, and multimaps of pairs

What is found in a dictionary is what it has an entry of. A change under one name that weighs the same
whatever is held there adds this weight to the whole. The multimap of a list of pairs holds the names
that occur in the list, each with its values in the order of the list.
-/
namespace StubHttp

theorem Assoc.sum_alter {β : Type} {w : String → β → Nat} {f : Option β → β} {k : String} {n : Nat}
    (hnew : w k (f none) = n) (hheld : ∀ v, w k (f (some v)) = w k v + n) (l : List (String × β)) :
    ((alter k f l).map fun e => w e.1 e.2).sum = (l.map fun e => w e.1 e.2).sum + n := by
  induction l with
  | nil => simp [alter, hnew]
  | cons e l ih =>
    rw [alter]
    split_ifs with hlt heq
    · rw [List.map_cons, List.sum_cons, hnew, Nat.add_comm]
    · simp only [List.map_cons, List.sum_cons, hheld, ← heq]
      omega
    · simp only [List.map_cons, List.sum_cons, ih]
      omega

theorem Assoc.lookup_eq_some_iff {β : Type} {l : List (String × β)} (h : Sorted l) {k : String} {v : β} :
    l.lookup k = some v ↔ (k, v) ∈ l := by
  induction l with
  | nil => simp
  | cons e l ih =>
    obtain ⟨hlt, hl⟩ := List.pairwise_cons.1 h
    rw [lookup_cons, List.mem_cons, ← ih hl]
    by_cases hk : k = e.1
    · have hnone : l.lookup k = none := lookup_eq_none_of_lt fun a ha => hk ▸ hlt a ha
      subst hk
      rw [if_pos rfl, hnone, Option.some.injEq]
      exact ⟨fun hv => .inl (hv ▸ rfl), fun hv => (hv.resolve_right nofun) ▸ rfl⟩
    · rw [if_neg hk]
      exact ⟨.inr, fun hv => hv.resolve_left fun he => hk (congrArg Prod.fst he)⟩

namespace Dict

variable {β : Type} {d : Dict β} {k : String}

theorem get?_eq_some_iff {v : β} : d.get? k = some v ↔ (k, v) ∈ d.entries :=
  Assoc.lookup_eq_some_iff d.sorted

theorem get?_eq_none_iff : d.get? k = none ↔ ∀ e ∈ d.entries, e.1 ≠ k := by
  rw [get?, List.lookup_eq_none_iff]
  exact forall₂_congr fun e _ => by rw [bne_iff_ne, ne_comm]

end Dict

namespace Multimap

variable {l : List (String × String)} {name : String}

def valuesOf (l : List (String × String)) (name : String) : List String :=
  (l.filter (·.1 = name)).map (·.2)

theorem valuesOf_cons (e : String × String) (l : List (String × String)) (name : String) :
    valuesOf (e :: l) name = (if name = e.1 then [e.2] else []) ++ valuesOf l name := by
  by_cases h : e.1 = name
  · simp [valuesOf, h]
  · simp [valuesOf, h, Ne.symm h]

theorem valuesOf_concat (l : List (String × String)) (e : String × String) (name : String) :
    valuesOf (l ++ [e]) name = valuesOf l name ++ if name = e.1 then [e.2] else [] := by
  by_cases h : e.1 = name
  · simp [valuesOf, h]
  · simp [valuesOf, h, Ne.symm h]

theorem valuesOf_eq_nil_iff : valuesOf l name = [] ↔ name ∉ l.map (·.1) := by
  rw [valuesOf, List.map_eq_nil_iff, List.filter_eq_nil_iff, List.mem_map]
  constructor
  · rintro h ⟨e, he, rfl⟩
    exact h e he (by simp)
  · intro h e he hname
    exact h ⟨e, he, by simpa using hname⟩

theorem head?_valuesOf (l : List (String × String)) (name : String) :
    (valuesOf l name).head? = l.lookup name := by
  induction l with
  | nil => rfl
  | cons e l ih =>
    rw [valuesOf_cons, Assoc.lookup_cons]
    split_ifs with h
    · rfl
    · exact ih

theorem ofPairs_concat (l : List (String × String)) (e : String × String) :
    ofPairs (l ++ [e]) = (ofPairs l).add e.1 e.2 := by
  simp [ofPairs]

theorem get?_add (m : Multimap) (k v name : String) : (m.add k v).get? name =
    if name = k then some ((m.get? k).getD [] ++ [v]) else m.get? name :=
  m.get?_alter k _ name

theorem get?_ofPairs (l : List (String × String)) (name : String) : (ofPairs l).get? name =
    if valuesOf l name = [] then none else some (valuesOf l name) := by
  induction l using List.reverseRecOn generalizing name with
  | nil => rfl
  | append_singleton l e ih =>
    rw [ofPairs_concat, get?_add, valuesOf_concat]
    by_cases h : name = e.1
    · have hvalues : ((ofPairs l).get? e.1).getD [] = valuesOf l e.1 := by
        rw [ih]
        split_ifs with hnil
        · exact hnil.symm
        · rfl
      simp [h, hvalues]
    · simp only [if_neg h, List.append_nil]
      exact ih name

theorem get?_ofPairs_of_mem (h : name ∈ l.map (·.1)) :
    (ofPairs l).get? name = some (valuesOf l name) := by
  rw [get?_ofPairs, if_neg fun hnil => valuesOf_eq_nil_iff.1 hnil h]

theorem get?_ofPairs_of_not_mem (h : name ∉ l.map (·.1)) : (ofPairs l).get? name = none := by
  rw [get?_ofPairs, if_pos (valuesOf_eq_nil_iff.2 h)]

theorem head?_get?_ofPairs (l : List (String × String)) (name : String) :
    ((ofPairs l).get? name).bind List.head? = l.lookup name := by
  rw [get?_ofPairs, ← head?_valuesOf]
  split_ifs with h
  · rw [h]
    rfl
  · rfl

end Multimap
end StubHttp
