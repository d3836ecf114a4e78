import Mathlib.Data.List.Sort
import StubHttp.Registry
import StubHttp.Proofs.Predicate

/-!
# The order and the shelf of a registry

A registry updates its order of trial and its shelf of responses apart from each other. `Sound` says
what holds between the two: the shelf has a response for each predicate of the order and for no
other, the priorities do not rise along the order, and no predicate stands in it twice. Whatever
leaves a registry leaves it by `keep`, which thins out both containers by one test.
-/
namespace StubHttp

namespace Shelf

variable {s : Shelf} {i j : Identity} {c : Canned}

theorem get?_cons : get? ((i, c) :: s) j = if j = i then some c else get? s j := by
  rw [get?, List.lookup_cons]
  by_cases h : j = i
  · simp [h]
  · simp [h, get?, beq_eq_false_iff_ne.2 h]

theorem isSome_get? : (get? s i).isSome = true ↔ i ∈ s.map (·.1) := by
  simp [get?]

theorem keys_replace : (replace s i c).map (·.1) = s.map (·.1) := by
  rw [replace, List.map_map]
  refine List.map_congr_left fun x _ => ?_
  by_cases h : x.1 = i <;> simp [h]

theorem get?_replace :
    get? (replace s i c) j = if j = i then (get? s j).map fun _ => c else get? s j := by
  induction s with
  | nil => simp [replace, get?]
  | cons x s ih =>
    have hr : replace (x :: s) i c = (x.1, if x.1 = i then c else x.2) :: replace s i c := by
      by_cases hx : x.1 = i <;> simp [replace, hx]
    rw [hr, get?_cons, ih, show x :: s = (x.1, x.2) :: s from rfl, get?_cons]
    by_cases hj : j = i <;> by_cases hx : j = x.1 <;> simp_all

theorem get?_filter {f : Identity → Bool} :
    get? (s.filter fun x => f x.1) j = if f j then get? s j else none := by
  induction s with
  | nil => simp [get?]
  | cons x s ih =>
    rw [show x :: s = (x.1, x.2) :: s from rfl, get?_cons, List.filter_cons]
    by_cases hx : f x.1 = true
    · rw [if_pos hx, get?_cons, ih]
      by_cases hj : j = x.1 <;> simp [hj, hx]
    · rw [if_neg hx, ih]
      by_cases hj : j = x.1 <;> simp [hj, hx]

theorem filter_replace {f : Identity → Bool} :
    (replace s i c).filter (fun x => f x.1) = replace (s.filter fun x => f x.1) i c := by
  rw [replace, replace, List.filter_map]
  congr 1
  refine List.filter_congr fun x _ => ?_
  by_cases h : x.1 = i <;> simp [h]

theorem replace_of_not_mem (h : i ∉ s.map (·.1)) : replace s i c = s := by
  have hid : ∀ x ∈ s, (if x.1 = i then (i, c) else x) = x := fun x hx =>
    if_neg fun he : x.1 = i => h (he ▸ List.mem_map_of_mem hx)
  rw [replace, List.map_congr_left hid, List.map_id']

theorem foldl_erase (ps : List Predicate) :
    ps.foldl (fun s p => erase s p.identity) s =
      s.filter fun x => decide (x.1 ∉ ps.map (·.identity)) := by
  induction ps generalizing s with
  | nil => simp
  | cons p ps ih =>
    rw [List.foldl_cons, ih, erase, List.filter_filter]
    refine List.filter_congr fun x _ => ?_
    simp [Bool.and_comm]

end Shelf

namespace Registry

def Precedes (p q : Predicate) : Prop := q.priority ≤ p.priority

instance : DecidableRel Precedes := fun p q => inferInstanceAs (Decidable (q.priority ≤ p.priority))

instance : Std.Total Precedes := ⟨fun p q => Nat.le_total q.priority p.priority⟩

instance : IsTrans Predicate Precedes := ⟨fun _ _ _ hpq hqr => Nat.le_trans hqr hpq⟩

theorem place_eq_orderedInsert (p : Predicate) (l : List Predicate) :
    place p l = l.orderedInsert Precedes p := by
  induction l with
  | nil => rfl
  | cons q l ih => rw [place, List.orderedInsert_cons, ih]; rfl

theorem perm_place (p : Predicate) (l : List Predicate) : (place p l).Perm (p :: l) := by
  rw [place_eq_orderedInsert]
  exact List.perm_orderedInsert _ p l

/-- A predicate that stays is placed among those that stay as it was placed among all. -/
theorem filter_place {p : Predicate} {l : List Predicate} {f : Predicate → Bool}
    (hl : l.Pairwise Precedes) (hp : f p = true) :
    (place p l).filter f = place p (l.filter f) := by
  induction l with
  | nil => simp [place, hp]
  | cons q l ih =>
    obtain ⟨hq, hl⟩ := List.pairwise_cons.1 hl
    rw [place]
    split
    case isTrue h =>
      -- `p` stands before `q` and so before all that stay, whether `q` stays or not.
      have hall : ∀ o ∈ (q :: l).filter f, Precedes p o := by
        intro o ho
        rcases List.mem_cons.1 (List.mem_filter.1 ho).1 with rfl | ho
        · exact h
        · exact Nat.le_trans (hq o ho) h
      rw [List.filter_cons_of_pos hp, place_eq_orderedInsert]
      cases hf : (q :: l).filter f with
      | nil => rfl
      | cons o os => rw [List.orderedInsert_cons_of_le _ _ (hall o (hf ▸ List.mem_cons_self))]
    case isFalse h =>
      by_cases hf : f q = true
      · rw [List.filter_cons_of_pos hf, List.filter_cons_of_pos hf, ih hl, place, if_neg h]
      · rw [List.filter_cons_of_neg hf, List.filter_cons_of_neg hf, ih hl]

theorem filter_place_of_neg {p : Predicate} {l : List Predicate} {f : Predicate → Bool}
    (hp : f p = false) : (place p l).filter f = l.filter f := by
  induction l with
  | nil => simp [place, hp]
  | cons q l ih =>
    rw [place]
    split
    · rw [List.filter_cons_of_neg (by simp [hp])]
    · rw [List.filter_cons, ih, List.filter_cons]

/-- The order and the shelf belong together. -/
structure Sound (r : Registry) : Prop where
  descending : r.order.Pairwise Precedes
  distinct : (r.order.map (·.identity)).Nodup
  keyed : (r.shelf.map (·.1)).Perm (r.order.map (·.identity))
  declared : ∀ p ∈ r.order, p.Declared

def keep (f : Identity → Bool) (r : Registry) : Registry :=
  ⟨r.order.filter fun p => f p.identity, r.shelf.filter fun x => f x.1⟩

variable {r : Registry} {p : Predicate} {c : Canned}

theorem sound_empty : Sound .empty := ⟨.nil, .nil, .refl _, fun _ h => nomatch h⟩

theorem keep_of_forall {f : Identity → Bool} (hf : ∀ i, f i = true) : r.keep f = r := by
  simp [keep, hf]

theorem keep_keep (f g : Identity → Bool) : (r.keep f).keep g = r.keep fun i => f i && g i := by
  simp [keep, List.filter_filter, Bool.and_comm]

theorem identities_keep (f : Identity → Bool) :
    (r.keep f).order.map (·.identity) = (r.order.map (·.identity)).filter f :=
  List.filter_map.symm

theorem keys_keep (f : Identity → Bool) :
    (r.keep f).shelf.map (·.1) = (r.shelf.map (·.1)).filter f :=
  List.filter_map.symm

theorem Sound.keep (h : r.Sound) (f : Identity → Bool) : (r.keep f).Sound where
  descending := h.descending.filter _
  distinct := identities_keep (r := r) f ▸ h.distinct.filter f
  keyed := by
    rw [identities_keep, keys_keep]
    exact h.keyed.filter f
  declared := fun p hp => h.declared p (List.mem_filter.1 hp).1

theorem get?_keep (f : Identity → Bool) (i : Identity) :
    (r.keep f).shelf.get? i = if f i then r.shelf.get? i else none :=
  Shelf.get?_filter

theorem Sound.isSome_get? (h : r.Sound) {i : Identity} :
    (r.shelf.get? i).isSome = true ↔ ∃ p ∈ r.order, p.identity = i := by
  rw [Shelf.isSome_get?, h.keyed.mem_iff, List.mem_map]

theorem Sound.register (h : r.Sound) (hp : p.Declared) : (r.register p c).Sound := by
  rw [Registry.register]
  split
  case isTrue =>
    refine ⟨h.descending, h.distinct, ?_, h.declared⟩
    rw [Shelf.keys_replace]
    exact h.keyed
  case isFalse hh =>
    have hperm : ((place p r.order).map (·.identity)).Perm (p.identity :: r.order.map (·.identity)) :=
      (perm_place p r.order).map _
    have hnot : p.identity ∉ r.order.map (·.identity) := fun hm =>
      hh (Shelf.isSome_get?.2 (h.keyed.mem_iff.2 hm))
    refine ⟨?_, ?_, ?_, fun o ho => ?_⟩
    · rw [place_eq_orderedInsert]
      exact h.descending.orderedInsert p _
    · exact hperm.nodup_iff.2 (List.nodup_cons.2 ⟨hnot, h.distinct⟩)
    · exact (h.keyed.cons _).trans hperm.symm
    · rcases List.mem_cons.1 ((perm_place p r.order).mem_iff.1 ho) with rfl | ho
      · exact hp
      · exact h.declared o ho

theorem Sound.keep_register_of_pos (h : r.Sound) {f : Identity → Bool} (hf : f p.identity = true) :
    (r.register p c).keep f = (r.keep f).register p c := by
  have hhas : (r.keep f).has p = r.has p := by
    rw [has, has, canned?, canned?, get?_keep, if_pos hf]
  rw [Registry.register, Registry.register, hhas]
  split
  · exact congrArg (Registry.mk _) Shelf.filter_replace
  · have ho : (place p r.order).filter (fun o => f o.identity) =
        place p (r.order.filter fun o => f o.identity) := filter_place h.descending hf
    have hs : ((p.identity, c) :: r.shelf).filter (fun x => f x.1) =
        (p.identity, c) :: r.shelf.filter fun x => f x.1 := List.filter_cons_of_pos hf
    exact congr (congrArg Registry.mk ho) hs

theorem keep_register_of_neg {f : Identity → Bool} (hf : f p.identity = false) :
    (r.register p c).keep f = r.keep f := by
  rw [Registry.register]
  split
  · refine congrArg (Registry.mk _) (Shelf.filter_replace.trans (Shelf.replace_of_not_mem ?_))
    rw [List.mem_map]
    rintro ⟨x, hx, he⟩
    have := (List.mem_filter.1 hx).2
    rw [he, hf] at this
    cases this
  · have ho : (place p r.order).filter (fun o => f o.identity) =
        r.order.filter fun o => f o.identity := filter_place_of_neg hf
    have hs : ((p.identity, c) :: r.shelf).filter (fun x => f x.1) =
        r.shelf.filter fun x => f x.1 := List.filter_cons_of_neg (Bool.eq_false_iff.1 hf)
    rw [keep, keep]
    exact congr (congrArg Registry.mk ho) hs

theorem erase_eq_keep : r.erase p = r.keep fun i => decide (i ≠ p.identity) := by
  simp [erase, keep, Shelf.erase, Predicate.same]

theorem Sound.reset_eq_keep (h : r.Sound) : r.reset = r.keep fun i => i.lifetime = .forever := by
  rw [Registry.reset, Registry.keep, List.partition_eq_filter_filter]
  simp only [Shelf.foldl_erase]
  congr 1
  refine List.filter_congr fun x hx => ?_
  obtain ⟨p, hp, hpx⟩ := List.mem_map.1 (h.keyed.mem_iff.1 (List.mem_map_of_mem hx))
  rw [decide_eq_decide, List.mem_map]
  constructor
  · intro hn
    by_contra hl
    exact hn ⟨p, List.mem_filter.2 ⟨hp, by simpa [Predicate.lifetime, hpx] using hl⟩, hpx⟩
  · rintro hl ⟨o, ho, hox⟩
    have := (List.mem_filter.1 ho).2
    simp [Predicate.lifetime, hox, hl] at this

end Registry

end StubHttp
