/-!
# Dictionaries

A dictionary holds at most one value for each name and lists its names in increasing order, so two
dictionaries with the same content are equal. A multimap is a dictionary of value lists.
-/
namespace StubHttp

namespace Assoc

variable {β : Type}

def Sorted (l : List (String × β)) : Prop := l.Pairwise (·.1 < ·.1)

instance (l : List (String × β)) : Decidable (Sorted l) := by
  unfold Sorted; infer_instance

def alter (k : String) (f : Option β → β) : List (String × β) → List (String × β)
  | [] => [(k, f none)]
  | e :: l =>
    if k < e.1 then (k, f none) :: e :: l
    else if k = e.1 then (k, f (some e.2)) :: l
    else e :: alter k f l

theorem mem_alter {k : String} {f : Option β → β} {l : List (String × β)} {e : String × β}
    (h : e ∈ alter k f l) : e.1 = k ∨ e ∈ l := by
  induction l with
  | nil => simp_all [alter]
  | cons a l ih =>
    rw [alter] at h
    split at h
    · rcases List.mem_cons.1 h with rfl | h
      · exact .inl rfl
      · exact .inr h
    · split at h
      · rcases List.mem_cons.1 h with rfl | h
        · exact .inl rfl
        · exact .inr (List.mem_cons_of_mem _ h)
      · rcases List.mem_cons.1 h with rfl | h
        · exact .inr List.mem_cons_self
        · exact (ih h).imp id (List.mem_cons_of_mem _)

theorem sorted_alter {k : String} {f : Option β → β} {l : List (String × β)} (h : Sorted l) :
    Sorted (alter k f l) := by
  induction l with
  | nil => simp [alter, Sorted]
  | cons a l ih =>
    have ha := List.pairwise_cons.1 h
    rw [alter]
    split
    case isTrue hk =>
      refine List.pairwise_cons.2 ⟨fun e he => ?_, h⟩
      rcases List.mem_cons.1 he with rfl | he
      · exact hk
      · exact String.lt_trans hk (ha.1 e he)
    case isFalse hk =>
      split
      case isTrue he => exact List.pairwise_cons.2 ⟨fun e hm => he ▸ ha.1 e hm, ha.2⟩
      case isFalse he =>
        refine List.pairwise_cons.2 ⟨fun e hm => ?_, ih ha.2⟩
        rcases mem_alter hm with rfl | hm
        · exact Decidable.byContradiction fun hn =>
            he (String.le_antisymm (String.not_lt.1 hn) (String.not_lt.1 hk))
        · exact ha.1 e hm

theorem lookup_cons (k' k : String) (v : β) (l : List (String × β)) :
    ((k, v) :: l).lookup k' = if k' = k then some v else l.lookup k' := by
  rw [List.lookup_cons]
  by_cases h : k' = k
  · simp [h]
  · simp [h, beq_eq_false_iff_ne.2 h]

theorem lookup_eq_none_of_lt {k : String} {l : List (String × β)} (h : ∀ e ∈ l, k < e.1) :
    l.lookup k = none := by
  rw [List.lookup_eq_none_iff]
  intro e he
  rw [bne_iff_ne]
  intro hk
  have hlt := h e he
  rw [hk] at hlt
  exact String.lt_irrefl _ hlt

theorem lookup_alter {k : String} {f : Option β → β} {l : List (String × β)} (h : Sorted l)
    (k' : String) :
    (alter k f l).lookup k' = if k' = k then some (f (l.lookup k)) else l.lookup k' := by
  induction l with
  | nil => rw [alter, lookup_cons]; rfl
  | cons a l ih =>
    obtain ⟨n, v⟩ := a
    obtain ⟨hn, hl⟩ := List.pairwise_cons.1 h
    rw [alter]
    split
    case isTrue hk =>
      have hnone : ((n, v) :: l).lookup k = none := by
        refine lookup_eq_none_of_lt fun e he => ?_
        rcases List.mem_cons.1 he with rfl | he
        · exact hk
        · exact String.lt_trans hk (hn e he)
      rw [hnone, lookup_cons]
    case isFalse =>
      split
      case isTrue he =>
        have hk : k = n := he
        rw [hk, lookup_cons, lookup_cons, lookup_cons, if_pos rfl]
        split <;> rfl
      case isFalse he =>
        rw [lookup_cons, lookup_cons, lookup_cons, if_neg he, ih hl]
        by_cases hk : k' = n
        · have hne : k' ≠ k := fun h => he (h ▸ hk)
          rw [if_pos hk, if_neg hne, if_pos hk]
        · rw [if_neg hk, if_neg hk]

theorem alter_of_forall_lt {k : String} {f : Option β → β} {l : List (String × β)}
    (h : ∀ e ∈ l, e.1 < k) : alter k f l = l ++ [(k, f none)] := by
  induction l with
  | nil => rfl
  | cons a l ih =>
    have ha : a.1 < k := h a List.mem_cons_self
    have hlt : ¬ k < a.1 := fun hk => String.lt_irrefl _ (String.lt_trans hk ha)
    have hne : k ≠ a.1 := fun hk => String.lt_irrefl _ (hk ▸ ha)
    rw [alter, if_neg hlt, if_neg hne, ih fun e he => h e (List.mem_cons_of_mem _ he),
      List.cons_append]

theorem sorted_map {γ : Type} {f : β → γ} {l : List (String × β)} (h : Sorted l) :
    Sorted (l.map fun e => (e.1, f e.2)) :=
  List.pairwise_map.2 h

end Assoc

structure Dict (β : Type) where
  entries : List (String × β)
  sorted : Assoc.Sorted entries := by simp [Assoc.Sorted]

namespace Dict

variable {β γ : Type}

theorem ext {d e : Dict β} (h : d.entries = e.entries) : d = e := by
  cases d; cases e; cases h; rfl

instance [DecidableEq β] : DecidableEq (Dict β) := fun d e =>
  decidable_of_iff (d.entries = e.entries) ⟨ext, fun h => h ▸ rfl⟩

def empty : Dict β := ⟨[], .nil⟩

instance : EmptyCollection (Dict β) := ⟨empty⟩
instance : Inhabited (Dict β) := ⟨empty⟩

def get? (d : Dict β) (k : String) : Option β := d.entries.lookup k

def alter (d : Dict β) (k : String) (f : Option β → β) : Dict β :=
  ⟨Assoc.alter k f d.entries, Assoc.sorted_alter d.sorted⟩

theorem get?_alter (d : Dict β) (k : String) (f : Option β → β) (k' : String) :
    (d.alter k f).get? k' = if k' = k then some (f (d.get? k)) else d.get? k' :=
  Assoc.lookup_alter d.sorted k'

def insert (d : Dict β) (k : String) (v : β) : Dict β := d.alter k fun _ => v

theorem get?_insert (d : Dict β) (k : String) (v : β) (k' : String) :
    (d.insert k v).get? k' = if k' = k then some v else d.get? k' :=
  d.get?_alter k _ k'

def ofList (l : List (String × β)) : Dict β := l.foldl (fun d e => d.insert e.1 e.2) empty

theorem entries_foldl_insert {d : Dict β} {l : List (String × β)}
    (h : Assoc.Sorted (d.entries ++ l)) :
    (l.foldl (fun d e => d.insert e.1 e.2) d).entries = d.entries ++ l := by
  induction l generalizing d with
  | nil => rw [List.foldl_nil, List.append_nil]
  | cons e l ih =>
    have hlt : ∀ a ∈ d.entries, a.1 < e.1 := fun a ha =>
      (List.pairwise_append.1 h).2.2 a ha e List.mem_cons_self
    have hinsert : (d.insert e.1 e.2).entries = d.entries ++ [e] := Assoc.alter_of_forall_lt hlt
    rw [← List.singleton_append, ← List.append_assoc, ← hinsert] at h
    rw [List.foldl_cons, ih h, hinsert, List.append_assoc, List.singleton_append]

theorem ofList_entries (d : Dict β) : ofList d.entries = d :=
  ext (entries_foldl_insert d.sorted)

def map (f : β → γ) (d : Dict β) : Dict γ :=
  ⟨d.entries.map fun e => (e.1, f e.2), Assoc.sorted_map d.sorted⟩

end Dict

abbrev Multimap := Dict (List String)

def Multimap.add (m : Multimap) (k v : String) : Multimap :=
  m.alter k fun vs => vs.getD [] ++ [v]

def Multimap.ofPairs (l : List (String × String)) : Multimap :=
  l.foldl (fun m e => m.add e.1 e.2) {}

end StubHttp
