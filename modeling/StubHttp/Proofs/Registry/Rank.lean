import StubHttp.Proofs.Registry.Run

/-!
# Ranks

A predicate is active from the operation that installs it to the one that removes it. It ranks by its
priority and then by the number of the operation that installed it, the higher and the later before
the others. The order of trial lists the active predicates by rank (`Dated`), so the first one that
accepts a request is the greatest of those that do.
-/
namespace StubHttp.Registry

/-- Operation number `t` of a run installed `p`, and none after it removed `p`. -/
inductive Active : List Op → Nat → Predicate → Prop
  | install {ops : List Op} {p : Predicate} (hp : p.Declared) (c : Canned)
      (h : (after ops).has p = false) : Active (ops ++ [.register p hp c]) ops.length p
  | stay {ops : List Op} {t : Nat} {p : Predicate} (x : Op) (h : Active ops t p)
      (hx : x.removes (after ops) p.identity = false) : Active (ops ++ [x]) t p

def Outranks (x y : Nat × Predicate) : Prop :=
  y.2.priority < x.2.priority ∨ y.2.priority = x.2.priority ∧ y.1 < x.1

/-- Of all active predicates that accept a request, `p` has the greatest rank. -/
structure Chosen (ops : List Op) (q : Request) (t : Nat) (p : Predicate) : Prop where
  active : Active ops t p
  accepts : p.accepts q = true
  greatest : ∀ u o, Active ops u o → o.accepts q = true → (u, o) = (t, p) ∨ Outranks (t, p) (u, o)

structure Dated (ops : List Op) (l : List (Nat × Predicate)) : Prop where
  order : l.map (·.2) = (after ops).order
  active : ∀ t p, (t, p) ∈ l ↔ Active ops t p
  ranked : l.Pairwise Outranks
  past : ∀ y ∈ l, y.1 < ops.length

theorem Outranks.asymm {x y : Nat × Predicate} (hxy : Outranks x y) : ¬ Outranks y x := by
  unfold Outranks at *
  omega

theorem Chosen.unique {ops : List Op} {q : Request} {t u : Nat} {p o : Predicate}
    (hp : Chosen ops q t p) (ho : Chosen ops q u o) : (t, p) = (u, o) := by
  rcases hp.greatest u o ho.active ho.accepts with h | h
  · exact h.symm
  · rcases ho.greatest t p hp.active hp.accepts with h' | h'
    · exact h'
    · exact (h.asymm h').elim

theorem not_active_nil {t : Nat} {p : Predicate} : ¬ Active [] t p := by
  intro h
  generalize hops : ([] : List Op) = ops at h
  cases h <;> simp at hops

theorem active_concat {ops : List Op} {x : Op} {t : Nat} {p : Predicate} :
    Active (ops ++ [x]) t p ↔
      (t = ops.length ∧ (after ops).has p = false ∧ ∃ hp c, x = .register p hp c) ∨
        (Active ops t p ∧ x.removes (after ops) p.identity = false) := by
  constructor
  · intro h
    generalize hops : ops ++ [x] = l at h
    cases h with
    | install hp c h =>
      obtain ⟨rfl, hx⟩ := List.append_inj' hops rfl
      exact .inl ⟨rfl, h, hp, c, List.singleton_inj.1 hx⟩
    | stay y h hy =>
      obtain ⟨rfl, hx⟩ := List.append_inj' hops rfl
      cases List.singleton_inj.1 hx
      exact .inr ⟨h, hy⟩
  · rintro (⟨rfl, h, hp, c, rfl⟩ | ⟨h, hx⟩)
    · exact .install hp c h
    · exact .stay x h hx

def PrecedesDated (x y : Nat × Predicate) : Prop := Precedes x.2 y.2

instance : DecidableRel PrecedesDated := fun x y => inferInstanceAs (Decidable (Precedes x.2 y.2))

theorem ranked_orderedInsert {l : List (Nat × Predicate)} {x : Nat × Predicate}
    (hl : l.Pairwise Outranks) (hx : ∀ y ∈ l, y.1 < x.1) :
    (l.orderedInsert PrecedesDated x).Pairwise Outranks := by
  induction l with
  | nil => exact List.pairwise_singleton _ _
  | cons y l ih =>
    obtain ⟨hy, hl'⟩ := List.pairwise_cons.1 hl
    rw [List.orderedInsert_cons]
    split
    case isTrue hxy =>
      -- What stands before `y` by priority stands before all that `y` outranks, and as the newest
      -- it outranks those of its own priority too.
      have hp : y.2.priority ≤ x.2.priority := hxy
      refine List.pairwise_cons.2 ⟨fun z hz => ?_, hl⟩
      have hzx := hx z hz
      rcases List.mem_cons.1 hz with rfl | hz
      · unfold Outranks; omega
      · have := hy z hz
        unfold Outranks at *
        omega
    case isFalse hxy =>
      have hp : ¬ y.2.priority ≤ x.2.priority := hxy
      refine List.pairwise_cons.2
        ⟨fun z hz => ?_, ih hl' fun z hz => hx z (List.mem_cons_of_mem _ hz)⟩
      rcases (List.mem_orderedInsert _).1 hz with rfl | hz
      · exact .inl (Nat.lt_of_not_le hp)
      · exact hy z hz

namespace Dated

variable {ops : List Op} {l : List (Nat × Predicate)}

theorem nil : Dated [] [] :=
  ⟨rfl, fun _ _ => ⟨(nomatch ·), (not_active_nil · |>.elim)⟩, .nil, fun _ h => nomatch h⟩

theorem install (h : Dated ops l) {p : Predicate} (hp : p.Declared) (c : Canned)
    (hn : (after ops).has p = false) :
    Dated (ops ++ [.register p hp c]) (l.orderedInsert PrecedesDated (ops.length, p)) where
  order := by
    have hmap : (l.orderedInsert PrecedesDated (ops.length, p)).map (·.2) =
        (l.map (·.2)).orderedInsert Precedes p :=
      List.map_orderedInsert _ _ (·.2) l _ (fun _ _ => Iff.rfl) (fun _ _ => Iff.rfl)
    rw [hmap, h.order, after_concat, Op.apply, register, hn, place_eq_orderedInsert]
    rfl
  active := fun t o => by
    rw [List.mem_orderedInsert, active_concat, h.active, Op.removes_register]
    constructor
    · rintro (he | ha)
      · cases he
        exact .inl ⟨rfl, hn, hp, c, rfl⟩
      · exact .inr ⟨ha, rfl⟩
    · rintro (⟨rfl, -, ho, k, he⟩ | ⟨ha, -⟩)
      · cases he
        exact .inl rfl
      · exact .inr ha
  ranked := ranked_orderedInsert h.ranked h.past
  past := fun y hy => by
    rw [List.length_append, List.length_singleton]
    rcases (List.mem_orderedInsert _).1 hy with rfl | hy
    · exact Nat.lt_succ_self _
    · exact Nat.lt_succ_of_lt (h.past y hy)

theorem stay (h : Dated ops l) (x : Op) (hx : ∀ i, x.installs (after ops) i = false) :
    Dated (ops ++ [x]) (l.filter fun y => !x.removes (after ops) y.2.identity) where
  order := by
    have hmap : (l.filter fun y => !x.removes (after ops) y.2.identity).map (·.2) =
        (l.map (·.2)).filter fun p => !x.removes (after ops) p.identity :=
      (List.filter_map (f := Prod.snd)
        (p := fun p : Predicate => !x.removes (after ops) p.identity)).symm
    rw [hmap, h.order, after_concat]
    rcases (sound_after ops).apply_cases x with ⟨p, hp, c, rfl⟩ | ⟨hk, -⟩
    · -- It installs nothing, so it registers a predicate that is in already.
      have hheld : (after ops).has p = true := by simpa [Op.installs] using hx p.identity
      rw [List.filter_eq_self.2 fun o _ => by simp, Op.apply, register_of_has hheld]
    · rw [hk, keep]
  active := fun t p => by
    rw [List.mem_filter, active_concat, h.active, Bool.not_eq_true']
    constructor
    · exact .inr
    · rintro (⟨-, hn, hp, c, rfl⟩ | ha)
      · have := hx p.identity
        simp [Op.installs, hn] at this
      · exact ha
  ranked := h.ranked.filter _
  past := fun y hy => by
    rw [List.length_append]
    exact Nat.lt_add_right _ (h.past y (List.mem_filter.1 hy).1)

end Dated

theorem exists_dated (ops : List Op) : ∃ l, Dated ops l := by
  induction ops using List.reverseRecOn with
  | nil => exact ⟨[], .nil⟩
  | append_singleton ops x ih =>
    obtain ⟨l, h⟩ := ih
    by_cases hx : ∀ i, x.installs (after ops) i = false
    · exact ⟨_, h.stay x hx⟩
    · obtain ⟨i, hi⟩ := not_forall.1 hx
      cases x with
      | register p hp c =>
        have hn : (after ops).has p = false := by
          simp only [Op.installs, Bool.not_eq_false, Bool.and_eq_true] at hi
          simpa using hi.2
        exact ⟨_, h.install hp c hn⟩
      | _ => exact absurd rfl hi

theorem mem_order_iff {ops : List Op} {p : Predicate} :
    p ∈ (after ops).order ↔ ∃ t, Active ops t p := by
  obtain ⟨l, h⟩ := exists_dated ops
  rw [← h.order, List.mem_map]
  constructor
  · rintro ⟨⟨t, o⟩, hm, rfl⟩
    exact ⟨t, (h.active t o).1 hm⟩
  · rintro ⟨t, ht⟩
    exact ⟨(t, p), (h.active t p).2 ht, rfl⟩

theorem Active.unique {ops : List Op} {t u : Nat} {p o : Predicate} (hp : Active ops t p)
    (ho : Active ops u o) (hpo : p.same o = true) : t = u ∧ p = o := by
  obtain ⟨l, h⟩ := exists_dated ops
  have hnodup : (l.map fun y => y.2.identity).Nodup := by
    have := (sound_after ops).distinct
    rwa [← h.order, List.map_map] at this
  have he := List.inj_on_of_nodup_map hnodup ((h.active t p).2 hp) ((h.active u o).2 ho)
    (Predicate.same_iff.1 hpo)
  exact ⟨congrArg Prod.fst he, congrArg Prod.snd he⟩

theorem Active.exists_latest {ops : List Op} {t : Nat} {p : Predicate} (h : Active ops t p) :
    ∃ c, (after ops).shelf.get? p.identity = some c ∧ latest p.identity ops = some c := by
  have hm := mem_order_iff.2 ⟨t, h⟩
  obtain ⟨c, hc⟩ := Option.isSome_iff_exists.1 ((sound_after ops).isSome_get?.2 ⟨p, hm, rfl⟩)
  exact ⟨c, hc, latest_of_held hc⟩

theorem Active.has {ops : List Op} {t : Nat} {p o : Predicate} (h : Active ops t p)
    (hop : o.same p = true) : (after ops).has o = true := by
  obtain ⟨c, hc, -⟩ := h.exists_latest
  rw [Registry.has, canned?_of_same hop, canned?, hc]
  rfl

theorem Active.consumeOrFail {ops : List Op} {t : Nat} {p : Predicate} (h : Active ops t p) :
    ∃ c, latest p.identity ops = some c ∧
      ∀ o, o.same p = true → ((after ops).consumeOrFail o).1 = .ok c := by
  obtain ⟨c, hc, hl⟩ := h.exists_latest
  exact ⟨c, hl, fun o ho => consumeOrFail_of_some ((canned?_of_same ho).trans hc)⟩

theorem active_register_of_has {ops : List Op} {o : Predicate} {ho : o.Declared} {c : Canned}
    (h : (after ops).has o = true) {t : Nat} {p : Predicate} :
    Active (ops ++ [.register o ho c]) t p ↔ Active ops t p := by
  rw [active_concat, Op.removes_register]
  constructor
  · rintro (⟨-, hn, hp, k, he⟩ | ⟨hp, -⟩)
    · cases he
      rw [h] at hn
      cases hn
    · exact hp
  · exact fun hp => .inr ⟨hp, rfl⟩

theorem find?_eq_none_iff {ops : List Op} {q : Request} :
    (after ops).find? q = none ↔ ∀ t p, Active ops t p → p.accepts q = false := by
  rw [find?, List.find?_eq_none]
  simp only [mem_order_iff, Bool.not_eq_true, forall_exists_index]
  exact forall_comm

/-- The first of the order that accepts a request is the greatest that does. -/
theorem exists_chosen {ops : List Op} {q : Request} {p : Predicate}
    (hf : (after ops).find? q = some p) : ∃ t, Chosen ops q t p := by
  obtain ⟨l, h⟩ := exists_dated ops
  rw [find?, ← h.order, List.find?_map, Option.map_eq_some_iff] at hf
  obtain ⟨⟨t, o⟩, hf, rfl⟩ := hf
  obtain ⟨hq, as, bs, rfl, has⟩ := List.find?_eq_some_iff_append.1 hf
  refine ⟨t, (h.active t o).1 (by simp), hq, fun u w hw hwq => ?_⟩
  rcases List.mem_append.1 ((h.active u w).2 hw) with hm | hm
  · have := has _ hm
    simp [hwq] at this
  · rcases List.mem_cons.1 hm with he | hm
    · exact .inl he
    · have hr := (List.pairwise_append.1 h.ranked).2.1
      exact .inr ((List.pairwise_cons.1 hr).1 _ hm)

theorem exists_served {ops : List Op} {q : Request} {t : Nat} {p : Predicate} (hp : Active ops t p)
    (hq : p.accepts q = true) :
    ∃ t p c, Chosen ops q t p ∧ latest p.identity ops = some c ∧
      (after ops).findOrFail q = .ok p ∧ ((after ops).resolveOrFail q).1 = .ok (p, some c) := by
  cases hf : (after ops).find? q with
  | none =>
    have hn := find?_eq_none_iff.1 hf t p hp
    rw [hq] at hn
    cases hn
  | some o =>
    obtain ⟨u, ho⟩ := exists_chosen hf
    obtain ⟨c, hc, hl⟩ := ho.active.exists_latest
    refine ⟨u, o, c, ho, hl, findOrFail_of_some hf, ?_⟩
    rw [resolveOrFail_of_some hf, canned?, hc]

/-- A run works as a map from predicates to times and responses. A request finds no predicate if no
active one accepts it, and finds the one of greatest rank otherwise; it is handed out with the
response that was registered for it last; and to register an active predicate again changes no
rank. -/
theorem refines_timed_map (ops : List Op) (q : Request) :
    (∀ t p u o, Active ops t p → Active ops u o → p.same o = true → t = u ∧ p = o) ∧
      ((after ops).findOrFail q = .error (.noMatch q) ↔
        ∀ t p, Active ops t p → p.accepts q = false) ∧
      (((after ops).resolveOrFail q).1 = .error (.noMatch q) ↔
        ∀ t p, Active ops t p → p.accepts q = false) ∧
      ((∃ t p, Active ops t p ∧ p.accepts q = true) →
        ∃ t p c, Chosen ops q t p ∧ latest p.identity ops = some c ∧
          (after ops).findOrFail q = .ok p ∧
          ((after ops).resolveOrFail q).1 = .ok (p, some c)) ∧
      (∀ t p, Active ops t p → ∃ c, latest p.identity ops = some c ∧
        ∀ o, o.same p = true → ((after ops).consumeOrFail o).1 = .ok c) ∧
      ∀ t p, Active ops t p → ∀ o ho c, o.same p = true →
        (after (ops ++ [.register o ho c])).order = (after ops).order ∧
          ∀ u w, Active (ops ++ [.register o ho c]) u w ↔ Active ops u w := by
  refine ⟨fun t p u o hp ho hpo => hp.unique ho hpo, ?_, ?_, ?_, fun t p hp => hp.consumeOrFail,
    fun t p hp o ho c hop => ⟨?_, fun u w => active_register_of_has (hp.has hop)⟩⟩
  · exact findOrFail_eq_error_iff.trans find?_eq_none_iff
  · exact resolveOrFail_eq_error_iff.trans find?_eq_none_iff
  · rintro ⟨t, p, hp, hq⟩
    exact exists_served hp hq
  · rw [after_concat, Op.apply, register_of_has (hp.has hop)]

/-- A predicate of priority five goes before an older one of priority one. It is handed out with the
response that came last and keeps its rank when it is registered again. -/
theorem refines_timed_map_orders :
    let low := Predicate.orders 1 .forever
    let high := Predicate.orders 5 .singleUse
    let q := { Request.blank with url := "/order/1" }
    let ops := [Op.offer 1 .forever 0, .offer 5 .singleUse 1, .offer 5 .singleUse 2]
    Active ops 0 low ∧ Active ops 1 high ∧ low.accepts q = true ∧
      (∃ t, Chosen ops q t high ∧ t = 1) ∧
      ((after ops).resolveOrFail q).1 = .ok (high, some ⟨.default, 2⟩) ∧
      ((after ops).consumeOrFail low).1 = .ok ⟨.default, 0⟩ ∧
      ∀ u w, Active (ops ++ [.offer 5 .singleUse 3]) u w ↔ Active ops u w := by
  intro low high q ops
  have h₀ : Active ([] ++ [.offer 1 .forever 0]) 0 low := .install _ _ rfl
  have h₁ : Active ([.offer 1 .forever 0] ++ [.offer 5 .singleUse 1]) 1 high :=
    .install _ _ (by decide)
  have hlow : Active ops 0 low :=
    .stay (.offer 5 .singleUse 2) (.stay (.offer 5 .singleUse 1) h₀ rfl) rfl
  have hhigh : Active ops 1 high := .stay (.offer 5 .singleUse 2) h₁ rfl
  have hq : low.accepts q = true := by decide
  have hfind : (after ops).find? q = some high := List.find?_cons_of_pos (l := [low]) hq
  obtain ⟨hunique, -, -, hfound, hconsume, hagain⟩ := refines_timed_map ops q
  obtain ⟨t, p, c, hp, hc, -, hresolve⟩ := hfound ⟨0, low, hlow, hq⟩
  have hserved : ((after ops).resolveOrFail q).1 = .ok (high, some ⟨.default, 2⟩) := by
    rw [resolveOrFail, resolve_of_some hfind]
    rfl
  obtain ⟨rfl, rfl⟩ : p = high ∧ c = ⟨.default, 2⟩ := by
    rw [hserved] at hresolve
    cases hresolve
    exact ⟨rfl, rfl⟩
  obtain ⟨k, hk, hok⟩ := hconsume 0 low hlow
  have hlowest : latest low.identity ops = some ⟨.default, 0⟩ := by decide
  cases hlowest.symm.trans hk
  exact ⟨hlow, hhigh, hq, ⟨t, hp, (hunique _ _ _ _ hp.active hhigh rfl).1⟩, hresolve,
    hok low rfl, (hagain 1 high hhigh high (Predicate.declared_orders _ _) ⟨.default, 3⟩ rfl).2⟩

end StubHttp.Registry
