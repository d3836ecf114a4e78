import StubHttp.Proofs.Predicate.Lines
import StubHttp.Proofs.Stub.Reachable

/-!
# What a predicate is known by

Predicates are the same if they were declared the same, with the lines in one order. That is finer than to
accept the same requests, for which the lines may come in any order and more than once. So a registry
takes declarations with the same lines in another order for two entries, and a predicate that is registered
again leaves it with the same matches.
-/
namespace StubHttp

namespace Predicate

variable {p p' : Predicate}

theorem feed_eq_iff : p.feed = p'.feed ↔ p.same p' = true := by
  rw [same_iff]
  constructor
  · intro h
    obtain ⟨hlength, hrest⟩ := List.cons.inj h
    have htexts : (p.lines.map Feed.text).length = (p'.lines.map Feed.text).length := by
      simpa using hlength
    obtain ⟨hlines, hmore⟩ := List.append_inj hrest htexts
    simp only [List.cons.injEq, Feed.number.injEq, Feed.variant.injEq, Feed.text.injEq, and_true] at hmore
    obtain ⟨hpriority, hvariant, htype⟩ := hmore
    have hall : p.lifetime ∈ Lifetime.all := by cases p.lifetime <;> decide
    have hlifetime : p.lifetime = p'.lifetime := (List.idxOf_inj hall).1 hvariant
    have htext : Function.Injective Feed.text := fun _ _ h => Feed.text.inj h
    exact (Identity.mk.injEq ..).mpr
      ⟨List.map_injective_iff.2 htext hlines, hpriority, hlifetime, htype⟩
  · intro h
    simp only [feed, lines, priority, lifetime, requestType, h]

theorem Declared.eq_of_same (h : p.Declared) (h' : p'.Declared) (hsame : p.same p' = true) : p = p' := by
  obtain ⟨d, hd⟩ := h
  obtain ⟨d', hd'⟩ := h'
  obtain ⟨hid, hconditions, -⟩ := ofDocument_eq_ok hd
  obtain ⟨hid', hconditions', -⟩ := ofDocument_eq_ok hd'
  have heq : p.identity = p'.identity := same_iff.1 hsame
  have hlines : d.declaration.lines = d'.declaration.lines := by
    rw [hid, hid'] at heq
    exact congrArg Identity.lines heq
  rw [hlines, hconditions'] at hconditions
  cases p
  cases p'
  cases heq
  cases hconditions
  rfl

theorem rank_eq_iff {a b : Int32} : rank a = rank b ↔ max a.toInt 1 = max b.toInt 1 := by
  rw [rank, rank]
  omega

end Predicate

namespace RuleDocument

variable {d d' : RuleDocument} {p p' : Predicate}

/-- The lines are the same in their order, and the type, the lifetime and the priority from one on. -/
def DeclaresSame (d d' : RuleDocument) : Prop :=
  d.declaration.lines = d'.declaration.lines ∧
    d.declaration.requestType = d'.declaration.requestType ∧ d.lifetime = d'.lifetime ∧
    max d.priority.toInt 1 = max d'.priority.toInt 1

instance : DecidableRel DeclaresSame := fun _ _ => inferInstanceAs (Decidable (_ ∧ _ ∧ _ ∧ _))

theorem identity_of_predicate (h : d.predicate = .ok p) : p.identity =
    ⟨d.declaration.lines, Predicate.rank d.priority, d.lifetime, d.declaration.requestType⟩ :=
  (Predicate.ofDocument_eq_ok (declared_of_predicate h)).1

theorem predicate_of_conditions {cs : List Condition} (hlines : d.declaration.lines ≠ [])
    (htype : d.declaration.requestType ≠ "")
    (hcs : Predicate.conditionsOf d.declaration.lines = .ok cs) : d.predicate = .ok
      ⟨⟨d.declaration.lines, Predicate.rank d.priority, d.lifetime, d.declaration.requestType⟩, cs⟩ := by
  rw [predicate_eq, if_neg hlines, if_neg htype, hcs]

theorem same_iff_declaresSame (h : d.predicate = .ok p) (h' : d'.predicate = .ok p') :
    p.same p' = true ↔ d.DeclaresSame d' := by
  rw [Predicate.same_iff, identity_of_predicate h, identity_of_predicate h', Identity.mk.injEq,
    Predicate.rank_eq_iff, DeclaresSame]
  tauto

variable (hlines : ∀ line, line ∈ d.declaration.lines ↔ line ∈ d'.declaration.lines)
include hlines

theorem exists_predicate_congr (htype : d.declaration.requestType ≠ "")
    (htype' : d'.declaration.requestType ≠ "") :
    (∃ p, d.predicate = .ok p) ↔ ∃ p, d'.predicate = .ok p := by
  have hnil : d.declaration.lines ≠ [] ↔ d'.declaration.lines ≠ [] := by
    simp only [ne_eq, List.eq_nil_iff_forall_not_mem, hlines]
  rw [exists_predicate_iff, exists_predicate_iff, hnil]
  simp only [hlines, htype, htype', ne_eq, not_false_eq_true]

theorem accepts_congr (h : d.predicate = .ok p) (h' : d'.predicate = .ok p') (q : Request) :
    p.accepts q = p'.accepts q := by
  rw [Bool.eq_iff_iff, Predicate.accepts, Predicate.accepts,
    Predicate.all_holds_iff (conditionsOf_of_predicate h),
    Predicate.all_holds_iff (conditionsOf_of_predicate h')]
  simp only [hlines]

end RuleDocument

namespace Registry

variable {r r' : Registry} {p p' : Predicate}

structure Adds (r r' : Registry) (n : Nat) : Prop where
  order : r.order.Sublist r'.order
  size : r'.size = r.size + n
  shelf : r'.shelf.length = r.shelf.length + n

theorem Adds.trans {r'' : Registry} {m n : Nat} (h : r.Adds r' m) (h' : r'.Adds r'' n) :
    r.Adds r'' (m + n) where
  order := h.order.trans h'.order
  size := by rw [h'.size, h.size, Nat.add_assoc]
  shelf := by rw [h'.shelf, h.shelf, Nat.add_assoc]

theorem adds_register (p : Predicate) (c : Canned) :
    r.Adds (r.register p c) (if r.has p then 0 else 1) := by
  rw [register]
  split_ifs with h
  · exact ⟨.refl _, rfl, by simp [Shelf.replace]⟩
  · refine ⟨?_, ?_, rfl⟩
    · rw [place_eq_orderedInsert]
      exact List.sublist_orderedInsert _ _
    · rw [size, size, (perm_place p r.order).length_eq, List.length_cons]

theorem has_register (p p' : Predicate) (c : Canned) :
    (r.register p c).has p' = (p.same p' || r.has p') := by
  rw [has, canned?, get?_register, Predicate.same]
  split_ifs with h
  · simp [h]
  · simp [h, has, canned?]

theorem adds_register_both (hp : r.has p = false) (hp' : r.has p' = false) (c c' : Canned) :
    r.Adds ((r.register p c).register p' c') (if p.same p' then 1 else 2) := by
  have hfirst := r.adds_register p c
  have hsecond := (r.register p c).adds_register p' c'
  rw [hp] at hfirst
  rw [has_register, hp', Bool.or_false] at hsecond
  have hboth := hfirst.trans hsecond
  cases hsame : p.same p' with
  | false => simpa [hsame] using hboth
  | true => simpa [hsame] using hboth

theorem find?_register_of_has (h : r.has p = true) (c : Canned) (q : Request) :
    (r.register p c).find? q = r.find? q := by
  rw [register_of_has h]
  rfl

end Registry

namespace RuleDocument

variable {d d' : RuleDocument}

/-- Of two documents with a type and the same lines, in any order and any number, one has a predicate
exactly if the other has, and the predicates accept the same requests. A registry that has neither gets one
entry for both, whichever comes first, if they declare the same; then they feed the same to a hash, too. If
not it gets two. A predicate that is the same as one in the registry accepts what this one accepts, and to
register it leaves all matches as they are. -/
theorem same_lines_registered
    (hlines : ∀ line, line ∈ d.declaration.lines ↔ line ∈ d'.declaration.lines)
    (htype : d.declaration.requestType ≠ "") (htype' : d'.declaration.requestType ≠ "") :
    ((∃ p, d.predicate = .ok p) ↔ ∃ p', d'.predicate = .ok p') ∧
    ∀ p p', d.predicate = .ok p → d'.predicate = .ok p' →
      (∀ q, p.accepts q = p'.accepts q) ∧ (d.DeclaresSame d' ↔ p.feed = p'.feed) ∧
      ∀ ops, let r := Registry.after ops
        ((∀ o ∈ r.order, o.same p = false ∧ o.same p' = false) → ∀ c c',
          r.Adds ((r.register p c).register p' c') (if d.DeclaresSame d' then 1 else 2) ∧
          r.Adds ((r.register p' c').register p c) (if d.DeclaresSame d' then 1 else 2)) ∧
        ∀ o ∈ r.order, o.same p = true →
          (∀ q, o.accepts q = p.accepts q) ∧ ∀ c q, (r.register p c).find? q = r.find? q := by
  refine ⟨exists_predicate_congr hlines htype htype', fun p p' hp hp' => ?_⟩
  have hsame : p.same p' = true ↔ d.DeclaresSame d' := same_iff_declaresSame hp hp'
  have hsame' : p'.same p = true ↔ d.DeclaresSame d' := by
    rw [← hsame, Predicate.same_iff, Predicate.same_iff, eq_comm]
  refine ⟨accepts_congr hlines hp hp', ?_, fun ops => ⟨fun hnew c c' => ?_, fun o ho hsame => ?_⟩⟩
  · rw [Predicate.feed_eq_iff, hsame]
  · have hsound := Registry.sound_after ops
    have hnone : (Registry.after ops).has p = false := by
      rw [Registry.has, hsound.canned?_eq_none_iff.2 fun o ho => (hnew o ho).1]
      rfl
    have hnone' : (Registry.after ops).has p' = false := by
      rw [Registry.has, hsound.canned?_eq_none_iff.2 fun o ho => (hnew o ho).2]
      rfl
    have hadds := Registry.adds_register_both hnone hnone' c c'
    have hadds' := Registry.adds_register_both hnone' hnone c' c
    simp only [hsame] at hadds
    simp only [hsame'] at hadds'
    exact ⟨hadds, hadds'⟩
  · have hsound := Registry.sound_after ops
    have heq : o = p :=
      (hsound.declared o ho).eq_of_same ⟨d, declared_of_predicate hp⟩ hsame
    subst heq
    exact ⟨fun q => rfl, Registry.find?_register_of_has (hsound.isSome_get?.2 ⟨o, ho, rfl⟩)⟩

/-- Two lines, the same in the other order with one of them twice, and the two again with a priority that
counts as the same. -/
theorem same_lines_registered_orders :
    let method := "httpMethod is 'GET'"
    let url := "url contains '/order'"
    let rule (lines : List String) (priority : Int32) : RuleDocument :=
      { RuleDocument.blank with declaration := ⟨"Order", lines⟩, priority := priority }
    let isGet : Condition := ⟨⟨method, .method, .equals, "GET"⟩, .method, .equals "GET"⟩
    let isOrder : Condition := ⟨⟨url, .url, .contains, "/order"⟩, .url, .contains "/order"⟩
    let p : Predicate := ⟨⟨[method, url], 1, .forever, "Order"⟩, [isGet, isOrder]⟩
    let p' : Predicate := ⟨⟨[url, method, url], 1, .forever, "Order"⟩, [isOrder, isGet, isOrder]⟩
    let c : Canned := ⟨.default, 0⟩
    let r := Registry.after [.offer 1 .forever 0]
    (rule [method, url] 1).predicate = .ok p ∧ (rule [method, url] (-7)).predicate = .ok p ∧
      (rule [url, method, url] 1).predicate = .ok p' ∧ (∀ q, p.accepts q = p'.accepts q) ∧
      p.feed ≠ p'.feed ∧ r.Adds ((r.register p c).register p' c) 2 ∧
      r.Adds ((r.register p c).register p c) 1 := by
  intro method url rule isGet isOrder p p' c r
  have hmethod : Condition.parse method = .ok isGet :=
    Condition.parse_eq_ok_iff.2 ⟨_, .equals "GET", by decide, rfl, rfl⟩
  have hurl : Condition.parse url = .ok isOrder :=
    Condition.parse_eq_ok_iff.2 ⟨_, .contains "/order", by decide, rfl, rfl⟩
  have hcs := Predicate.conditionsOf_eq_ok_iff.2 (.cons hmethod (.cons hurl .nil))
  have hcs' := Predicate.conditionsOf_eq_ok_iff.2 (.cons hurl (.cons hmethod (.cons hurl .nil)))
  have hp : (rule [method, url] 1).predicate = .ok p :=
    predicate_of_conditions (by decide) (by decide) hcs
  have hagain : (rule [method, url] (-7)).predicate = .ok p :=
    predicate_of_conditions (by decide) (by decide) hcs
  have hp' : (rule [url, method, url] 1).predicate = .ok p' :=
    predicate_of_conditions (by decide) (by decide) hcs'
  have hlines : ∀ line, line ∈ (rule [method, url] 1).declaration.lines ↔
      line ∈ (rule [url, method, url] 1).declaration.lines := by
    intro line
    simp only [rule, List.mem_cons, List.not_mem_nil, or_false]
    tauto
  have hkept : ∀ line, line ∈ (rule [method, url] 1).declaration.lines ↔
    line ∈ (rule [method, url] (-7)).declaration.lines := fun _ => .rfl
  have hnew : ∀ o ∈ r.order, o.same p = false ∧ o.same p' = false := by decide
  obtain ⟨-, hboth⟩ := same_lines_registered hlines (by decide) (by decide)
  obtain ⟨haccepts, hfeed, hadds⟩ := hboth p p' hp hp'
  obtain ⟨-, hboth'⟩ := same_lines_registered hkept (by decide) (by decide)
  obtain ⟨-, -, hadds'⟩ := hboth' p p hp hagain
  have hdiffer : ¬ (rule [method, url] 1).DeclaresSame (rule [url, method, url] 1) := by decide
  have hagree : (rule [method, url] 1).DeclaresSame (rule [method, url] (-7)) := by decide
  have htwo := ((hadds [.offer 1 .forever 0]).1 hnew c c).1
  have hone := ((hadds' [.offer 1 .forever 0]).1 (fun o ho => ⟨(hnew o ho).1, (hnew o ho).1⟩) c c).1
  rw [if_neg hdiffer] at htwo
  rw [if_pos hagree] at hone
  exact ⟨hp, hagain, hp', haccepts, mt hfeed.2 hdiffer, htwo, hone⟩

end RuleDocument

end StubHttp
