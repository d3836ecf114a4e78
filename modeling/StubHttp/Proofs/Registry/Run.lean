import Mathlib.Data.List.Induction
import StubHttp.Proofs.Registry.Invariant

/-!
# Runs of a registry

Each operation on a registry happens at once. So whatever any number of callers do to a registry is
a list of operations, in the order in which they take place, and the registry that comes of it is
`after`. An operation puts a predicate in, gives a predicate that is in already a new response, or
takes out what it `removes`; `apply_cases` says that there is nothing else.
-/
namespace StubHttp.Registry

inductive Op
  | register (p : Predicate) (hp : p.Declared) (c : Canned)
  | find (q : Request)
  | consume (p : Predicate)
  | resolve (q : Request)
  | reset

namespace Op

def apply (r : Registry) : Op → Registry
  | register p _ c => r.register p c
  | find _ => r
  | consume p => (r.consume p).2
  | resolve q => (r.resolve q).2
  | reset => r.reset

def handed? (r : Registry) : Op → Option (Predicate × Canned)
  | consume p => (r.consume p).1.map (p, ·)
  | resolve q => (r.resolve q).1.bind fun x => x.2.map (x.1, ·)
  | _ => none

def installs (r : Registry) (i : Identity) : Op → Bool
  | register p _ _ => p.identity = i && !r.has p
  | _ => false

def handsOut (r : Registry) (i : Identity) (x : Op) : Bool :=
  (x.handed? r).any fun y => y.1.identity = i

def removes (r : Registry) (i : Identity) : Op → Bool
  | reset => i.lifetime ≠ .forever
  | x => i.lifetime = .singleUse && x.handsOut r i

def gives? (i : Identity) : Op → Option Canned
  | register p _ c => if p.identity = i then some c else none
  | _ => none

def offer (priority : Int32) (lifetime : Lifetime) (millis : Nat) : Op :=
  register (.orders priority lifetime) (Predicate.declared_orders _ _) ⟨.default, millis⟩

def demand : Op := resolve { Request.blank with url := "/order/1" }

end Op

def after (ops : List Op) : Registry := ops.foldl Op.apply .empty

def latest (i : Identity) (ops : List Op) : Option Canned := ops.reverse.findSome? (Op.gives? i)

@[simp] theorem after_concat (ops : List Op) (x : Op) : after (ops ++ [x]) = x.apply (after ops) := by
  simp [after]

@[simp] theorem latest_concat (i : Identity) (ops : List Op) (x : Op) :
    latest i (ops ++ [x]) = (x.gives? i).or (latest i ops) := by
  rw [latest, List.reverse_concat, List.findSome?_cons]
  cases x.gives? i <;> rfl

variable {r : Registry}

theorem find?_mem {q : Request} {p : Predicate} (h : r.find? q = some p) : p ∈ r.order :=
  List.mem_of_find?_eq_some h

theorem resolve_of_none {q : Request} (h : r.find? q = none) : r.resolve q = (none, r) := by
  rw [resolve, h]

theorem resolve_of_some {q : Request} {p : Predicate} (h : r.find? q = some p) :
    r.resolve q = (some (p, r.canned? p), r.spend p) := by
  rw [resolve, h]; rfl

theorem findOrFail_of_some {q : Request} {p : Predicate} (h : r.find? q = some p) :
    r.findOrFail q = .ok p := by
  rw [findOrFail, h]

theorem findOrFail_eq_error_iff {q : Request} :
    r.findOrFail q = .error (.noMatch q) ↔ r.find? q = none := by
  rw [findOrFail]
  cases r.find? q <;> simp

theorem resolveOrFail_of_some {q : Request} {p : Predicate} (h : r.find? q = some p) :
    (r.resolveOrFail q).1 = .ok (p, r.canned? p) := by
  rw [resolveOrFail, resolve_of_some h]

theorem resolveOrFail_eq_error_iff {q : Request} :
    (r.resolveOrFail q).1 = .error (.noMatch q) ↔ r.find? q = none := by
  rw [resolveOrFail]
  cases hf : r.find? q with
  | none => simp [resolve_of_none hf]
  | some p => simp [resolve_of_some hf]

theorem consumeOrFail_of_some {p : Predicate} {c : Canned} (h : r.canned? p = some c) :
    (r.consumeOrFail p).1 = .ok c := by
  rw [consumeOrFail, consume, h]

theorem consumeOrFail_eq_error_iff {p : Predicate} :
    (r.consumeOrFail p).1 = .error (.noResponse p.render) ↔ r.canned? p = none := by
  rw [consumeOrFail, consume]
  cases r.canned? p <;> simp

theorem canned?_of_same {o p : Predicate} (h : o.same p = true) : r.canned? o = r.canned? p :=
  congrArg r.shelf.get? (Predicate.same_iff.1 h)

theorem register_of_has {p : Predicate} {c : Canned} (h : r.has p = true) :
    r.register p c = ⟨r.order, r.shelf.replace p.identity c⟩ := by
  rw [register, if_pos h]

namespace Op

@[simp] theorem removes_register (p : Predicate) (hp : p.Declared) (c : Canned) (i : Identity) :
    (register p hp c).removes r i = false :=
  Bool.and_false _

theorem apply_resolve {q : Request} {p : Predicate} (h : r.find? q = some p) :
    (resolve q).apply r = (consume p).apply r := by
  simp only [apply, resolve_of_some h]; rfl

theorem handed?_resolve {q : Request} {p : Predicate} (h : r.find? q = some p) :
    (resolve q).handed? r = (consume p).handed? r := by
  simp only [handed?, resolve_of_some h]; rfl

theorem handed?_resolve_of_none {q : Request} (h : r.find? q = none) :
    (resolve q).handed? r = none := by
  rw [handed?, resolve_of_none h]; rfl

theorem handsOut_consume (p : Predicate) (i : Identity) :
    (consume p).handsOut r i = (decide (p.identity = i) && (r.shelf.get? i).isSome) := by
  rw [handsOut, handed?, Registry.consume, canned?]
  by_cases hi : p.identity = i
  · subst hi
    cases r.shelf.get? p.identity <;> simp
  · cases r.shelf.get? p.identity <;> simp [hi]

theorem held_of_handed? {x : Op} {p : Predicate} {c : Canned} (h : x.handed? r = some (p, c)) :
    r.shelf.get? p.identity = some c := by
  have hconsume : ∀ o, (consume o).handed? r = some (p, c) → r.shelf.get? p.identity = some c := by
    intro o ho
    obtain ⟨c', hc, he⟩ := Option.map_eq_some_iff.1 ho
    cases he
    exact hc
  cases x with
  | register p' hp c' => cases h
  | find q => cases h
  | reset => cases h
  | consume o => exact hconsume o h
  | resolve q =>
    cases hf : r.find? q with
    | none => rw [handed?_resolve_of_none hf] at h; cases h
    | some o => exact hconsume o (handed?_resolve hf ▸ h)

theorem held_of_handsOut {x : Op} {i : Identity} (h : x.handsOut r i = true) :
    (r.shelf.get? i).isSome = true := by
  obtain ⟨⟨p, c⟩, hy, hi⟩ := (Option.any_eq_true _ _).1 h
  cases of_decide_eq_true hi
  exact Option.isSome_of_eq_some (held_of_handed? hy)

end Op

theorem Sound.keep_congr (h : r.Sound) {f g : Identity → Bool}
    (hfg : ∀ i, (r.shelf.get? i).isSome = true → f i = g i) : r.keep f = r.keep g := by
  have ho : ∀ p ∈ r.order, f p.identity = g p.identity := fun p hp =>
    hfg _ (h.isSome_get?.2 ⟨p, hp, rfl⟩)
  have hs : ∀ x ∈ r.shelf, f x.1 = g x.1 := fun x hx =>
    hfg _ (Shelf.isSome_get?.2 (List.mem_map_of_mem hx))
  rw [Registry.keep, Registry.keep, List.filter_congr ho, List.filter_congr hs]

theorem spend_eq_keep (p : Predicate) :
    r.spend p = r.keep fun i => !(i.lifetime = .singleUse && p.identity = i) := by
  rw [spend]
  split
  case isTrue hl =>
    rw [erase_eq_keep]
    congr 1
    funext i
    by_cases hi : p.identity = i
    · subst hi
      simp [show p.identity.lifetime = .singleUse from hl]
    · simp [hi, Ne.symm hi]
  case isFalse hl =>
    refine (keep_of_forall fun i => ?_).symm
    by_cases hi : p.identity = i
    · subst hi
      simp [show ¬ p.identity.lifetime = .singleUse from hl]
    · simp [hi]

/-- An operation registers a predicate, or it does no more than to take out what it removes. -/
theorem Sound.apply_cases (h : r.Sound) (x : Op) :
    (∃ p hp c, x = .register p hp c) ∨
      (x.apply r = r.keep fun i => !x.removes r i) ∧
        ∀ i, x.installs r i = false ∧ x.gives? i = none := by
  have hconsume (p : Predicate) :
      (Op.consume p).apply r = r.keep fun i => !(Op.consume p).removes r i := by
    rw [show (Op.consume p).apply r = r.spend p from rfl, spend_eq_keep]
    -- A predicate that is not registered is erased to no effect and is not handed out. So the two
    -- tests agree on what the registry holds only.
    refine h.keep_congr fun i hi => ?_
    rw [Op.removes, Op.handsOut_consume, hi, Bool.and_true]
    exact nofun
  cases x with
  | register p hp c => exact .inl ⟨p, hp, c, rfl⟩
  | find q =>
    exact .inr ⟨(keep_of_forall fun i => by simp [Op.removes, Op.handsOut, Op.handed?]).symm,
      fun i => ⟨rfl, rfl⟩⟩
  | consume p => exact .inr ⟨hconsume p, fun i => ⟨rfl, rfl⟩⟩
  | resolve q =>
    refine .inr ⟨?_, fun i => ⟨rfl, rfl⟩⟩
    cases hf : r.find? q with
    | none =>
      rw [Op.apply, resolve_of_none hf]
      exact (keep_of_forall fun i => by
        simp [Op.removes, Op.handsOut, Op.handed?_resolve_of_none hf]).symm
    | some p =>
      simp only [Op.apply_resolve hf, Op.removes, Op.handsOut, Op.handed?_resolve hf]
      exact hconsume p
  | reset =>
    refine .inr ⟨?_, fun i => ⟨rfl, rfl⟩⟩
    rw [Op.apply, h.reset_eq_keep]
    congr 1
    funext i
    simp [Op.removes]

theorem Sound.apply (h : r.Sound) (x : Op) : (x.apply r).Sound := by
  rcases h.apply_cases x with ⟨p, hp, c, rfl⟩ | ⟨hx, -⟩
  · exact h.register hp
  · rw [hx]
    exact h.keep _

theorem sound_after (ops : List Op) : (after ops).Sound := by
  induction ops using List.reverseRecOn with
  | nil => exact sound_empty
  | append_singleton ops x ih =>
    rw [after_concat]
    exact ih.apply x

theorem get?_register (p : Predicate) (c : Canned) (i : Identity) :
    (r.register p c).shelf.get? i = if p.identity = i then some c else r.shelf.get? i := by
  rw [register]
  split
  case isTrue hh =>
    rw [Shelf.get?_replace]
    by_cases hi : p.identity = i
    · subst hi
      obtain ⟨c', hc⟩ := Option.isSome_iff_exists.1 hh
      rw [if_pos rfl, if_pos rfl, show r.shelf.get? p.identity = some c' from hc, Option.map_some]
    · rw [if_neg (Ne.symm hi), if_neg hi]
  case isFalse =>
    rw [Shelf.get?_cons]
    by_cases hi : p.identity = i
    · rw [if_pos hi, if_pos hi.symm]
    · rw [if_neg hi, if_neg (Ne.symm hi)]

theorem Sound.get?_apply (h : r.Sound) (x : Op) (i : Identity) :
    (x.apply r).shelf.get? i =
      (x.gives? i).or (if x.removes r i then none else r.shelf.get? i) := by
  rcases h.apply_cases x with ⟨p, hp, c, rfl⟩ | ⟨hx, hn⟩
  · rw [Op.apply, get?_register, Op.gives?, Op.removes_register]
    by_cases hi : p.identity = i <;> simp [hi]
  · rw [hx, get?_keep, (hn i).2]
    cases x.removes r i <;> rfl

theorem latest_of_held {ops : List Op} {i : Identity} {c : Canned}
    (h : (after ops).shelf.get? i = some c) : latest i ops = some c := by
  induction ops using List.reverseRecOn with
  | nil => cases h
  | append_singleton ops x ih =>
    rw [after_concat, (sound_after ops).get?_apply] at h
    rw [latest_concat]
    cases hg : x.gives? i with
    | some c' =>
      rw [hg] at h
      exact h
    | none =>
      rw [hg, Option.none_or] at h
      split at h
      · cases h
      · rw [Option.none_or]
        exact ih h

theorem Sound.isSome_of_resolve (h : r.Sound) {q : Request} {p : Predicate} {k : Option Canned}
    (hr : (r.resolve q).1 = some (p, k)) : k.isSome = true := by
  cases hf : r.find? q with
  | none => rw [resolve_of_none hf] at hr; cases hr
  | some o =>
    rw [resolve_of_some hf] at hr
    cases hr
    exact h.isSome_get?.2 ⟨p, find?_mem hf, rfl⟩

theorem Sound.canned?_eq_none_iff (h : r.Sound) {p : Predicate} :
    r.canned? p = none ↔ ∀ o ∈ r.order, o.same p = false := by
  rw [canned?, ← Option.not_isSome_iff_eq_none, h.isSome_get?]
  simp only [← Predicate.same_iff, not_exists, not_and, Bool.not_eq_true]

end StubHttp.Registry
