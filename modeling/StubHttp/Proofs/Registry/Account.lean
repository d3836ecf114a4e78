import StubHttp.Proofs.Registry.Run

/-!
# An account of predicates for one use

A predicate for one use is put in and taken out again, by a hand-out or by a reset. The account of a
run says that it has been put in as often as it has been taken out, and once more if it still stands
in the order of trial. So it is put in anew between any two of its hand-outs.
-/
namespace StubHttp.Registry

def stands (r : Registry) (i : Identity) : Bool := r.order.any fun p => p.identity = i

def Op.drops (r : Registry) (i : Identity) : Op → Bool
  | reset => r.stands i && !r.reset.stands i
  | _ => false

def tally (f : Registry → Op → Bool) : Registry → List Op → Nat
  | _, [] => 0
  | r, x :: xs => (f r x).toNat + tally f (x.apply r) xs

theorem after_append (a b : List Op) : after (a ++ b) = b.foldl Op.apply (after a) :=
  List.foldl_append

variable {r : Registry} {i : Identity}

theorem Sound.stands_eq (h : r.Sound) : r.stands i = (r.shelf.get? i).isSome := by
  rw [Bool.eq_iff_iff, h.isSome_get?, stands, List.any_eq_true]
  simp only [decide_eq_true_eq]

theorem Op.not_installs_of_handsOut {x : Op} (h : x.handsOut r i = true) :
    x.installs r i = false := by
  cases x with
  | register p hp c => cases h
  | _ => rfl

theorem Sound.balance (h : r.Sound) (hi : i.lifetime = .singleUse) (x : Op) :
    (x.installs r i).toNat + (r.stands i).toNat =
      (x.handsOut r i).toNat + (x.drops r i).toNat + ((x.apply r).stands i).toNat := by
  -- The operations that register nothing and are no reset remove a predicate for one use just when
  -- they hand it out.
  have hserve (hn : x.installs r i = false) (hg : x.gives? i = none) (hd : x.drops r i = false)
      (hr : x.removes r i = (decide (i.lifetime = .singleUse) && x.handsOut r i)) :
      (x.installs r i).toNat + (r.stands i).toNat =
        (x.handsOut r i).toNat + (x.drops r i).toNat + ((x.apply r).stands i).toNat := by
    rw [(h.apply x).stands_eq, h.get?_apply, h.stands_eq, hn, hg, hd, hr, hi, Option.none_or]
    cases hh : x.handsOut r i with
    | false => simp
    | true => simp [Op.held_of_handsOut hh]
  cases x with
  | find q => exact hserve rfl rfl rfl rfl
  | consume p => exact hserve rfl rfl rfl rfl
  | resolve q => exact hserve rfl rfl rfl rfl
  | register p hp c =>
    have hh : (Op.register p hp c).handsOut r i = false := rfl
    have hd : (Op.register p hp c).drops r i = false := rfl
    rw [hh, hd, h.stands_eq, (h.apply _).stands_eq, Op.apply, get?_register, Op.installs, has,
      canned?]
    by_cases hpi : p.identity = i
    · subst hpi
      cases r.shelf.get? p.identity <;> simp
    · simp [hpi]
  | reset =>
    have hreset : r.reset.stands i = false := by
      rw [(h.apply .reset).stands_eq (r := r.reset), h.reset_eq_keep, get?_keep, hi]
      rfl
    rw [show Op.reset.apply r = r.reset from rfl, Op.drops, hreset]
    simp [Op.installs, Op.handsOut, Op.handed?]

theorem Sound.tally_balance (h : r.Sound) (hi : i.lifetime = .singleUse) (ops : List Op) :
    tally (fun r x => x.installs r i) r ops + (r.stands i).toNat =
      tally (fun r x => x.handsOut r i) r ops + tally (fun r x => x.drops r i) r ops +
        ((ops.foldl Op.apply r).stands i).toNat := by
  induction ops generalizing r with
  | nil => simp [tally]
  | cons x xs ih =>
    have hx := h.balance hi x
    have hxs := ih (h.apply x)
    simp only [tally, List.foldl_cons]
    omega

theorem Sound.not_stands_of_handsOut (h : r.Sound) (hi : i.lifetime = .singleUse) {x : Op}
    (hx : x.handsOut r i = true) : (x.apply r).stands i = false := by
  have hb := h.balance hi x
  rw [hx, Op.not_installs_of_handsOut hx] at hb
  have hs := Bool.toNat_le (r.stands i)
  rw [← Bool.toNat_eq_zero]
  simp only [Bool.toNat_false, Bool.toNat_true] at hb
  omega

theorem Sound.exists_installs (h : r.Sound) (hi : i.lifetime = .singleUse) {ops : List Op}
    (h₀ : r.stands i = false) (h₁ : (ops.foldl Op.apply r).stands i = true) :
    ∃ a x b, ops = a ++ x :: b ∧ x.installs (a.foldl Op.apply r) i = true := by
  induction ops generalizing r with
  | nil => rw [List.foldl_nil, h₀] at h₁; cases h₁
  | cons x xs ih =>
    -- The first operation after which it stands has put it in.
    cases hx : (x.apply r).stands i with
    | true =>
      refine ⟨[], x, xs, rfl, ?_⟩
      have hb := h.balance hi x
      rw [hx, h₀] at hb
      rw [List.foldl_nil, ← Bool.toNat_eq_one]
      have hn := Bool.toNat_le (x.installs r i)
      simp only [Bool.toNat_false, Bool.toNat_true] at hb
      omega
    | false =>
      obtain ⟨a, y, b, rfl, hy⟩ := ih (h.apply x) hx h₁
      exact ⟨x :: a, y, b, rfl, hy⟩

/-- In any run, a predicate for one use is put in as often as it is handed out or dropped by a reset,
and once more if it still stands; it is put in between two hand-outs; and each hand-out carries what
was registered last for it. -/
theorem single_use_account (p : Predicate) (hp : p.lifetime = .singleUse) (ops : List Op) :
    tally (fun r x => x.installs r p.identity) .empty ops =
        tally (fun r x => x.handsOut r p.identity) .empty ops +
          tally (fun r x => x.drops r p.identity) .empty ops +
          (if (after ops).stands p.identity then 1 else 0) ∧
      (∀ a x b y c, ops = a ++ x :: (b ++ y :: c) →
        x.handsOut (after a) p.identity = true →
        y.handsOut (after (a ++ x :: b)) p.identity = true →
        ∃ b₁ z b₂, b = b₁ ++ z :: b₂ ∧ z.installs (after (a ++ x :: b₁)) p.identity = true) ∧
      ∀ a x b, ops = a ++ x :: b →
        ∀ o c, x.handed? (after a) = some (o, c) → o.same p = true →
          latest p.identity a = some c := by
  refine ⟨?_, fun a x b y c _ hx hy => ?_, fun a x b _ o c hx ho => ?_⟩
  · have hb := sound_empty.tally_balance hp ops
    have h₀ : Registry.empty.stands p.identity = false := rfl
    rw [h₀, Bool.toNat_false, Nat.add_zero] at hb
    rw [hb, after]
    cases (ops.foldl Op.apply .empty).stands p.identity <;> rfl
  · have ha := (sound_after a).apply x
    have hgone := (sound_after a).not_stands_of_handsOut hp hx
    have hback : (b.foldl Op.apply (x.apply (after a))).stands p.identity = true := by
      have hs := (sound_after (a ++ x :: b)).stands_eq (i := p.identity)
      rw [Op.held_of_handsOut hy, after_append] at hs
      exact hs
    obtain ⟨b₁, z, b₂, hb, hz⟩ := ha.exists_installs hp hgone hback
    exact ⟨b₁, z, b₂, hb, by rw [after_append]; exact hz⟩
  · have hc := Op.held_of_handed? hx
    rw [Predicate.same_iff.1 ho] at hc
    exact latest_of_held hc

/-- One predicate put in four times: it is handed out by either way of handing out, dropped by a
reset, and stands at the end. The second hand-out carries the response that came last. -/
theorem single_use_account_orders :
    let p := Predicate.orders 5 .singleUse
    let again := [Op.offer 5 .singleUse 1, .offer 5 .singleUse 7]
    let ops := .offer 5 .singleUse 0 :: .consume p ::
      (again ++ .demand :: [.offer 5 .singleUse 2, .reset, .offer 5 .singleUse 3])
    p.lifetime = .singleUse ∧
      tally (fun r x => x.installs r p.identity) .empty ops = 4 ∧
      4 = 2 + tally (fun r x => x.drops r p.identity) .empty ops + 1 ∧
      (∃ b₁ z b₂, again = b₁ ++ z :: b₂ ∧
        z.installs (after ([.offer 5 .singleUse 0] ++ .consume p :: b₁)) p.identity = true) ∧
      latest p.identity ([.offer 5 .singleUse 0, .consume p] ++ again) = some ⟨.default, 7⟩ := by
  intro p again ops
  obtain ⟨haccount, hbetween, hlatest⟩ := single_use_account p rfl ops
  have hin : tally (fun r x => x.installs r p.identity) .empty ops = 4 := by decide
  have hout : tally (fun r x => x.handsOut r p.identity) .empty ops = 2 := by decide
  have hstands : (after ops).stands p.identity = true := by decide
  refine ⟨rfl, hin, ?_, ?_, ?_⟩
  · rw [hin, hout, hstands] at haccount
    exact haccount
  · exact hbetween [.offer 5 .singleUse 0] (.consume p) again .demand _ rfl (by decide) (by decide)
  · exact hlatest ([.offer 5 .singleUse 0, .consume p] ++ again) .demand _ rfl p _ rfl rfl

end StubHttp.Registry
