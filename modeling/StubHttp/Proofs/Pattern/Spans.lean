import Mathlib.Data.Nat.Bitwise
import Mathlib.Logic.Function.Iterate
import StubHttp.Pattern.Regex

/-!
# What a regular expression matches

`Regex.Spans` says from which positions of a text a regular expression goes to which others. Sets of
positions as numbers compute this relation: `Regex.follows_run` is one induction on the expression,
and a repetition without an upper bound ends because a step that does not stay goes forward.
-/
namespace StubHttp.Pattern

variable {R : Nat → Nat → Prop} {f g : Nat → Nat} {i j k n s : Nat}

def Hops (R : Nat → Nat → Prop) : Nat → Nat → Nat → Prop
  | 0, i, j => i = j
  | k + 1, i, j => ∃ m, R i m ∧ Hops R k m j

namespace Hops

theorem add_iff {a b : Nat} : Hops R (a + b) i j ↔ ∃ m, Hops R a i m ∧ Hops R b m j := by
  induction a generalizing i with
  | zero => simp [Hops]
  | succ a ih =>
    rw [Nat.add_right_comm]
    simp only [Hops, ih]
    constructor
    · intro ⟨x, hx, m, hm, hb⟩
      exact ⟨m, ⟨x, hx, hm⟩, hb⟩
    · intro ⟨m, ⟨x, hx, hm⟩, hb⟩
      exact ⟨x, hx, m, hm, hb⟩

theorem iff_of_stay (hR : ∀ i j, R i j → i = j) : Hops R k i j ↔ i = j ∧ (0 < k → R i j) := by
  induction k generalizing i with
  | zero => simp [Hops]
  | succ k ih =>
    constructor
    · intro ⟨m, hm, h⟩
      obtain rfl := hR i m hm
      obtain rfl := (ih.1 h).1
      exact ⟨rfl, fun _ => hm⟩
    · intro ⟨hij, h⟩
      subst hij
      exact ⟨i, h (Nat.succ_pos k), ih.2 ⟨rfl, fun _ => h (Nat.succ_pos k)⟩⟩

theorem stay_iff : Hops (fun i j => i = j ∨ R i j) k i j ↔ ∃ m ≤ k, Hops R m i j := by
  induction k generalizing i with
  | zero => simp [Hops]
  | succ k ih =>
    simp only [Hops, ih]
    constructor
    · intro ⟨x, hx, m, hm, h⟩
      obtain rfl | hx := hx
      · exact ⟨m, by omega, h⟩
      · exact ⟨m + 1, by omega, x, hx, h⟩
    · intro ⟨m, hm, h⟩
      cases m with
      | zero => exact ⟨i, .inl rfl, 0, Nat.zero_le k, h⟩
      | succ m =>
        obtain ⟨x, hx, h⟩ := h
        exact ⟨x, .inr hx, m, by omega, h⟩

end Hops

def Forward (n : Nat) (R : Nat → Nat → Prop) : Prop := ∀ i j, R i j → i = j ∨ i < j ∧ j ≤ n

theorem Forward.hops (hR : Forward n R) (k : Nat) : Forward n (Hops R k) := by
  intro i j h
  induction k generalizing i with
  | zero => exact .inl h
  | succ k ih =>
    obtain ⟨m, hm, h⟩ := h
    have hfirst := hR i m hm
    have hlast := ih m h
    omega

/-- Steps that stay can be left out, and of the others there are at most `n`. -/
theorem Forward.exists_hops_le (hR : Forward n R) (h : Hops R k i j) :
    ∃ m, (m = 0 ∨ m + i ≤ n) ∧ Hops R m i j := by
  induction k generalizing i with
  | zero => exact ⟨0, .inl rfl, h⟩
  | succ k ih =>
    obtain ⟨x, hx, h⟩ := h
    obtain ⟨m, hm, h'⟩ := ih h
    obtain rfl | hlt := hR i x hx
    · exact ⟨m, hm, h'⟩
    · exact ⟨m + 1, .inr (by omega), x, hx, h'⟩

/-- The function takes a set of positions to those that the relation reaches from it. -/
def Follows (f : Nat → Nat) (R : Nat → Nat → Prop) : Prop :=
  ∀ s j, (f s).testBit j = true ↔ ∃ i, s.testBit i = true ∧ R i j

namespace Follows

theorem comp {S : Nat → Nat → Prop} (hf : Follows f R) (hg : Follows g S) :
    Follows (fun s => g (f s)) (fun i j => ∃ m, R i m ∧ S m j) := by
  intro s j
  simp only [hg (f s) j, hf s]
  constructor
  · intro ⟨m, ⟨i, hi, hR⟩, hS⟩
    exact ⟨i, hi, m, hR, hS⟩
  · intro ⟨i, hi, m, hR, hS⟩
    exact ⟨m, ⟨i, hi, hR⟩, hS⟩

theorem union {S : Nat → Nat → Prop} (hf : Follows f R) (hg : Follows g S) :
    Follows (fun s => f s ||| g s) (fun i j => R i j ∨ S i j) := by
  intro s j
  simp only [Nat.testBit_or, Bool.or_eq_true, hf s j, hg s j, and_or_left, exists_or]

theorem stay : Follows (fun s => s) (fun i j => i = j) := by
  intro s j
  simp

theorem mono {S : Nat → Nat → Prop} (hf : Follows f R) (h : ∀ i j, R i j ↔ S i j) :
    Follows f S := by
  intro s j
  simp only [hf s j, h]

end Follows

theorem iterate_eq (f : Nat → Nat) (k s : Nat) : iterate f k s = f^[k] s := by
  induction k generalizing s with
  | zero => rfl
  | succ k ih =>
    rw [iterate, Function.iterate_succ_apply]
    split
    case isTrue h => rw [h, Function.iterate_fixed h]
    case isFalse => exact ih (f s)

theorem saturate_eq (f : Nat → Nat) (k s : Nat) :
    saturate f k s = iterate (fun s => s ||| f s) k s := by
  induction k generalizing s with
  | zero => rfl
  | succ k ih => simp only [saturate, iterate, ih]

theorem Follows.iterate (hf : Follows f R) (k : Nat) :
    Follows (Pattern.iterate f k) (Hops R k) := by
  have hiterate : Follows f^[k] (Hops R k) := by
    induction k with
    | zero => exact Follows.stay
    | succ k ih => exact hf.comp ih
  intro s
  rw [iterate_eq]
  exact hiterate s

theorem Follows.saturate (hf : Follows f R) (k : Nat) :
    Follows (Pattern.saturate f k) (fun i j => ∃ m ≤ k, Hops R m i j) := by
  intro s
  rw [saturate_eq]
  exact ((Follows.stay.union hf).iterate k).mono (fun _ _ => Hops.stay_iff) s

theorem testBit_cons_zero (b : Bool) : ((if b then 1 else 0) + 2 * n).testBit 0 = b := by
  cases b <;> simp [Nat.testBit_zero]

theorem testBit_cons_succ (b : Bool) :
    ((if b then 1 else 0) + 2 * n).testBit (i + 1) = n.testBit i := by
  have hhalf : ((if b then 1 else 0) + 2 * n) / 2 = n := by
    split <;> omega
  rw [Nat.testBit_succ, hhalf]

theorem testBit_placesOf (s : Unicode.CharSet) (text : List Char) :
    (placesOf s text).testBit i = true ↔ ∃ c, text[i]? = some c ∧ s.contains c = true := by
  induction text generalizing i with
  | nil => simp [placesOf]
  | cons c cs ih =>
    rw [placesOf]
    cases i with
    | zero =>
      simp only [testBit_cons_zero, List.getElem?_cons_zero, Option.some.injEq, exists_eq_left']
    | succ i => simp only [testBit_cons_succ, ih, List.getElem?_cons_succ]

def charBefore (first : Option Char) (text : List Char) : Nat → Option Char
  | 0 => first
  | i + 1 => text[i]?

theorem testBit_placesWhere (p : Option Char → Option Char → Bool) (first : Option Char)
    (text : List Char) : (placesWhere p first text).testBit i = true ↔
      i ≤ text.length ∧ p (charBefore first text i) text[i]? = true := by
  induction text generalizing i first with
  | nil =>
    rw [placesWhere]
    cases i with
    | zero => cases hp : p first none <;> simp [charBefore, hp]
    | succ i =>
      have hnone : (if p first none then 1 else 0 : Nat).testBit (i + 1) = false := by
        simpa using testBit_cons_succ (n := 0) (i := i) (p first none)
      simp [hnone]
  | cons c cs ih =>
    rw [placesWhere]
    cases i with
    | zero =>
      simp only [testBit_cons_zero, charBefore, List.getElem?_cons_zero, Nat.zero_le, true_and]
    | succ i =>
      have hbefore : charBefore (some c) cs i = charBefore first (c :: cs) (i + 1) := by
        cases i <;> rfl
      simp only [testBit_cons_succ, ih, hbefore, List.length_cons, Nat.add_le_add_iff_right,
        List.getElem?_cons_succ]

namespace Regex

/-- The expression matches the characters of the text from position `i` up to position `j`. -/
def Spans (text : List Char) : Regex → Nat → Nat → Prop
  | empty, i, j => i = j
  | chars s, i, j => (∃ c, text[i]? = some c ∧ s.contains c = true) ∧ j = i + 1
  | look l, i, j =>
    (i ≤ text.length ∧ l.holds l.words (charBefore none text i) text[i]? = true) ∧ i = j
  | group _ a, i, j => a.Spans text i j
  | seq a b, i, j => ∃ m, a.Spans text i m ∧ b.Spans text m j
  | alt a b, i, j => a.Spans text i j ∨ b.Spans text i j
  | repeated min max _ a, i, j => ∃ k, (min ≤ k ∧ ∀ m ∈ max, k ≤ m) ∧ Hops (a.Spans text) k i j

def Ordered : Regex → Prop
  | group _ a => a.Ordered
  | seq a b | alt a b => a.Ordered ∧ b.Ordered
  | repeated min max _ a => (∀ m ∈ max, min ≤ m) ∧ a.Ordered
  | _ => True

variable {text : List Char}

theorem forward_spans (r : Regex) : Forward text.length (r.Spans text) := by
  induction r with
  | empty => exact fun i j h => .inl h
  | chars s =>
    intro i j ⟨⟨c, hc, _⟩, hj⟩
    have hi : i < text.length := (List.getElem?_eq_some_iff.1 hc).1
    omega
  | look l => exact fun i j h => .inl h.2
  | group _ a ih => exact ih
  | seq a b iha ihb =>
    intro i j ⟨m, ha, hb⟩
    have hfirst := iha i m ha
    have hlast := ihb m j hb
    omega
  | alt a b iha ihb =>
    intro i j h
    obtain h | h := h
    · exact iha i j h
    · exact ihb i j h
  | repeated min max _ a ih =>
    intro i j ⟨k, _, h⟩
    exact ih.hops k i j h

theorem eq_of_isNullOnly {r : Regex} (hr : r.isNullOnly = true) (h : r.Spans text i j) :
    i = j := by
  induction r generalizing i j with
  | empty => exact h
  | chars s => cases hr
  | look l => exact h.2
  | group _ a ih => exact ih hr h
  | seq a b iha ihb =>
    obtain ⟨ha, hb⟩ := Bool.and_eq_true_iff.1 hr
    obtain ⟨m, h₁, h₂⟩ := h
    exact (iha ha h₁).trans (ihb hb h₂)
  | alt a b iha ihb =>
    obtain ⟨ha, hb⟩ := Bool.and_eq_true_iff.1 hr
    obtain h | h := h
    · exact iha ha h
    · exact ihb hb h
  | repeated min max _ a ih =>
    obtain ⟨k, ⟨_, hmax⟩, h⟩ := h
    obtain hzero | ha := Bool.or_eq_true_iff.1 hr
    · obtain rfl : k = 0 := Nat.le_zero.1 (hmax 0 (eq_of_beq hzero))
      exact h
    · exact ((Hops.iff_of_stay fun _ _ => ih ha).1 h).1

theorem follows_repeated {p : Plan} {min : Nat} {max : Option Nat}
    (hp : Follows (p.run n) R) (hR : Forward n R) (hmax : ∀ m ∈ max, min ≤ m) :
    Follows ((Plan.repeated min max p).run n)
      (fun i j => ∃ k, (min ≤ k ∧ ∀ m ∈ max, k ≤ m) ∧ Hops R k i j) := by
  have hrun : ∀ fuel, Follows (fun s => saturate (p.run n) fuel (iterate (p.run n) min s))
      (fun i j => ∃ m ≤ fuel, Hops R (min + m) i j) := by
    intro fuel
    refine ((hp.iterate min).comp (hp.saturate fuel)).mono fun i j => ?_
    simp only [Hops.add_iff]
    constructor
    · intro ⟨x, hx, m, hm, h⟩
      exact ⟨m, hm, x, hx, h⟩
    · intro ⟨m, hm, x, hx, h⟩
      exact ⟨x, hx, m, hm, h⟩
  cases max with
  | some b =>
    refine (hrun (b - min)).mono fun i j => ?_
    have hb : min ≤ b := hmax b rfl
    constructor
    · intro ⟨m, hm, h⟩
      refine ⟨min + m, ⟨by omega, ?_⟩, h⟩
      intro c hc
      cases hc
      omega
    · intro ⟨k, ⟨hmin, hk⟩, h⟩
      have hkb : k ≤ b := hk b rfl
      refine ⟨k - min, by omega, ?_⟩
      rwa [Nat.add_sub_cancel' hmin]
  | none =>
    refine (hrun (n + 1)).mono fun i j => ?_
    constructor
    · intro ⟨m, _, h⟩
      exact ⟨min + m, ⟨by omega, by simp⟩, h⟩
    · intro ⟨k, ⟨hmin, _⟩, h⟩
      rw [← Nat.add_sub_cancel' hmin] at h
      obtain ⟨x, hx, h⟩ := Hops.add_iff.1 h
      obtain ⟨m, hm, h⟩ := hR.exists_hops_le h
      exact ⟨m, by omega, Hops.add_iff.2 ⟨x, hx, h⟩⟩

/-- Of steps that all stay, at most one is needed. -/
theorem clamped_hops_iff {min : Nat} {max : Option Nat} (hstay : ∀ i j, R i j → i = j)
    (hle : ∀ m ∈ max, min ≤ m) :
    (∃ k, (Nat.min min 1 ≤ k ∧ ∀ m ∈ max.map (Nat.min · 1), k ≤ m) ∧ Hops R k i j) ↔
      ∃ k, (min ≤ k ∧ ∀ m ∈ max, k ≤ m) ∧ Hops R k i j := by
  simp only [Hops.iff_of_stay hstay]
  constructor
  · intro ⟨k, ⟨hmin, hmax⟩, hij, h⟩
    -- as often as asked for, and at least once if the clamped count is one
    refine ⟨Nat.max min k, ⟨Nat.le_max_left .., ?_⟩, hij, fun hpos => h ?_⟩
    · intro b hb
      have hk : k ≤ Nat.min b 1 := hmax _ (Option.mem_map_of_mem _ hb)
      exact Nat.max_le.2 ⟨hle b hb, hk.trans (Nat.min_le_left ..)⟩
    · obtain hk | hk := Nat.eq_zero_or_pos k
      · have hone : 1 ≤ Nat.min min 1 := by
          rw [hk] at hpos
          exact Nat.le_min.2 ⟨Nat.succ_le_of_lt (by simpa using hpos), le_refl 1⟩
        exact hone.trans hmin
      · exact hk
  · intro ⟨k, ⟨hmin, hmax⟩, hij, h⟩
    refine ⟨Nat.min k 1, ⟨?_, ?_⟩, hij, fun hpos => h (hpos.trans_le (Nat.min_le_left ..))⟩
    · exact Nat.le_min.2 ⟨(Nat.min_le_left ..).trans hmin, Nat.min_le_right ..⟩
    · intro m hm
      obtain ⟨b, hb, rfl⟩ := Option.mem_map.1 hm
      exact Nat.le_min.2 ⟨(Nat.min_le_left ..).trans (hmax b hb), Nat.min_le_right ..⟩

theorem follows_run (r : Regex) (hr : r.Ordered) :
    Follows ((r.plan text).run text.length) (r.Spans text) := by
  induction r with
  | empty => exact Follows.stay
  | chars s =>
    intro t j
    simp only [plan, Plan.run, Spans, Nat.testBit_shiftLeft, Nat.testBit_and, Bool.and_eq_true,
      testBit_placesOf, decide_eq_true_iff]
    constructor
    · intro ⟨hj, ht, hc⟩
      exact ⟨j - 1, ht, hc, by omega⟩
    · intro ⟨i, ht, hc, hj⟩
      subst hj
      exact ⟨by omega, ht, hc⟩
  | look l =>
    intro t j
    simp only [plan, Plan.run, Spans, Nat.testBit_and, Bool.and_eq_true, testBit_placesWhere]
    constructor
    · intro ⟨ht, hl⟩
      exact ⟨j, ht, hl, rfl⟩
    · intro ⟨i, ht, hl, hj⟩
      subst hj
      exact ⟨ht, hl⟩
  | group _ a ih => exact ih hr
  | seq a b iha ihb => exact (iha hr.1).comp (ihb hr.2)
  | alt a b iha ihb => exact (iha hr.1).union (ihb hr.2)
  | repeated min max _ a ih =>
    have hfollows := ih hr.2
    rw [plan]
    split
    case isFalse => exact follows_repeated hfollows (forward_spans a) hr.1
    case isTrue hnull =>
      have hclamped : ∀ m ∈ max.map (Nat.min · 1), Nat.min min 1 ≤ m := by
        intro m hm
        obtain ⟨b, hb, rfl⟩ := Option.mem_map.1 hm
        have hle := hr.1 b hb
        exact Nat.le_min.2 ⟨(Nat.min_le_left ..).trans hle, Nat.min_le_right ..⟩
      exact (follows_repeated hfollows (forward_spans a) hclamped).mono fun i j =>
        clamped_hops_iff (fun _ _ => eq_of_isNullOnly hnull) hr.1

theorem found_iff {r : Regex} (hr : r.Ordered) :
    r.found text = true ↔ ∃ i j, i ≤ text.length ∧ r.Spans text i j := by
  have hbits : r.found text = true ↔ ∃ j,
      ((r.plan text).run text.length (2 ^ (text.length + 1) - 1)).testBit j = true := by
    rw [found, bne_iff_ne]
    constructor
    · exact Nat.exists_testBit_of_ne_zero
    · intro ⟨j, hj⟩ hzero
      change ((r.plan text).run text.length (2 ^ (text.length + 1) - 1)) = 0 at hzero
      rw [hzero] at hj
      simp at hj
  rw [hbits]
  simp only [follows_run r hr _, Nat.testBit_two_pow_sub_one, decide_eq_true_iff, Nat.lt_succ_iff]
  exact exists_comm

theorem found_whole_iff {r : Regex} (hr : r.Ordered) :
    (seq (look .textStart) (seq (group false r) (look .textEnd))).found text = true ↔
      r.Spans text 0 text.length := by
  have hwhole : (seq (look .textStart) (seq (group false r) (look .textEnd))).Ordered :=
    ⟨trivial, hr, trivial⟩
  rw [found_iff hwhole]
  simp only [Spans, Look.holds, Option.isNone_iff_eq_none]
  constructor
  · intro ⟨i, j, _, m, ⟨⟨hi, hfirst⟩, him⟩, x, h, ⟨hx, hlast⟩, _⟩
    have hend : text.length ≤ x := List.getElem?_eq_none_iff.1 hlast
    have hstart : i = 0 := by
      cases i with
      | zero => rfl
      | succ i =>
        have hle : text.length ≤ i := List.getElem?_eq_none_iff.1 hfirst
        omega
    obtain rfl : x = text.length := by omega
    rwa [← him, hstart] at h
  · intro h
    refine ⟨0, text.length, Nat.zero_le _, 0, ⟨⟨Nat.zero_le _, rfl⟩, rfl⟩, text.length, h, ?_⟩
    exact ⟨⟨le_refl _, List.getElem?_eq_none_iff.2 (le_refl _)⟩, rfl⟩

end Regex

end StubHttp.Pattern
