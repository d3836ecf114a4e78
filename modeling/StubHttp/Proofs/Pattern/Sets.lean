import Mathlib.Tactic.SplitIfs
import StubHttp.Pattern.Meaning
import StubHttp.Proofs.Except

/-!
# Sets and their complements

Ranges in any order make a set with the same characters, in ranges that neither overlap nor touch. So the
complement of a set, which is read off the gaps, has the characters that the set leaves out, and a class in
a pattern and the same class negated share out all characters.
-/
namespace StubHttp.Unicode.CharSet

def Within (rs : List (Nat × Nat)) (c : Nat) : Prop := ∃ r ∈ rs, r.1 ≤ c ∧ c ≤ r.2

def Separated (rs : List (Nat × Nat)) : Prop :=
  (∀ r ∈ rs, r.1 ≤ r.2) ∧ rs.Pairwise fun a b => a.2 + 1 < b.1

variable {s t : CharSet} {r : Nat × Nat} {rs : List (Nat × Nat)} {c next : Nat}

theorem mem_iff : s.mem c = true ↔ Within s.ranges c := by
  simp [mem, Within]

@[simp]
theorem within_cons : Within (r :: rs) c ↔ (r.1 ≤ c ∧ c ≤ r.2) ∨ Within rs c := by
  simp [Within]

@[simp]
theorem not_within_nil : ¬ Within [] c := by
  simp [Within]

theorem within_insert (hr : r.1 ≤ r.2) (hrs : ∀ q ∈ rs, q.1 ≤ q.2) :
    Within (insert r rs) c ↔ Within (r :: rs) c := by
  induction rs generalizing r with
  | nil => rfl
  | cons q qs ih =>
    obtain ⟨hq, hqs⟩ := List.forall_mem_cons.1 hrs
    rw [insert]
    split_ifs with hbefore hbehind
    · rfl
    · rw [within_cons, ih hr hqs, within_cons, within_cons, within_cons]
      exact or_left_comm
    · rw [ih (r := (min r.1 q.1, max r.2 q.2)) (by simp only; omega) hqs]
      simp only [within_cons, ← or_assoc]
      exact or_congr_left (by omega)

theorem separated_insert (hr : r.1 ≤ r.2) (hrs : Separated rs) : Separated (insert r rs) ∧
    ∀ b, b < r.1 → (∀ q ∈ rs, b < q.1) → ∀ q ∈ insert r rs, b < q.1 := by
  induction rs generalizing r with
  | nil => exact ⟨⟨by simpa [insert] using hr, by simp [insert]⟩, by simp [insert]⟩
  | cons q qs ih =>
    obtain ⟨hq, hqs⟩ := List.forall_mem_cons.1 hrs.1
    obtain ⟨hgap, hpairs⟩ := List.pairwise_cons.1 hrs.2
    rw [insert]
    split_ifs with hbefore hbehind
    · refine ⟨⟨List.forall_mem_cons.2 ⟨hr, hrs.1⟩, List.pairwise_cons.2 ⟨?_, hrs.2⟩⟩,
        fun b hb hall => List.forall_mem_cons.2 ⟨hb, hall⟩⟩
      refine List.forall_mem_cons.2 ⟨hbefore, fun x hx => ?_⟩
      have := hgap x hx
      omega
    · obtain ⟨⟨hvalid, hrest⟩, hfrom⟩ := ih hr ⟨hqs, hpairs⟩
      refine ⟨⟨List.forall_mem_cons.2 ⟨hq, hvalid⟩, List.pairwise_cons.2 ⟨?_, hrest⟩⟩, ?_⟩
      · exact hfrom _ hbehind hgap
      · intro b hb hall
        obtain ⟨hbq, hall⟩ := List.forall_mem_cons.1 hall
        exact List.forall_mem_cons.2 ⟨hbq, hfrom b hb hall⟩
    · obtain ⟨hseparated, hfrom⟩ :=
        ih (r := (min r.1 q.1, max r.2 q.2)) (by simp only; omega) ⟨hqs, hpairs⟩
      refine ⟨hseparated, fun b hb hall => ?_⟩
      obtain ⟨hbq, hall⟩ := List.forall_mem_cons.1 hall
      exact hfrom b (Nat.lt_min.2 ⟨hb, hbq⟩) hall

theorem ranges_ofRanges_cons (hr : r.1 ≤ r.2) :
    (ofRanges (r :: rs)).ranges = insert r (ofRanges rs).ranges := by
  simp [ofRanges, hr]

theorem ofRanges_cons_of_not_le (hr : ¬ r.1 ≤ r.2) : ofRanges (r :: rs) = ofRanges rs := by
  simp [ofRanges, hr]

theorem separated_ofRanges (rs : List (Nat × Nat)) : Separated (ofRanges rs).ranges := by
  induction rs with
  | nil => exact ⟨by simp [ofRanges], by simp [ofRanges]⟩
  | cons r rs ih =>
    by_cases hr : r.1 ≤ r.2
    · rw [ranges_ofRanges_cons hr]
      exact (separated_insert hr ih).1
    · rwa [ofRanges_cons_of_not_le hr]

theorem within_ofRanges : Within (ofRanges rs).ranges c ↔ Within rs c := by
  induction rs with
  | nil => rfl
  | cons r rs ih =>
    by_cases hr : r.1 ≤ r.2
    · rw [ranges_ofRanges_cons hr, within_insert hr (separated_ofRanges rs).1, within_cons, ih,
        within_cons]
    · have hempty : ¬ (r.1 ≤ c ∧ c ≤ r.2) := fun h => hr (Nat.le_trans h.1 h.2)
      rw [ofRanges_cons_of_not_le hr, ih, within_cons, or_iff_right hempty]

theorem mem_ofRanges : (ofRanges rs).mem c = true ↔ Within rs c := by
  rw [mem_iff, within_ofRanges]

theorem mem_union : (s.union t).mem c = true ↔ s.mem c = true ∨ t.mem c = true := by
  rw [union, mem_ofRanges, mem_iff, mem_iff]
  simp only [Within, List.mem_append, or_and_right, exists_or]

theorem mem_range {a b : Nat} : (range a b).mem c = true ↔ a ≤ c ∧ c ≤ b := by
  simp [range, mem_ofRanges]

theorem within_gaps (hrs : Separated rs) (hnext : ∀ r ∈ rs, next < r.1) (hmax : c ≤ 0x10FFFF) :
    Within (gaps next rs) c ↔ next ≤ c ∧ ¬ Within rs c := by
  induction rs generalizing next with
  | nil => simp [gaps, hmax]
  | cons r rs ih =>
    obtain ⟨hvalid, hpairs⟩ := hrs
    obtain ⟨hr, hvalid⟩ := List.forall_mem_cons.1 hvalid
    obtain ⟨hgap, hpairs⟩ := List.pairwise_cons.1 hpairs
    have hfirst : next < r.1 := hnext r List.mem_cons_self
    have hlater : Within rs c → r.2 + 1 < c := fun ⟨q, hq, hc⟩ =>
      Nat.lt_of_lt_of_le (hgap q hq) hc.1
    rw [gaps, within_cons, ih ⟨hvalid, hpairs⟩ fun q hq => hgap q hq, within_cons]
    by_cases hc : Within rs c
    · have hbehind := hlater hc
      simp only [hc, not_true_eq_false, and_false, or_false, or_true, iff_false]
      omega
    · simp only [hc, not_false_eq_true, and_true, or_false]
      omega

theorem mem_compl (hmax : c ≤ 0x10FFFF) : s.compl.mem c = true ↔
    ¬ (0xD800 ≤ c ∧ c ≤ 0xDFFF) ∧ ¬ s.mem c = true := by
  have htaken : Separated (s.union (range 0xD800 0xDFFF)).ranges := separated_ofRanges _
  have hwithin : Within (s.union (range 0xD800 0xDFFF)).ranges c ↔
      s.mem c = true ∨ 0xD800 ≤ c ∧ c ≤ 0xDFFF := by rw [← mem_iff, mem_union, mem_range]
  have hout : ¬ Within (s.union (range 0xD800 0xDFFF)).ranges c ↔
      ¬ (0xD800 ≤ c ∧ c ≤ 0xDFFF) ∧ ¬ s.mem c = true := by rw [hwithin, not_or, and_comm]
  rw [compl, ← hout]
  split
  case h_1 b rs hrs =>
    rw [hrs] at htaken ⊢
    obtain ⟨hgap, hpairs⟩ := List.pairwise_cons.1 htaken.2
    have hvalid := (List.forall_mem_cons.1 htaken.1).2
    rw [mem_ofRanges, within_gaps ⟨hvalid, hpairs⟩ hgap hmax, within_cons]
    simp only [not_or]
    exact and_congr_left fun _ => by omega
  case h_2 rs hfirst =>
    have hnext : ∀ r ∈ (s.union (range 0xD800 0xDFFF)).ranges, 0 < r.1 := by
      cases hrs : (s.union (range 0xD800 0xDFFF)).ranges with
      | nil => simp
      | cons q qs =>
        rw [hrs] at htaken
        have hq : q.1 ≠ 0 := fun h => hfirst q.2 qs (by rw [hrs, ← h])
        refine List.forall_mem_cons.2 ⟨Nat.pos_of_ne_zero hq, fun r hr => ?_⟩
        exact Nat.lt_of_le_of_lt (Nat.zero_le _) ((List.pairwise_cons.1 htaken.2).1 r hr)
    rw [mem_ofRanges, within_gaps htaken hnext hmax]
    simp

theorem toNat_le (c : Char) : c.toNat ≤ 0x10FFFF ∧ ¬ (0xD800 ≤ c.toNat ∧ c.toNat ≤ 0xDFFF) := by
  have hvalid := c.valid
  simp only [UInt32.isValidChar, Nat.isValidChar] at hvalid
  change (c.toNat < 0xD800 ∨ 0xDFFF < c.toNat ∧ c.toNat < 0x110000) at hvalid
  omega

section

variable {c : Char}

@[simp]
theorem contains_union : (s.union t).contains c = (s.contains c || t.contains c) := by
  rw [Bool.eq_iff_iff, Bool.or_eq_true]
  exact mem_union

@[simp]
theorem contains_compl : s.compl.contains c = !s.contains c := by
  obtain ⟨hmax, hsurrogate⟩ := toNat_le c
  rw [Bool.eq_iff_iff, Bool.not_eq_true', ← Bool.not_eq_true]
  exact (mem_compl hmax).trans (and_iff_right hsurrogate)

@[simp]
theorem contains_inter : (s.inter t).contains c = (s.contains c && t.contains c) := by
  simp [inter]

@[simp]
theorem contains_diff : (s.diff t).contains c = (s.contains c && !t.contains c) := by
  simp [diff]

@[simp]
theorem contains_symmDiff : (s.symmDiff t).contains c = (s.contains c ^^ t.contains c) := by
  rw [symmDiff, contains_diff, contains_union, contains_inter]
  cases s.contains c <;> cases t.contains c <;> rfl

end

end StubHttp.Unicode.CharSet

namespace StubHttp.Pattern

open Unicode (CharSet)

variable {f : Flags} {e e' : SetExpr} {s t : CharSet} {c : Char}

def SetExpr.opposite? : SetExpr → Option SetExpr
  | .posix name negated => some (.posix name !negated)
  | .shorthand k negated => some (.shorthand k !negated)
  | .named n negated => some (.named n !negated)
  | .bracket negated s => some (.bracket (!negated) s)
  | .empty | .char _ | .range _ _ | .union _ _ | .op _ _ _ => none

theorem Flags.contains_of_negate {negated : Bool} {u : CharSet} (h : f.negate negated u = .ok s) :
    s.contains c = (u.contains c ^^ negated) := by
  rw [negate] at h
  split_ifs at h with hnegated
  · obtain rfl := Except.ok.inj h
    simp [hnegated]
  · obtain rfl := Except.ok.inj h
    simp [hnegated]

theorem SetExpr.negate_of_opposite (hopposite : e.opposite? = some e') (h : e.meaning f = .ok s)
    (h' : e'.meaning f = .ok t) : ∃ negated u,
      f.negate negated u = .ok s ∧ f.negate (!negated) u = .ok t := by
  cases e with
  | posix name negated =>
    cases hopposite
    exact ⟨negated, _, h, h'⟩
  | shorthand k negated =>
    cases hopposite
    exact ⟨negated, _, h, h'⟩
  | named n negated =>
    cases hopposite
    rw [meaning] at h h'
    split_ifs at h h' with hunicode
    cases hset : n.set? with
    | none => simp [hset] at h
    | some u => exact ⟨negated, f.fold u, by simpa [hset] using h, by simpa [hset] using h'⟩
  | bracket negated inner =>
    cases hopposite
    rw [meaning] at h h'
    obtain ⟨u, hu, h⟩ := bind_eq_ok h
    obtain ⟨u', hu', h'⟩ := bind_eq_ok h'
    obtain rfl := Except.ok.inj (hu.symm.trans hu')
    exact ⟨negated, f.fold u, h, h'⟩
  | empty => cases hopposite
  | char _ => cases hopposite
  | range _ _ => cases hopposite
  | union _ _ => cases hopposite
  | op _ _ _ => cases hopposite

/-- A character is in a class or in the class negated, whether case counts or not. -/
theorem SetExpr.contains_opposite (hopposite : e.opposite? = some e') (h : e.meaning f = .ok s)
    (h' : e'.meaning f = .ok t) : t.contains c = !s.contains c := by
  obtain ⟨negated, u, hs, ht⟩ := negate_of_opposite hopposite h h'
  rw [Flags.contains_of_negate hs, Flags.contains_of_negate ht]
  simp

end StubHttp.Pattern
