import Mathlib.Data.List.DropRight
import StubHttp.Text.Search

/-!
# What is found and where a text is cut

Finding a text is the infix relation, and splitting is the library's `List.splitOn`. A text without a
separator is found on one side of it or on the other.
-/
namespace StubHttp.Text

variable {sep : Char} {needle a b cs : List Char}

theorem occurs_iff : occurs needle cs = true ↔ needle <:+: cs := by
  induction cs with
  | nil => rw [occurs, List.isEmpty_iff, List.infix_nil]
  | cons c cs ih => rw [occurs, Bool.or_eq_true, List.isPrefixOf_iff_prefix, ih, List.infix_cons_iff]

theorem prefix_append_cons_iff (h : sep ∉ needle) : needle <+: a ++ sep :: b ↔ needle <+: a := by
  constructor
  · intro hp
    induction a generalizing needle with
    | nil =>
      cases needle with
      | nil => exact List.prefix_refl []
      | cons c needle =>
        obtain ⟨rfl, -⟩ := List.cons_prefix_cons.1 hp
        exact absurd List.mem_cons_self h
    | cons d a ih =>
      cases needle with
      | nil => exact List.nil_prefix
      | cons c needle =>
        obtain ⟨rfl, hrest⟩ := List.cons_prefix_cons.1 hp
        have hneedle : sep ∉ needle := fun hs => h (List.mem_cons_of_mem _ hs)
        exact List.cons_prefix_cons.2 ⟨rfl, ih hneedle hrest⟩
  · intro hp
    exact hp.trans (List.prefix_append a _)

theorem isPrefixOf_append_of_isPrefixOf (h : needle.isPrefixOf a = true) :
    needle.isPrefixOf (a ++ b) = true :=
  List.isPrefixOf_iff_prefix.2 ((List.isPrefixOf_iff_prefix.1 h).trans (List.prefix_append a b))

theorem isPrefixOf_append_eq_false (h : needle.isPrefixOf a = false)
    (h' : a.isPrefixOf needle = false) : needle.isPrefixOf (a ++ b) = false := by
  rw [Bool.eq_false_iff, Ne, List.isPrefixOf_iff_prefix] at *
  intro hb
  rcases List.prefix_or_prefix_of_prefix hb (List.prefix_append a b) with hp | hp
  · exact h hp
  · exact h' hp

theorem infix_append_cons_iff (h : sep ∉ needle) :
    needle <:+: a ++ sep :: b ↔ needle <:+: a ∨ needle <:+: b := by
  induction a with
  | nil =>
    have hprefix : needle <+: sep :: b ↔ needle <+: [] := prefix_append_cons_iff (a := []) h
    rw [List.nil_append, List.infix_cons_iff, hprefix, List.prefix_nil, List.infix_nil]
  | cons c a ih =>
    have hprefix : needle <+: c :: (a ++ sep :: b) ↔ needle <+: c :: a :=
      prefix_append_cons_iff (a := c :: a) h
    rw [List.cons_append, List.infix_cons_iff, hprefix, ih, List.infix_cons_iff, or_assoc]

theorem split_eq_splitOn (sep : Char) (cs : List Char) : split sep cs = cs.splitOn sep := by
  induction cs with
  | nil => rfl
  | cons c cs ih =>
    have hne := List.splitOn_ne_nil sep cs
    rw [split, ih, List.splitOn_cons_eq_if_modifyHead]
    cases hs : cs.splitOn sep with
    | nil => exact absurd hs hne
    | cons s ss => simp only [List.modifyHead_cons, beq_iff_eq]

theorem split_append_cons (sep : Char) (a b : List Char) :
    split sep (a ++ sep :: b) = split sep a ++ split sep b := by
  rw [split_eq_splitOn, split_eq_splitOn, split_eq_splitOn, List.splitOn_append_cons_self]

theorem split_of_not_mem (h : sep ∉ a) : split sep a = [a] := by
  rw [split_eq_splitOn, List.splitOn_eq_singleton h]

theorem not_mem_of_mem_split (h : a ∈ split sep cs) : sep ∉ a := by
  induction cs generalizing a with
  | nil =>
    rw [split, List.mem_singleton] at h
    rw [h]
    exact List.not_mem_nil
  | cons c cs ih =>
    rw [split] at h
    split at h
    case h_1 hs => exact absurd hs (split_ne_nil sep cs)
    case h_2 s ss hs =>
      rw [hs] at ih
      split at h
      case isTrue =>
        rcases List.mem_cons.1 h with rfl | h
        · exact List.not_mem_nil
        · exact ih h
      case isFalse hc =>
        rcases List.mem_cons.1 h with rfl | h
        · intro hmem
          rcases List.mem_cons.1 hmem with rfl | hmem
          · exact hc rfl
          · exact ih List.mem_cons_self hmem
        · exact ih (List.mem_cons_of_mem _ h)

theorem split_eq_cons_iff {l : List (List Char)} (hl : l ≠ []) :
    split sep cs = a :: l ↔ sep ∉ a ∧ ∃ rest, cs = a ++ sep :: rest ∧ split sep rest = l := by
  constructor
  · intro h
    have hfree : ∀ t ∈ a :: l, sep ∉ t := fun t ht => not_mem_of_mem_split (h ▸ ht)
    have hcs : [sep].intercalate (a :: l) = cs := by
      rw [← h, split_eq_splitOn, List.intercalate_splitOn]
    rw [List.intercalate_cons_of_ne_nil hl, List.append_assoc, List.singleton_append] at hcs
    refine ⟨hfree a List.mem_cons_self, [sep].intercalate l, hcs.symm, ?_⟩
    rw [split_eq_splitOn,
      List.splitOn_intercalate sep (fun t ht => hfree t (List.mem_cons_of_mem _ ht)) hl]
  · rintro ⟨ha, rest, rfl, hrest⟩
    rw [split_append_cons, split_of_not_mem ha, hrest, List.singleton_append]

theorem intercalate_cons_replicate_nil (sep : Char) (a : List Char) (n : Nat) :
    [sep].intercalate (a :: List.replicate n []) = a ++ List.replicate n sep := by
  induction n generalizing a with
  | zero => rw [List.replicate_zero, List.intercalate_singleton, List.replicate_zero, List.append_nil]
  | succ n ih =>
    rw [List.replicate_succ, List.intercalate_cons_cons, ih, List.replicate_succ, List.nil_append,
      List.append_assoc, List.singleton_append]

theorem split_eq_cons_replicate_iff {n : Nat} :
    split sep cs = a :: List.replicate n [] ↔ sep ∉ a ∧ cs = a ++ List.replicate n sep := by
  rw [← intercalate_cons_replicate_nil]
  constructor
  · intro h
    have ha : a ∈ split sep cs := h ▸ List.mem_cons_self
    rw [← h, split_eq_splitOn, List.intercalate_splitOn]
    exact ⟨not_mem_of_mem_split ha, rfl⟩
  · rintro ⟨ha, rfl⟩
    rw [split_eq_splitOn]
    refine List.splitOn_intercalate sep ?_ (List.cons_ne_nil _ _)
    intro l hl
    rcases List.mem_cons.1 hl with rfl | hl
    · exact ha
    · rw [List.eq_of_mem_replicate hl]
      exact List.not_mem_nil

theorem rdropWhile_isEmpty_eq_concat_iff {l ss : List (List Char)} {s : List Char} :
    l.rdropWhile (·.isEmpty) = ss ++ [s] ↔ s ≠ [] ∧ ∃ n, l = ss ++ s :: List.replicate n [] := by
  constructor
  · intro h
    have hne : l.rdropWhile (·.isEmpty) ≠ [] := by
      rw [h]
      exact List.concat_ne_nil s ss
    have hlast := List.rdropWhile_last_not (·.isEmpty) l hne
    simp only [h, List.getLast_append_singleton, List.isEmpty_iff] at hlast
    have hempty : ∀ t ∈ l.rtakeWhile (·.isEmpty), t = [] := by
      intro t ht
      exact List.isEmpty_iff.1 (List.mem_rtakeWhile_imp ht)
    refine ⟨hlast, (l.rtakeWhile (·.isEmpty)).length, ?_⟩
    rw [← List.eq_replicate_of_mem hempty, ← List.singleton_append, ← List.append_assoc, ← h,
      List.rdropWhile_append_rtakeWhile]
  · rintro ⟨hs, n, rfl⟩
    rw [← List.singleton_append, ← List.append_assoc]
    induction n with
    | zero =>
      rw [List.replicate_zero, List.append_nil]
      exact List.rdropWhile_concat_neg _ _ _ (by simpa using hs)
    | succ n ih =>
      rw [List.replicate_succ', ← List.append_assoc, List.rdropWhile_concat_pos _ _ _ rfl, ih]

theorem cut_of_not_mem (h : sep ∉ cs) : cut sep cs = (cs, none) := by
  induction cs with
  | nil => rfl
  | cons c cs ih =>
    rw [List.mem_cons, not_or] at h
    rw [cut, if_neg (Ne.symm h.1), ih h.2]

theorem cut_append_cons (b : List Char) (h : sep ∉ a) : cut sep (a ++ sep :: b) = (a, some b) := by
  induction a with
  | nil => rw [List.nil_append, cut, if_pos rfl]
  | cons c a ih =>
    rw [List.mem_cons, not_or] at h
    rw [List.cons_append, cut, if_neg (Ne.symm h.1), ih h.2]

def led (sep : Char) (part : Option String) : List Char := part.elim [] fun s => sep :: s.toList

theorem not_mem_led {c : Char} {part : Option String} (hc : c ≠ sep)
    (h : ∀ s ∈ part, c ∉ s.toList) : c ∉ led sep part := by
  cases part with
  | none => exact List.not_mem_nil
  | some s => exact List.not_mem_cons_of_ne_of_not_mem hc (h s rfl)

theorem cut_append_led (h : sep ∉ a) (part : Option String) :
    cut sep (a ++ led sep part) = (a, part.map String.toList) := by
  cases part with
  | none => rw [led, Option.elim_none, List.append_nil, cut_of_not_mem h, Option.map_none]
  | some s => rw [led, Option.elim_some, cut_append_cons _ h, Option.map_some]

theorem append_cons_inj {a' b' : List Char} (h : sep ∉ a) (h' : sep ∉ a') :
    a ++ sep :: b = a' ++ sep :: b' ↔ a = a' ∧ b = b' := by
  constructor
  · intro heq
    have hcut := congrArg (cut sep) heq
    rw [cut_append_cons b h, cut_append_cons b' h', Prod.mk.injEq, Option.some.injEq] at hcut
    exact hcut
  · rintro ⟨rfl, rfl⟩
    rfl

theorem not_mem_afterLast (sep : Char) (cs : List Char) : sep ∉ afterLast sep cs := by
  intro h
  rw [afterLast] at h
  split at h
  · have hne := List.mem_takeWhile_imp (List.mem_reverse.1 h)
    simp at hne
  · exact List.not_mem_nil h

theorem afterLast_append_cons (a : List Char) (h : sep ∉ b) : afterLast sep (a ++ sep :: b) = b := by
  have hmem : sep ∈ a ++ sep :: b := by simp
  have hb : ∀ c ∈ b.reverse, decide (c ≠ sep) = true := by
    intro c hc
    have hne : c ≠ sep := by
      rintro rfl
      exact h (List.mem_reverse.1 hc)
    exact decide_eq_true hne
  rw [afterLast, if_pos hmem, List.reverse_append, List.reverse_cons, List.append_assoc,
    List.takeWhile_append_of_pos hb, List.singleton_append, List.takeWhile_cons_of_neg (by simp),
    List.append_nil, List.reverse_reverse]

theorem afterLast_of_not_mem (h : sep ∉ cs) : afterLast sep cs = [] := if_neg h

theorem exists_append_afterLast (h : sep ∈ cs) : ∃ x, cs = x ++ sep :: afterLast sep cs := by
  obtain ⟨y, x, hcs, hy⟩ := List.eq_append_cons_of_mem (List.mem_reverse.2 h)
  have hcut : cs = x.reverse ++ sep :: y.reverse := by
    have hrev := congrArg List.reverse hcs
    simpa using hrev
  refine ⟨x.reverse, ?_⟩
  rw [hcut, afterLast_append_cons _ (by simpa using hy)]

theorem cut_append_of_not_mem (b : List Char) (h : sep ∉ a) :
    cut sep (a ++ b) = (a ++ (cut sep b).1, (cut sep b).2) := by
  induction a with
  | nil => rfl
  | cons c a ih =>
    rw [List.mem_cons, not_or] at h
    rw [List.cons_append, cut, if_neg (Ne.symm h.1), ih h.2, List.cons_append]

theorem split_append_of_not_mem {ss : List (List Char)} (h : sep ∉ a) (hb : split sep b = cs :: ss) :
    split sep (a ++ b) = (a ++ cs) :: ss := by
  induction a with
  | nil => exact hb
  | cons c a ih =>
    rw [List.mem_cons, not_or] at h
    rw [List.cons_append, split, ih h.2]
    simp only [if_neg (Ne.symm h.1), List.cons_append]

theorem after?_eq_none_iff : after? needle cs = none ↔ ¬ needle <:+: cs := by
  induction cs with
  | nil => simp [after?]
  | cons c cs ih =>
    rw [after?, List.infix_cons_iff, ← List.isPrefixOf_iff_prefix]
    split
    case isTrue h => simp [h]
    case isFalse h => simp [h, ih]

theorem eq_append_of_after? {rest : List Char} (h : after? needle cs = some rest) :
    ∃ p, cs = p ++ needle ++ rest := by
  induction cs with
  | nil =>
    by_cases hempty : needle.isEmpty = true
    · rw [after?, if_pos hempty] at h
      obtain rfl : needle = [] := List.isEmpty_iff.1 hempty
      exact ⟨[], by rw [← Option.some.inj h]; rfl⟩
    · rw [after?, if_neg hempty] at h
      cases h
  | cons c cs ih =>
    rw [after?] at h
    split at h
    case isTrue hp =>
      obtain ⟨r, hr⟩ := List.isPrefixOf_iff_prefix.1 hp
      rw [← hr, List.drop_left] at h
      exact ⟨[], by rw [← hr, Option.some.inj h]; rfl⟩
    case isFalse =>
      obtain ⟨p, hcs⟩ := ih h
      exact ⟨c :: p, by rw [hcs]; rfl⟩

theorem after?_append_of_not_mem {c : Char} (b : List Char) (h : c ∉ a) :
    after? (c :: needle) (a ++ (c :: needle ++ b)) = some b := by
  induction a with
  | nil =>
    rw [List.nil_append, List.cons_append, after?, if_pos (by simp), List.length_cons,
      List.drop_succ_cons, List.drop_left]
  | cons d a ih =>
    rw [List.mem_cons, not_or] at h
    have hne : (c == d) = false := beq_false_of_ne h.1
    rw [List.cons_append, after?, List.isPrefixOf, hne, Bool.false_and, if_neg Bool.false_ne_true,
      ih h.2]

theorem forall_capital {P : Char → Prop} (hP : ∀ n < 26, P (Char.ofNat (n + 65))) {c : Char}
    (h : 'A' ≤ c ∧ c ≤ 'Z') : P c := by
  have hlow : 65 ≤ c.toNat := h.1
  have hhigh : c.toNat ≤ 90 := h.2
  have hc := hP (c.toNat - 65) (by omega)
  rwa [Nat.sub_add_cancel hlow, Char.ofNat_toNat] at hc

theorem lower_lower (c : Char) : lower (lower c) = lower c := by
  by_cases h : 'A' ≤ c ∧ c ≤ 'Z'
  · exact forall_capital (P := fun c => lower (lower c) = lower c) (by decide) h
  · have hc : lower c = c := if_neg h
    rw [hc, hc]

theorem lower_eq_toLower (c : Char) : lower c = c.toLower := by
  by_cases h : 'A' ≤ c ∧ c ≤ 'Z'
  · exact forall_capital (P := fun c => lower c = c.toLower) (by decide) h
  · have hc : ¬ (c.val ≥ 'A'.val ∧ c.val ≤ 'Z'.val) := h
    have htoLower : c.toLower = c := by
      delta Char.toLower
      exact dif_neg hc
    rw [lower, if_neg h, htoLower]

theorem lowerCase_lowerCase (s : String) : lowerCase (lowerCase s) = lowerCase s := by
  rw [lowerCase, lowerCase, String.toList_ofList, List.map_map]
  exact congrArg String.ofList (List.map_congr_left fun c _ => lower_lower c)

theorem sameIgnoringCase_iff {s t : String} :
    sameIgnoringCase s t = true ↔ lowerCase s = lowerCase t := by
  rw [sameIgnoringCase, beq_iff_eq, lowerCase, lowerCase, String.ofList_inj]

theorem sameIgnoringCase_iff_toLower {s t : String} :
    sameIgnoringCase s t = true ↔ s.toLower = t.toLower := by
  rw [sameIgnoringCase, beq_iff_eq, funext lower_eq_toLower, ← String.toList_map, ← String.toList_map,
    String.toList_inj]
  rfl

theorem sameIgnoringCase_eq_decide (s t : String) :
    sameIgnoringCase s t = decide (lowerCase s = lowerCase t) := by
  rw [Bool.eq_iff_iff, sameIgnoringCase_iff, decide_eq_true_iff]

end StubHttp.Text
