import Mathlib.Data.List.TakeWhile
import StubHttp.Proofs.Pattern.Local

/-!
# Escapes and bracketed sets are local

A word boundary with an opening brace behind it is the one reader that goes back: where a text ends
in such a brace it fails, and before a parenthesis it leaves the brace to be read as a repetition.
-/
namespace StubHttp.Pattern.Parser

variable {α β : Type} {m m' : Parser α} {f f' : α → Parser β} {c d e : Cursor}
  {u r : List Char} {calm : Prop} {lo hi j k p q n n' : Nat}

theorem dropWhile_before {t : Char → Bool} (ht : t ')' = false) :
    (r ++ ')' :: u).dropWhile t = r.dropWhile t ++ ')' :: u := by
  rw [List.dropWhile_append]
  cases h : r.dropWhile t with
  | nil => simp [ht]
  | cons x xs => simp

theorem local_trim : Local u calm lo hi 0 1
    (modify fun c => { c with rest := c.rest.dropWhile isBlank })
    (modify fun c => { c with rest := c.rest.dropWhile isBlank }) := by
  refine .change (fun c => List.dropWhile_suffix _) (fun _ => rfl) fun c => ?_
  have h : (c.rest ++ ')' :: u).dropWhile isBlank = c.rest.dropWhile isBlank ++ ')' :: u :=
    dropWhile_before (by decide)
  rw [Cursor.before, h]
  rfl

theorem local_decimal : Local u calm lo hi 0 1 decimal decimal := by
  refine .bind local_trim fun _ => .takeSkipping (fun ds => ?_) (fun h => absurd h (by decide))
  refine .bind local_trim fun _ => .bind local_skip fun _ => .ite (.pure none) ?_
  exact .ite (.pure _) .refuse

theorem local_foldlM {g : α → β → Parser α} (hg : ∀ a b, Local u calm 0 hi 0 1 (g a b) (g a b))
    (bs : List β) (a : α) : Local u calm lo hi 0 1 (bs.foldlM g a) (bs.foldlM g a) := by
  induction bs generalizing a lo with
  | nil => exact .pure a
  | cons b bs ih =>
    have hfirst : Local u calm lo hi 0 1 (g a b) (g a b) := (hg a b).of_short
    rw [List.foldlM_cons]
    exact hfirst.bind fun a => ih a

theorem local_charOfHex (cs : List Char) :
    Local u calm lo hi 0 1 (charOfHex cs) (charOfHex cs) := by
  refine .bind (local_foldlM (fun n c => ?_) cs 0) fun n => .ite (.pure _) .refuse
  split
  · exact .pure _
  · exact .refuse

theorem local_hexDigits (hk : k ≤ n) (hk' : k ≤ 1) :
    Local u calm lo hi k 1 (hexDigits n) (hexDigits n) := by
  induction n generalizing k lo hi with
  | zero =>
    obtain rfl := Nat.le_zero.1 hk
    exact .pure []
  | succ n ih =>
    refine .weaken (k := 1) (.peek fun c => .ite .refuse_bind ?_) hk'
    exact .bind local_bumpSkip fun _ => .bind (ih (Nat.zero_le _) (Nat.zero_le _)) fun _ => .pure _

theorem fails_peek {f : Char → Parser β} (hc : c.rest = []) :
    ∃ r, (peek >>= f).run c = .error r :=
  ⟨_, run_bind_of_error (run_peek_nil hc)⟩

theorem local_hexChar (letter : Char) : Local u calm lo hi 1 1 (hexChar letter) (hexChar letter) := by
  refine .bind local_skip fun _ => .peek fun a => .ite (.relax ?_) ?_
  · refine .bind local_bumpSkip fun _ => .takeSkipping (fun ds => ?_) fun _ _ _ => fails_peek
    refine .peek fun b => .ite .refuse_bind ?_
    exact .bind local_bumpSkip fun _ => .bind (local_charOfHex ds) fun _ => .pure _
  · have hdigits : 1 ≤ (if letter = 'x' then 2 else if letter = 'u' then 4 else 8) := by
      split
      · omega
      · split <;> omega
    exact .bind (local_hexDigits hdigits (le_refl 1)) fun ds =>
      .bind (local_charOfHex ds) fun _ => .pure _

theorem local_namedClass (negated : Bool) :
    Local u calm lo hi 1 1 (namedClass negated) (namedClass negated) := by
  refine .bind local_skip fun _ => .peek fun a => .ite (.relax ?_) (.ite .refuse ?_)
  · refine .bind local_bumpSkip fun _ => .takeSkipping (fun name => ?_) fun _ _ _ => fails_peek
    refine .peek fun b => .ite .refuse_bind (.bind local_bump fun _ => ?_)
    split
    · exact .pure _
    · split
      · exact .pure _
      · exact .pure _
  · exact .bind local_bumpSkip fun _ => .pure _

theorem local_edgeName : Local u calm lo hi 1 1 edgeName edgeName := by
  refine .takeSkipping (fun name => .peek fun b => .ite .refuse_bind ?_)
    (fun h => absurd h (by decide))
  refine .bind local_bump fun _ => .ite (.pure _) (.ite (.pure _) (.ite (.pure _) ?_))
  exact .ite (.pure _) .refuse

theorem run_get (c : Cursor) : (get : Parser Cursor).run c = .ok (c, c) := rfl

def OpenBrace (c : Cursor) : Prop :=
  ∃ r, c.rest = '{' :: r ∧ (skipped { c with rest := r }).rest = []

def Stuck (u : List Char) (k : Nat) (m m' : Parser Ast) (c : Cursor) : Prop :=
  ∃ d, OpenBrace d ∧ d.After k c ∧ (∃ r, m.run c = .error r) ∧ ∀ a e,
    m'.run (c.before u) = .ok (a, e) →
      e.rest.length ≤ u.length ∨ a = .anchor (.word .both) ∧ e = d.before u

theorem run_bumpSkip {x : Char} (hc : c.rest = x :: r) :
    bumpSkip.run c = .ok ((), skipped { c with rest := r }) := by
  rw [bumpSkip, run_bind_of_ok (run_bump hc), run_skip]

theorem run_wordEdge?_nil {x : Char} (hc : c.rest = x :: r)
    (hd : (skipped { c with rest := r }).rest = []) : ∃ e, wordEdge?.run c = .error e := by
  rw [wordEdge?, run_bind_of_ok (run_get c), run_bind_of_ok (run_bumpSkip hc)]
  exact fails_peek hd

/-- A word boundary goes back to its brace if no name stands behind it. -/
theorem run_wordEdge?_cons {x y : Char} {ys : List Char} (hc : c.rest = x :: r)
    (hd : (skipped { c with rest := r }).rest = y :: ys) : wordEdge?.run c =
      if isEdgeChar y then (edgeName >>= fun w => pure (some w)).run (skipped { c with rest := r })
      else .ok (none, c) := by
  rw [wordEdge?, run_bind_of_ok (run_get c), run_bind_of_ok (run_bumpSkip hc),
    run_bind_of_ok (run_peek_cons hd)]
  split <;> rfl

theorem local_namedEdge : Local u calm lo hi 1 1 (edgeName >>= fun w => pure (some w))
    (edgeName >>= fun w => pure (some w)) :=
  .bind local_edgeName fun _ => .pure _

theorem wordEdge?_takes {x : Char} {a : Option WordEdge} (hc : c.rest = x :: r)
    (h : wordEdge?.run c = .ok (a, d)) :
    d.rest <:+ (skipped { c with rest := r }).rest ∨ a = none ∧ d = c := by
  have htakes : Takes 0 1 (edgeName >>= fun w => pure (some w)) :=
    (local_namedEdge : Local [] True 0 0 1 1 _ _).takes
  cases hd : (skipped { c with rest := r }).rest with
  | nil =>
    obtain ⟨e, he⟩ := run_wordEdge?_nil hc hd
    rw [he] at h
    cases h
  | cons y ys =>
    rw [run_wordEdge?_cons hc hd] at h
    split at h
    · exact .inl (hd ▸ (htakes _ a d (Nat.zero_le _) h).1)
    · cases h
      exact .inr ⟨rfl, rfl⟩

theorem wordEdge?_tracks {y : Char} {ys : List Char} (hc : c.rest = '{' :: r)
    (hd : (skipped { c with rest := r }).rest = y :: ys) (hcalm : calm → c.Calm) :
    Tracks u calm 0 1 wordEdge? wordEdge? c := by
  have hbefore : (c.before u).rest = '{' :: (r ++ ')' :: u) := by simp [hc]
  have hskip : skipped (Cursor.before u { c with rest := r }) =
      (skipped { c with rest := r }).before u := by
    obtain h | ⟨⟨_, hnil⟩, _⟩ := skipped_before u { c with rest := r }
    · exact h
    · rw [hd] at hnil
      cases hnil
  have hd' : (skipped (Cursor.before u { c with rest := r })).rest = y :: (ys ++ ')' :: u) := by
    rw [hskip, Cursor.rest_before, hd, List.cons_append]
  have hrun := run_wordEdge?_cons hbefore hd'
  change wordEdge?.run (c.before u) = _ at hrun
  rw [Tracks, run_wordEdge?_cons hc hd, hrun]
  split
  · have hafter := after_cons hc
    have hlocal : Local u calm 0 ((skipped { c with rest := r }).rest.length + 1) 1 1 _ _ :=
      local_namedEdge
    obtain ⟨a, e, he, he', hlast⟩ | hfails := hlocal.tracks _ (Nat.zero_le _)
      (Nat.lt_succ_self _) fun h => hafter.calm (hcalm h)
    · rw [← hskip] at he'
      exact .inl ⟨a, e, he, he', (hafter.trans hlast).weaken (Nat.zero_le _)⟩
    · rw [← hskip] at hfails
      exact .inr hfails
  · exact .inl ⟨none, c, rfl, rfl, .refl c⟩

theorem wordEdge?_stuck {a : Option WordEdge} (hc : c.rest = '{' :: r)
    (hnil : (skipped { c with rest := r }).rest = [])
    (h : wordEdge?.run (c.before u) = .ok (a, e)) :
    e.rest.length ≤ u.length ∨ a = none ∧ e = c.before u := by
  have hbefore : (c.before u).rest = '{' :: (r ++ ')' :: u) := by simp [hc]
  obtain hskip | ⟨⟨hlate, _⟩, _⟩ := skipped_before u { c with rest := r }
  · have hd : (skipped (Cursor.before u { c with rest := r })).rest = ')' :: u := by
      rw [hskip, Cursor.rest_before, hnil, List.nil_append]
    rw [run_wordEdge?_cons hbefore hd] at h
    cases h
    exact .inr ⟨rfl, rfl⟩
  · obtain hsuffix | hback := wordEdge?_takes hbefore h
    · exact .inl (hsuffix.length_le.trans hlate)
    · exact .inr hback

theorem run_wordBoundary_brace (hc : c.rest.head? = some '{') : wordBoundary.run c =
    (wordEdge? >>= fun w => pure (.anchor (.word (w.getD .both)))).run c := by
  rw [wordBoundary, run_bind_of_ok (run_peek? c), if_pos hc]

theorem run_wordBoundary (hc : c.rest.head? ≠ some '{') :
    wordBoundary.run c = .ok (.anchor (.word .both), c) := by
  rw [wordBoundary, run_bind_of_ok (run_peek? c), if_neg hc]
  rfl

theorem wordBoundary_takes : Takes 0 0 wordBoundary := by
  intro c a d _ h
  by_cases hc : c.rest.head? = some '{'
  · obtain ⟨r, hr⟩ := List.head?_eq_some_iff.1 hc
    rw [run_wordBoundary_brace hc] at h
    obtain ⟨w, e, hw, h⟩ := run_bind_eq_ok h
    cases h
    obtain hsuffix | ⟨_, rfl⟩ := wordEdge?_takes hr hw
    · have hall := hsuffix.trans (after_cons hr).suffix
      exact ⟨hall, hall.length_le⟩
    · exact ⟨List.suffix_rfl, le_refl _⟩
  · rw [run_wordBoundary hc] at h
    cases h
    exact ⟨List.suffix_rfl, le_refl _⟩

theorem wordBoundary_cases (hcalm : calm → c.Calm) :
    Tracks u calm 0 1 wordBoundary wordBoundary c ∨ Stuck u 0 wordBoundary wordBoundary c := by
  by_cases hc : c.rest.head? = some '{'
  · obtain ⟨r, hr⟩ := List.head?_eq_some_iff.1 hc
    have hc' : (c.before u).rest.head? = some '{' := by simp [hr]
    rw [Tracks, Stuck, run_wordBoundary_brace hc, run_wordBoundary_brace hc']
    cases hd : (skipped { c with rest := r }).rest with
    | nil =>
      obtain ⟨x, hx⟩ := run_wordEdge?_nil hr hd
      refine .inr ⟨c, ⟨r, hr, hd⟩, .refl c, ⟨x, run_bind_of_error hx⟩, fun a e h => ?_⟩
      obtain ⟨w, e', hw, h⟩ := run_bind_eq_ok h
      cases h
      obtain hlate | ⟨rfl, rfl⟩ := wordEdge?_stuck hr hd hw
      · exact .inl hlate
      · exact .inr ⟨rfl, rfl⟩
    | cons y ys =>
      refine .inl ((wordEdge?_tracks hr hd hcalm).bind (fun a d e b hb hd => ?_) fun a d _ _ => ?_)
      · cases hb
        exact hd
      · exact .inl ⟨_, d, rfl, rfl, .refl d⟩
  · have hc' : (c.before u).rest.head? ≠ some '{' := by
      rw [Cursor.rest_before]
      cases hr : c.rest with
      | nil => simp
      | cons x xs => simpa [hr] using hc
    exact .inl (.inl ⟨_, c, run_wordBoundary hc, run_wordBoundary hc', .refl c⟩)

theorem local_escapeOf {x : Char} (hx : x ≠ 'b') :
    Local u calm lo hi 0 1 (escapeOf x) (escapeOf x) := by
  unfold escapeOf
  split
  case h_1 | h_2 | h_3 => exact (local_hexChar _).relax
  case h_4 | h_5 => exact (local_namedClass _).relax
  case h_20 => exact absurd rfl hx
  case h_24 => exact .ite (.pure _) .refuse
  all_goals exact .pure _

theorem escapeOf_takes (x : Char) : Takes 0 0 (escapeOf x) := by
  by_cases hx : x = 'b'
  · exact hx ▸ wordBoundary_takes
  · exact (local_escapeOf hx : Local [] True 0 0 0 1 _ _).takes

theorem run_escape_singleton {x : Char} (hc : c.rest = [x]) : ∃ e, escape.run c = .error e := by
  rw [escape, run_bind_of_ok (run_bump hc)]
  exact fails_peek rfl

theorem run_escape {x y : Char} (hc : c.rest = x :: y :: r) :
    escape.run c = (escapeOf y).run { c with rest := r } := by
  rw [escape, run_bind_of_ok (run_bump hc), run_bind_of_ok (run_peek_cons rfl),
    run_bind_of_ok (run_bump rfl)]

theorem after_cons_cons {x y : Char} (hc : c.rest = x :: y :: r) :
    Cursor.After 2 { c with rest := r } c := by
  refine .of_suffix ?_ (by simp [hc]) rfl
  exact hc ▸ (List.suffix_cons y r).trans (List.suffix_cons x (y :: r))

theorem escape_takes : Takes 1 1 escape := by
  intro c a d hlo h
  obtain ⟨x, xs, hc⟩ := List.exists_cons_of_length_pos hlo
  cases xs with
  | nil =>
    obtain ⟨e, he⟩ := run_escape_singleton hc
    rw [he] at h
    cases h
  | cons y r =>
    rw [run_escape hc] at h
    obtain ⟨hsuffix, hlength⟩ := escapeOf_takes y _ a d (Nat.zero_le _) h
    have hafter := after_cons_cons hc
    have hle := hafter.length
    exact ⟨hsuffix.trans hafter.suffix, by omega⟩

theorem escape_cases (hlo : 1 ≤ c.rest.length) (hcalm : calm → c.Calm) :
    Tracks u calm 1 1 escape escape c ∨ Stuck u 1 escape escape c := by
  obtain ⟨x, xs, hc⟩ := List.exists_cons_of_length_pos hlo
  cases xs with
  | nil =>
    have hbefore : (c.before u).rest = x :: ')' :: u := by simp [hc]
    refine .inl (.inr ⟨fun _ => run_escape_singleton hc, fun a d h => ?_⟩)
    rw [run_escape hbefore] at h
    exact Nat.succ_le_succ (escapeOf_takes ')' _ a d (Nat.zero_le _) h).2
  | cons y r =>
    have hbefore : (c.before u).rest = x :: y :: (r ++ ')' :: u) := by simp [hc]
    have hafter := after_cons_cons hc
    have hlater : calm → Cursor.Calm { c with rest := r } := fun h => hafter.calm (hcalm h)
    have hcases : Tracks u calm 0 1 (escapeOf y) (escapeOf y) { c with rest := r } ∨
        Stuck u 0 (escapeOf y) (escapeOf y) { c with rest := r } := by
      by_cases hy : y = 'b'
      · exact hy ▸ wordBoundary_cases hlater
      · have hlocal : Local u calm 0 (r.length + 1) 0 1 (escapeOf y) (escapeOf y) := local_escapeOf hy
        exact .inl (hlocal.tracks _ (Nat.zero_le _) (Nat.lt_succ_self _) hlater)
    rw [Tracks, Stuck, run_escape hc, run_escape hbefore]
    obtain (⟨a, d, hok, hok', hd⟩ | hfails) | ⟨d, hbrace, hd, hstuck⟩ := hcases
    · exact .inl (.inl ⟨a, d, hok, hok', (hafter.trans hd).weaken (by omega)⟩)
    · exact .inl (.inr hfails)
    · exact .inr ⟨d, hbrace, (hafter.trans hd).weaken (by omega), hstuck⟩

theorem run_setItem_escape (hc : c.rest = '\\' :: r) : setItem.run c = escape.run c := by
  rw [setItem, run_bind_of_ok (run_peek_cons hc), if_pos rfl]

theorem run_setItem {x : Char} (hc : c.rest = x :: r) (hx : x ≠ '\\') :
    setItem.run c = (bumpSkip >>= fun _ => pure (Ast.char x false)).run c := by
  rw [setItem, run_bind_of_ok (run_peek_cons hc), if_neg hx]

theorem local_plainItem (x : Char) : Local u calm 1 hi 1 1
    (bumpSkip >>= fun _ => pure (Ast.char x false)) (bumpSkip >>= fun _ => pure (.char x false)) :=
  .bind local_bumpSkip fun _ => .pure _

theorem setItem_takes : Takes 0 1 setItem := by
  intro c a d _ h
  cases hc : c.rest with
  | nil =>
    obtain ⟨e, he⟩ : ∃ e, setItem.run c = .error e := fails_peek hc
    rw [he] at h
    cases h
  | cons x r =>
    have hlo : 1 ≤ c.rest.length := by simp [hc]
    rw [← hc]
    by_cases hx : x = '\\'
    · subst hx
      rw [run_setItem_escape hc] at h
      exact escape_takes c a d hlo h
    · rw [run_setItem hc hx] at h
      exact (local_plainItem x : Local [] True 1 0 1 1 _ _).takes c a d hlo h

theorem setItem_cases (hcalm : calm → c.Calm) :
    Tracks u calm 1 1 setItem setItem c ∨ Stuck u 1 setItem setItem c := by
  cases hc : c.rest with
  | nil =>
    have hbefore : (c.before u).rest = ')' :: u := by simp [hc]
    refine .inl (.inr ⟨fun _ => fails_peek hc, fun a d h => ?_⟩)
    have hlength := (setItem_takes _ a d (Nat.zero_le _) h).2
    rwa [hbefore] at hlength
  | cons x r =>
    have hlo : 1 ≤ c.rest.length := by simp [hc]
    have hbefore : (c.before u).rest = x :: (r ++ ')' :: u) := by simp [hc]
    by_cases hx : x = '\\'
    · subst hx
      rw [Tracks, Stuck, run_setItem_escape hc, run_setItem_escape hbefore]
      exact escape_cases hlo hcalm
    · rw [Tracks, run_setItem hc hx, run_setItem hbefore hx]
      have hlocal : Local u calm 1 (c.rest.length + 1) 1 1 _ _ := local_plainItem x
      exact .inl (hlocal.tracks c hlo (Nat.lt_succ_self _) hcalm)

/-- What comes behind an item fails if the item is a word boundary. -/
theorem Local.setItem {f f' : Ast → Parser β}
    (hf : ∀ a, Local u calm 0 (hi - 1) (k - 1) p (f a) (f' a))
    (hedge : ∀ c b e, (f' (.anchor (.word .both))).run c ≠ .ok (b, e))
    (hp : p ≤ 1 + (k - 1)) :
    Local u calm lo hi k p (Parser.setItem >>= f) (Parser.setItem >>= f') where
  takes c b e _ := (setItem_takes.bind fun a => (hf a).takes).weaken (by omega) c b e (Nat.zero_le _)
  tracks c _ hc hcalm := by
    obtain htracks | ⟨c', _, _, ⟨r, hr⟩, hstuck⟩ := setItem_cases hcalm
    · exact htracks.bind_local hc hcalm hf hp
    · refine .inr ⟨fun _ => ⟨r, run_bind_of_error hr⟩, fun b e h => ?_⟩
      obtain ⟨a, d, hok, hb⟩ := run_bind_eq_ok h
      obtain hlate | ⟨rfl, _⟩ := hstuck a d hok
      · have hlength := ((hf a).takes d b e (Nat.zero_le _) hb).2
        omega
      · exact absurd hb (hedge d b e)

theorem head_before {x : Char} (hx : x ≠ ')') :
    (r ++ ')' :: u).head? = some x ↔ r.head? = some x := by
  cases r with
  | nil => simp [Ne.symm hx]
  | cons y ys => simp

theorem second?_before {x : Char} (hx : x ≠ ')') (spaced : Bool) (hr : 1 ≤ r.length) :
    second? spaced (r ++ ')' :: u) = some x ↔ second? spaced r = some x := by
  have hdrop : (r ++ ')' :: u).drop 1 = r.drop 1 ++ ')' :: u := List.drop_append_of_le_length hr
  rw [second?, second?, hdrop]
  split
  case isFalse => exact head_before hx
  case isTrue =>
    dsimp only
    rw [dropWhile_before (by decide)]
    by_cases hhash : ((r.drop 1).dropWhile isBlank).head? = some '#'
    · obtain ⟨s, hs⟩ := List.head?_eq_some_iff.1 hhash
      have htrim : (s ++ ')' :: u).dropWhile isBlank = s.dropWhile isBlank ++ ')' :: u :=
        dropWhile_before (by decide)
      rw [if_pos hhash, if_pos ((head_before (by decide)).2 hhash), hs, List.cons_append,
        List.drop_succ_cons, List.drop_zero, List.drop_succ_cons, List.drop_zero, htrim]
      exact head_before hx
    · rw [if_neg hhash, if_neg fun h => hhash ((head_before (by decide)).1 h)]
      exact head_before hx

theorem Local.peekSecond {f f' : Option Char → Parser β}
    (hf : ∀ x y, (x = some ']' ↔ y = some ']') → (x = some '-' ↔ y = some '-') →
      Local u calm 1 hi k p (f x) (f' y)) :
    Local u calm 1 hi k p (Parser.peekSecond >>= f) (Parser.peekSecond >>= f') where
  takes c b e hc h := (hf _ _ Iff.rfl Iff.rfl).takes c b e hc h
  tracks c hc hc' hcalm := by
    have hrun : ∀ c : Cursor, Parser.peekSecond.run c = .ok (second? c.spaced c.rest, c) :=
      fun _ => rfl
    refine .of_ok (hrun c) (hrun _) (.refl c) ((hf _ _ ?_ ?_).tracks c hc hc' hcalm)
    · exact (second?_before (by decide) c.spaced hc).symm
    · exact (second?_before (by decide) c.spaced hc).symm

theorem local_setRange : Local u calm lo hi 1 0 setRange setRange := by
  refine .setItem (fun a => .bind_zero local_skip fun _ => .peek_zero fun x =>
    .peekSecond fun y z hy hz => ?_) (fun c b e h => ?_) (Nat.zero_le _)
  · simp only [hy, hz]
    refine .ite ?_ (.bind_zero local_bumpSkip fun _ =>
      .setItem (fun b => ?_) (fun c s e h => ?_) (Nat.zero_le _))
    · split
      · exact .pure _
      · exact .pure _
      · exact .refuse
    · split
      · exact .ite (.pure _) .refuse
      · exact .refuse
    · cases a <;> cases h
  · obtain ⟨_, _, _, h⟩ := run_bind_eq_ok h
    obtain ⟨_, _, _, h⟩ := run_bind_eq_ok h
    obtain ⟨_, _, _, h⟩ := run_bind_eq_ok h
    split at h
    · cases h
    · obtain ⟨_, _, _, h⟩ := run_bind_eq_ok h
      obtain ⟨_, _, _, h⟩ := run_bind_eq_ok h
      cases h

theorem takeWhile_ne_append {x : Char} (hx : x ∉ r) (s : List Char) :
    (r ++ s).takeWhile (· ≠ x) = r ++ s.takeWhile (· ≠ x) :=
  List.takeWhile_append_of_pos fun _ hy => decide_eq_true fun h => hx (h ▸ hy)

theorem dropWhile_ne_append {x : Char} (hx : x ∉ r) (s : List Char) :
    (r ++ s).dropWhile (· ≠ x) = s.dropWhile (· ≠ x) :=
  List.dropWhile_append_of_pos fun _ hy => decide_eq_true fun h => hx (h ▸ hy)

theorem takeWhile_ne_append_cons {x : Char} (hx : x ∉ r) (s : List Char) :
    (r ++ x :: s).takeWhile (· ≠ x) = r := by
  rw [takeWhile_ne_append hx, List.takeWhile_cons_of_neg (by simp), List.append_nil]

theorem dropWhile_ne_append_cons {x : Char} (hx : x ∉ r) (s : List Char) :
    (r ++ x :: s).dropWhile (· ≠ x) = x :: s := by
  rw [dropWhile_ne_append hx, List.dropWhile_cons_of_neg (by simp)]

theorem not_posix {name : List Char} (h : ')' ∈ name) :
    posixNames.any (·.toList = name) = false := by
  have hnames : ∀ s ∈ posixNames, ')' ∉ s.toList := by decide
  refine List.any_eq_false.2 fun s hs heq => ?_
  exact hnames s hs (of_decide_eq_true heq ▸ h)

theorem posixNamed?_suffix {negated : Bool} {s : SetExpr} {r' : List Char}
    (h : posixNamed? negated r = some (s, r')) : r' <:+ r := by
  unfold posixNamed? at h
  split at h
  case h_2 => cases h
  case h_1 hr =>
    dsimp only at h
    split at h
    · cases h
      have hsuffix : ':' :: ']' :: r' <:+ r := by
        rw [← hr]
        exact List.dropWhile_suffix _
      exact ((List.suffix_cons ']' r').trans (List.suffix_cons ':' _)).trans hsuffix
    · cases h

theorem posixNamed?_before (negated : Bool) (u r : List Char) :
    posixNamed? negated (r ++ ')' :: u) =
      (posixNamed? negated r).map fun s => (s.1, s.2 ++ ')' :: u) := by
  by_cases hr : ':' ∈ r
  · obtain ⟨a, b, rfl, ha⟩ := List.eq_append_cons_of_mem hr
    rw [List.append_assoc, List.cons_append, posixNamed?, posixNamed?, takeWhile_ne_append_cons ha,
      takeWhile_ne_append_cons ha, dropWhile_ne_append_cons ha, dropWhile_ne_append_cons ha]
    cases b with
    | nil => rfl
    | cons x xs =>
      by_cases hx : x = ']'
      · subst hx
        change (if posixNames.any (·.toList = a) = true then _ else _) = Option.map _
          (if posixNames.any (·.toList = a) = true then _ else _)
        split <;> rfl
      · simp [hx]
  · have hname : ')' ∈ (r ++ ')' :: u).takeWhile (· ≠ ':') := by
      rw [takeWhile_ne_append hr]
      simp
    have hnone : r.dropWhile (· ≠ ':') = [] := by
      simpa using dropWhile_ne_append hr []
    rw [posixNamed?, posixNamed?, not_posix hname, hnone]
    dsimp only
    split <;> rfl

theorem posixOf?_suffix {s : SetExpr} {r' : List Char} (h : posixOf? r = some (s, r')) :
    r' <:+ r ∧ r'.length < r.length := by
  unfold posixOf? at h
  split at h
  · have hsuffix := posixNamed?_suffix h
    have hlength := hsuffix.length_le
    refine ⟨hsuffix.trans ?_, by simp; omega⟩
    exact (List.suffix_cons '^' _).trans ((List.suffix_cons ':' _).trans (List.suffix_cons '[' _))
  · have hsuffix := posixNamed?_suffix h
    have hlength := hsuffix.length_le
    refine ⟨hsuffix.trans ?_, by simp; omega⟩
    exact (List.suffix_cons ':' _).trans (List.suffix_cons '[' _)
  · cases h

theorem posixOf?_eq_none (h : ∀ s, r ≠ '[' :: ':' :: s) : posixOf? r = none := by
  unfold posixOf?
  split
  case h_1 s => exact absurd rfl (h ('^' :: s))
  case h_2 s _ => exact absurd rfl (h s)
  case h_3 => rfl

theorem posixOf?_plain (h : r.head? ≠ some '^') :
    posixOf? ('[' :: ':' :: r) = posixNamed? false r := by
  unfold posixOf?
  split
  case h_1 heq =>
    cases heq
    exact absurd rfl h
  case h_2 heq =>
    cases heq
    rfl
  case h_3 hne => exact absurd rfl (hne r)

theorem posixOf?_before (u r : List Char) : posixOf? (r ++ ')' :: u) =
    (posixOf? r).map fun s => (s.1, s.2 ++ ')' :: u) := by
  by_cases h : ∃ s, r = '[' :: ':' :: s
  · obtain ⟨s, rfl⟩ := h
    rw [List.cons_append, List.cons_append]
    by_cases hs : s.head? = some '^'
    · obtain ⟨t, rfl⟩ := List.head?_eq_some_iff.1 hs
      exact posixNamed?_before true u t
    · have hs' : (s ++ ')' :: u).head? ≠ some '^' := fun h => hs ((head_before (by decide)).1 h)
      rw [posixOf?_plain hs, posixOf?_plain hs', posixNamed?_before]
  · have hnone : ∀ s, r ≠ '[' :: ':' :: s := fun s hs => h ⟨s, hs⟩
    have hnone' : ∀ s, r ++ ')' :: u ≠ '[' :: ':' :: s := by
      intro s hs
      match r with
      | [] => cases hs
      | [x] => cases hs
      | x :: y :: t =>
        cases hs
        exact hnone t rfl
    rw [posixOf?_eq_none hnone, posixOf?_eq_none hnone']
    rfl

theorem run_posix?_of_some {s : SetExpr} {r' : List Char} (h : posixOf? c.rest = some (s, r')) :
    posix?.run c = .ok (some s, { c with rest := r' }) := by
  rw [posix?, run_bind_of_ok (run_rest c), h]
  rfl

theorem run_posix?_of_none (h : posixOf? c.rest = none) : posix?.run c = .ok (none, c) := by
  rw [posix?, run_bind_of_ok (run_rest c), h]
  rfl

theorem Local.posix? {f f' : Option SetExpr → Parser β}
    (hsome : ∀ s, Local u calm 0 (hi - 1) (k - 1) p (f (some s)) (f' (some s)))
    (hnone : Local u calm lo hi k p (f none) (f' none)) :
    Local u calm lo hi k p (Parser.posix? >>= f) (Parser.posix? >>= f') where
  takes c b e hc h := by
    cases hp : posixOf? c.rest with
    | none =>
      rw [run_bind_of_ok (run_posix?_of_none hp)] at h
      exact hnone.takes c b e hc h
    | some s =>
      rw [run_bind_of_ok (run_posix?_of_some hp)] at h
      obtain ⟨hsuffix, hlength⟩ := posixOf?_suffix hp
      obtain ⟨hrest', hlength'⟩ := (hsome _).takes _ b e (Nat.zero_le _) h
      dsimp only at hlength'
      exact ⟨hrest'.trans hsuffix, by omega⟩
  tracks c hc hc' hcalm := by
    have hbefore := posixOf?_before u c.rest
    cases hp : posixOf? c.rest with
    | none =>
      rw [hp] at hbefore
      refine .of_ok (run_posix?_of_none hp) (run_posix?_of_none hbefore) (.refl c) ?_
      exact hnone.tracks c hc hc' hcalm
    | some s =>
      rw [hp] at hbefore
      obtain ⟨hsuffix, hlength⟩ := posixOf?_suffix hp
      have hafter : Cursor.After 1 { c with rest := s.2 } c := .of_suffix hsuffix hlength rfl
      refine .of_ok (run_posix?_of_some hp) (run_posix?_of_some hbefore) hafter ?_
      refine (hsome _).tracks _ (Nat.zero_le _) ?_ fun h => hafter.calm (hcalm h)
      dsimp only
      omega

theorem local_leadingHyphens (h : 0 < hi → hi ≤ n + 1 ∧ n ≤ n') :
    Local u calm lo hi 0 0 (leadingHyphens n) (leadingHyphens n') := by
  induction n' generalizing n lo hi with
  | zero =>
    cases n with
    | zero => exact .pure []
    | succ n =>
      obtain rfl : hi = 0 := by omega
      exact (Local.pure []).of_zero
  | succ n' ih =>
    have hstep : ∀ n lo hi, (0 < hi → hi ≤ n + 2 ∧ n ≤ n') →
        Local u calm lo hi 0 0 (leadingHyphens (n + 1)) (leadingHyphens (n' + 1)) := by
      intro n lo hi h
      refine .peek_zero fun a => .ite (.relax (.bind_zero local_bumpSkip fun _ =>
        .bind_zero (ih ?_) fun _ => .pure _)) (.pure [])
      omega
    cases n with
    | succ n => exact hstep n lo hi (by omega)
    | zero =>
      refine ⟨(hstep 0 lo 0 (by omega)).takes, fun c _ hc _ => ?_⟩
      -- at the end of the text no fuel is left to see what follows
      have hnil : c.rest = [] := List.eq_nil_of_length_eq_zero (by omega)
      have hbefore : (c.before u).rest = ')' :: u := by simp [hnil]
      refine .inl ⟨[], c, rfl, ?_, .refl c⟩
      rw [leadingHyphens, run_bind_of_ok (run_peek_cons hbefore), if_neg (by decide)]
      rfl

theorem discard_peek_bind (f : Unit → Parser β) :
    (discard peek >>= f) = peek >>= fun _ => f () :=
  bind_map_left _ _ _

theorem local_firstItems : Local u calm lo hi 0 0 firstItems firstItems := by
  refine .rest fun hi' r r' h => .bind_zero (local_leadingHyphens fun hpos => ?_) fun items =>
    .peek_zero fun x => ?_
  · obtain ⟨hhi, hr⟩ := h hpos
    simp [hhi, hr]
  · simp only [discard_peek_bind]
    refine .ite (.relax ?_) (.peek_zero fun _ => .pure _)
    exact .bind_zero local_bumpSkip fun _ => .peek_zero fun _ => .pure _

theorem local_openSet : Local u calm 1 hi 1 0 openSet openSet := by
  refine .bind_zero local_bumpSkip fun _ => .peek_zero fun a => .ite ?_ ?_
  · refine .relax (.bind_zero local_bumpSkip fun _ => ?_)
    exact .bind_zero local_firstItems fun _ => .pure _
  · exact .bind_zero local_firstItems fun _ => .pure _

/-- Fuel for twice the characters is enough, for a nested set is entered before it takes any. -/
theorem local_sets (n' : Nat) :
    (∀ n hi, (0 < hi → 2 * hi ≤ n + 1 ∧ n ≤ n') → Local u calm 1 hi 1 1 (set n) (set n')) ∧
      ∀ n lo hi pending items, (0 < hi → 2 * hi ≤ n ∧ n ≤ n') →
        Local u calm lo hi 1 1 (setItems n pending items) (setItems n' pending items) := by
  induction n' with
  | zero =>
    refine ⟨fun n hi h => ?_, fun n lo hi pending items h => ?_⟩
    · obtain rfl : hi = 0 := by omega
      exact Local.refuse.of_zero
    · obtain rfl : hi = 0 := by omega
      exact Local.refuse.of_zero
  | succ n' ih =>
    obtain ⟨ihset, ihitems⟩ := ih
    have hset : ∀ n hi, (0 < hi → 2 * hi ≤ n + 2 ∧ n ≤ n') →
        Local u calm 1 hi 1 1 (set (n + 1)) (set (n' + 1)) := by
      intro n hi h
      refine .relax (.bind_of_le local_openSet (fun ⟨negated, items⟩ => ?_) (by omega))
      exact .bind (ihitems n 0 (hi - 1) none items (by omega)) fun _ => .pure _
    have hitems : ∀ n lo hi pending items, (0 < hi → 2 * hi ≤ n + 1 ∧ n ≤ n') →
        Local u calm lo hi 1 1 (setItems (n + 1) pending items)
          (setItems (n' + 1) pending items) := by
      intro n lo hi pending items h
      have hnext : ∀ pending items, Local u calm 0 (hi - 1) 1 1 (setItems n pending items)
          (setItems n' pending items) := fun pending items =>
        ihitems n 0 (hi - 1) pending items (by omega)
      have heat : ∀ pending items, Local u calm 0 (hi - 1) (1 - 1) 1 (setItems n pending items)
          (setItems n' pending items) := fun pending items => (hnext pending items).relax
      refine .bind local_skip fun _ => .peek fun c => .ite (.posix? (fun s => heat _ _) ?_) ?_
      · refine .relax (.bind (ihset n hi (by omega)) fun s => hnext _ _)
      · refine .ite (.bind local_bump fun _ => .pure _) ?_
        refine .eat (by decide) (by decide) (heat _ _) (.eat (by decide) (by decide) (heat _ _) ?_)
        refine .eat (by decide) (by decide) (heat _ _) ?_
        exact .relax (.bind_of_le local_setRange (fun s => hnext _ _) (by omega))
    refine ⟨fun n hi h => ?_, fun n lo hi pending items h => ?_⟩
    · cases n with
      | zero =>
        obtain rfl : hi = 0 := by omega
        exact (hset 0 0 (by omega)).of_zero
      | succ n => exact hset n hi (by omega)
    · cases n with
      | zero =>
        obtain rfl : hi = 0 := by omega
        exact (hitems 0 lo 0 pending items (by omega)).of_zero
      | succ n => exact hitems n lo hi pending items (by omega)

end StubHttp.Pattern.Parser
