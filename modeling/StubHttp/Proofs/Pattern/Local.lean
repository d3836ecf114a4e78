import Mathlib.Data.List.Infix
import StubHttp.Pattern.Parser

/-!
# Reading up to a closing parenthesis

A reader is local if it does the same at the end of a text and before a closing parenthesis, unless
it reads on beyond the parenthesis. `Parser.Local` compares a reader of a text with one of the text
that goes on; both may differ in their fuel. The rules below follow the structure of a reader, so
that each reader has one derivation, from which come both what it takes and how the two runs agree.
-/
namespace StubHttp.Pattern

def isFlagSign (c : Char) : Bool := c = '-' || (Flag.ofLetter? c).isSome

def FlagX (r : List Char) : Prop := ∃ v, '?' :: v <:+ r ∧ 'x' ∈ v.takeWhile isFlagSign

theorem FlagX.of_suffix {r s : List Char} (h : FlagX s) (hs : s <:+ r) : FlagX r := by
  obtain ⟨v, hv, hx⟩ := h
  exact ⟨v, hv.trans hs, hx⟩

namespace Cursor

variable {c d e : Cursor} {j k : Nat}

/-- Each comment sign has a line end behind it, or no comment is read. -/
def Calm (c : Cursor) : Prop :=
  (∀ v, '#' :: v <:+ c.rest → '\n' ∈ v) ∨ (c.spaced = false ∧ ¬FlagX c.rest)

theorem Calm.of_suffix (h : c.Calm) (hrest : d.rest <:+ c.rest) (hspaced : d.spaced = c.spaced) :
    d.Calm := by
  obtain h | ⟨hs, hx⟩ := h
  · exact .inl fun v hv => h v (hv.trans hrest)
  · exact .inr ⟨hspaced.trans hs, fun hflag => hx (hflag.of_suffix hrest)⟩

structure After (k : Nat) (d c : Cursor) : Prop where
  suffix : d.rest <:+ c.rest
  length : d.rest.length + k ≤ c.rest.length
  calm : c.Calm → d.Calm

theorem After.of_suffix (hrest : d.rest <:+ c.rest) (hlength : d.rest.length + k ≤ c.rest.length)
    (hspaced : d.spaced = c.spaced) : d.After k c :=
  ⟨hrest, hlength, fun h => h.of_suffix hrest hspaced⟩

theorem After.refl (c : Cursor) : c.After 0 c := ⟨List.suffix_rfl, le_refl _, id⟩

theorem After.trans (h : d.After k c) (h' : e.After j d) : e.After (k + j) c :=
  ⟨h'.suffix.trans h.suffix, by have := h.length; have := h'.length; omega,
    fun hc => h'.calm (h.calm hc)⟩

theorem After.weaken (h : d.After k c) (hj : j ≤ k) : d.After j c :=
  ⟨h.suffix, by have := h.length; omega, h.calm⟩

def before (u : List Char) (c : Cursor) : Cursor := { c with rest := c.rest ++ ')' :: u }

@[simp] theorem rest_before (u : List Char) (c : Cursor) :
    (c.before u).rest = c.rest ++ ')' :: u := rfl

@[simp] theorem spaced_before (u : List Char) (c : Cursor) : (c.before u).spaced = c.spaced := rfl

end Cursor

namespace Parser

variable {α β : Type} {m m' : Parser α} {f f' : α → Parser β} {a : α} {b : β} {c d e : Cursor}
  {u : List Char} {calm : Prop} {lo hi i j k p q : Nat}

@[simp] theorem run_pure (a : α) (c : Cursor) : (pure a : Parser α).run c = .ok (a, c) := rfl

@[simp] theorem run_refuse (c : Cursor) :
    (refuse : Parser α).run c = .error .malformed := rfl

theorem run_bind_of_ok (h : m.run c = .ok (a, d)) : (m >>= f).run c = (f a).run d := by
  rw [StateT.run_bind, h]
  rfl

theorem run_bind_of_error {r : Refusal} (h : m.run c = .error r) :
    (m >>= f).run c = .error r := by
  rw [StateT.run_bind, h]
  rfl

theorem run_bind_eq_ok (h : (m >>= f).run c = .ok (b, e)) :
    ∃ a d, m.run c = .ok (a, d) ∧ (f a).run d = .ok (b, e) := by
  cases hm : m.run c with
  | error r =>
    rw [run_bind_of_error hm] at h
    cases h
  | ok r => exact ⟨r.1, r.2, rfl, by rwa [← run_bind_of_ok hm]⟩

theorem run_rest (c : Cursor) : rest.run c = .ok (c.rest, c) := rfl

theorem run_peek? (c : Cursor) : peek?.run c = .ok (c.rest.head?, c) := rfl

theorem run_peek_nil (h : c.rest = []) : peek.run c = .error .malformed := by
  simp only [peek, run_bind_of_ok (run_peek? c), h, List.head?_nil, run_refuse]

theorem run_peek_cons {x : Char} {xs : List Char} (h : c.rest = x :: xs) :
    peek.run c = .ok (x, c) := by
  simp only [peek, run_bind_of_ok (run_peek? c), h, List.head?_cons, run_pure]

theorem run_peek_eq_ok {x : Char} (h : peek.run c = .ok (x, d)) :
    d = c ∧ ∃ xs, c.rest = x :: xs := by
  cases hc : c.rest with
  | nil =>
    rw [run_peek_nil hc] at h
    cases h
  | cons y ys =>
    rw [run_peek_cons hc] at h
    cases h
    exact ⟨rfl, ys, rfl⟩

theorem run_bump {x : Char} {xs : List Char} (h : c.rest = x :: xs) :
    bump.run c = .ok ((), { c with rest := xs }) := by
  change Except.ok ((), { c with rest := c.rest.drop 1 }) = _
  rw [h, List.drop_succ_cons, List.drop_zero]

/-- The reader takes the same of a text as of the text that goes on, or fails on the text (which it
does for sure only if comments end) and takes at least `p` characters of what follows it. -/
def Tracks (u : List Char) (calm : Prop) (k p : Nat) (m m' : Parser α) (c : Cursor) : Prop :=
  (∃ a d, m.run c = .ok (a, d) ∧ m'.run (c.before u) = .ok (a, d.before u) ∧ d.After k c) ∨
    (calm → ∃ r, m.run c = .error r) ∧
      ∀ a d, m'.run (c.before u) = .ok (a, d) → d.rest.length + p ≤ u.length + 1

def Takes (lo k : Nat) (m : Parser α) : Prop :=
  ∀ c a d, lo ≤ c.rest.length → m.run c = .ok (a, d) →
    d.rest <:+ c.rest ∧ d.rest.length + k ≤ c.rest.length

/-- A reader that is local on all texts of at least `lo` and less than `hi` characters. -/
structure Local (u : List Char) (calm : Prop) (lo hi k p : Nat) (m m' : Parser α) : Prop where
  takes : Takes lo k m'
  tracks : ∀ c : Cursor, lo ≤ c.rest.length → c.rest.length < hi → (calm → c.Calm) →
    Tracks u calm k p m m' c

theorem Takes.bind (hm : Takes lo i m) (hf : ∀ a, Takes 0 j (f a)) : Takes lo (i + j) (m >>= f) := by
  intro c b e hc h
  obtain ⟨a, d, hok, hb⟩ := run_bind_eq_ok h
  obtain ⟨hrest, hlength⟩ := hm c a d hc hok
  obtain ⟨hrest', hlength'⟩ := hf a d b e (Nat.zero_le _) hb
  exact ⟨hrest'.trans hrest, by omega⟩

theorem Takes.weaken (h : Takes lo k m) (hj : j ≤ k) : Takes lo j m := by
  intro c a d hc hm
  obtain ⟨hrest, hlength⟩ := h c a d hc hm
  exact ⟨hrest, by omega⟩

theorem Tracks.weaken (h : Tracks u calm k p m m' c) (hk : j ≤ k) (hp : q ≤ p) :
    Tracks u calm j q m m' c := by
  obtain ⟨a, d, hm, hm', hd⟩ | ⟨hm, hm'⟩ := h
  · exact .inl ⟨a, d, hm, hm', hd.weaken hk⟩
  · exact .inr ⟨hm, fun a d h => by have := hm' a d h; omega⟩

theorem Tracks.jump {m₂ m₂' : Parser α} (h : Tracks u calm (k - i) p m₂ m₂' d)
    (hm : m.run c = m₂.run d) (hm' : m'.run (c.before u) = m₂'.run (d.before u))
    (hd : d.After i c) : Tracks u calm k p m m' c := by
  rw [Tracks, hm, hm']
  obtain ⟨b, e, hb, hb', he⟩ | h := h
  · exact .inl ⟨b, e, hb, hb', (hd.trans he).weaken (by omega)⟩
  · exact .inr h

/-- What comes next is local where the first reader ends. -/
theorem Tracks.bind (hm : Tracks u calm i q m m' c)
    (htakes : ∀ a (d e : Cursor) b, (f' a).run d = .ok (b, e) →
      d.rest.length + q ≤ u.length + 1 → e.rest.length + p ≤ u.length + 1)
    (hf : ∀ a d, m.run c = .ok (a, d) → d.After i c → Tracks u calm (k - i) p (f a) (f' a) d) :
    Tracks u calm k p (m >>= f) (m' >>= f') c := by
  obtain ⟨a, d, hok, hok', hd⟩ | ⟨hfail, hlate⟩ := hm
  · obtain ⟨b, e, hb, hb', he⟩ | ⟨hb, hb'⟩ := hf a d hok hd
    · refine .inl ⟨b, e, ?_, ?_, (hd.trans he).weaken (by omega)⟩
      · rw [run_bind_of_ok hok, hb]
      · rw [run_bind_of_ok hok', hb']
    · refine .inr ⟨fun h => ?_, fun b e h => ?_⟩
      · obtain ⟨r, hr⟩ := hb h
        exact ⟨r, by rw [run_bind_of_ok hok, hr]⟩
      · rw [run_bind_of_ok hok'] at h
        exact hb' b e h
  · refine .inr ⟨fun h => ?_, fun b e h => ?_⟩
    · obtain ⟨r, hr⟩ := hfail h
      exact ⟨r, run_bind_of_error hr⟩
    · obtain ⟨a, d, hok, hb⟩ := run_bind_eq_ok h
      exact htakes a d e b hb (hlate a d hok)

theorem Tracks.of_ok {a' : α} (hm : m.run c = .ok (a, d))
    (hm' : m'.run (c.before u) = .ok (a', d.before u)) (hd : d.After i c)
    (h : Tracks u calm (k - i) p (f a) (f' a') d) :
    Tracks u calm k p (m >>= f) (m' >>= f') c :=
  h.jump (run_bind_of_ok hm) (run_bind_of_ok hm') hd

theorem Tracks.bind_local (hm : Tracks u calm i q m m' c) (hc : c.rest.length < hi)
    (hcalm : calm → c.Calm) (hf : ∀ a, Local u calm 0 (hi - i) (k - i) p (f a) (f' a))
    (hp : p ≤ q + (k - i)) : Tracks u calm k p (m >>= f) (m' >>= f') c := by
  refine hm.bind (fun a d e b hb hd => ?_) fun a d _ hd => ?_
  · have hlength := ((hf a).takes d b e (Nat.zero_le _) hb).2
    omega
  · have hlength := hd.length
    exact (hf a).tracks d (Nat.zero_le _) (by omega) fun h => hd.calm (hcalm h)

namespace Local

theorem weaken (h : Local u calm lo hi k p m m') (hk : j ≤ k) : Local u calm lo hi j p m m' where
  takes := h.takes.weaken hk
  tracks c hc hc' hcalm := (h.tracks c hc hc' hcalm).weaken hk (le_refl p)

theorem relax (h : Local u calm lo hi (k + 1) p m m') : Local u calm lo hi k p m m' :=
  h.weaken (Nat.le_succ k)

theorem of_short (h : Local u calm 0 hi k p m m') : Local u calm lo hi k p m m' where
  takes c a d _ hm := h.takes c a d (Nat.zero_le _) hm
  tracks c _ hc' hcalm := h.tracks c (Nat.zero_le _) hc' hcalm

theorem of_zero {m₂ : Parser α} (h : Local u calm lo 0 k p m m') :
    Local u calm lo 0 k p m₂ m' :=
  ⟨h.takes, fun _ _ hc => absurd hc (Nat.not_lt_zero _)⟩

theorem pure (a : α) : Local u calm lo hi 0 p (Pure.pure a) (Pure.pure a) where
  takes c a d _ h := by
    cases h
    exact ⟨List.suffix_rfl, le_refl _⟩
  tracks c _ _ _ := .inl ⟨a, c, rfl, rfl, .refl c⟩

theorem refuse : Local u calm lo hi k p (Parser.refuse : Parser α) Parser.refuse where
  takes c a d _ h := by cases h
  tracks c _ _ _ := .inr ⟨fun _ => ⟨_, rfl⟩, fun a d h => by cases h⟩

theorem refuse_bind : Local u calm lo hi k p ((Parser.refuse : Parser α) >>= f)
    (Parser.refuse >>= f') where
  takes c a d _ h := by cases h
  tracks c _ _ _ := .inr ⟨fun _ => ⟨_, rfl⟩, fun a d h => by cases h⟩

theorem ite {s : Prop} [Decidable s] {x x' y y' : Parser α} (hx : Local u calm lo hi k p x x')
    (hy : Local u calm lo hi k p y y') :
    Local u calm lo hi k p (if s then x else y) (if s then x' else y') := by
  split
  · exact hx
  · exact hy

theorem bind_of_le (hm : Local u calm lo hi i q m m')
    (hf : ∀ a, Local u calm 0 (hi - i) (k - i) p (f a) (f' a)) (hp : p ≤ q + (k - i)) :
    Local u calm lo hi k p (m >>= f) (m' >>= f') where
  takes := (hm.takes.bind fun a => (hf a).takes).weaken (by omega)
  tracks c hc hc' hcalm := (hm.tracks c hc hc' hcalm).bind_local hc' hcalm hf hp

theorem bind (hm : Local u calm lo hi i 1 m m')
    (hf : ∀ a, Local u calm 0 (hi - i) (k - i) 1 (f a) (f' a)) :
    Local u calm lo hi k 1 (m >>= f) (m' >>= f') :=
  hm.bind_of_le hf (Nat.le_add_right 1 _)

theorem bind_zero (hm : Local u calm lo hi i q m m')
    (hf : ∀ a, Local u calm 0 (hi - i) (k - i) 0 (f a) (f' a)) :
    Local u calm lo hi k 0 (m >>= f) (m' >>= f') :=
  hm.bind_of_le hf (Nat.zero_le _)

theorem change {g : Cursor → Cursor} (hrest : ∀ c, (g c).rest <:+ c.rest)
    (hspaced : ∀ c, (g c).spaced = c.spaced) (hbefore : ∀ c, g (c.before u) = (g c).before u) :
    Local u calm lo hi 0 1 (modify g : Parser Unit) (modify g) where
  takes c a d _ h := by
    cases h
    exact ⟨hrest c, (hrest c).length_le⟩
  tracks c _ _ _ := by
    refine .inl ⟨(), g c, rfl, ?_, .of_suffix (hrest c) (hrest c).length_le (hspaced c)⟩
    rw [← hbefore]
    rfl

theorem peek_of_le {f f' : Char → Parser β} (hf : ∀ a, Local u calm 1 hi k p (f a) (f' a))
    (hp : p ≤ k) : Local u calm lo hi k p (Parser.peek >>= f) (Parser.peek >>= f') where
  takes c b e _ h := by
    obtain ⟨a, d, hok, hb⟩ := run_bind_eq_ok h
    cases hc : c.rest with
    | nil =>
      rw [run_peek_nil hc] at hok
      cases hok
    | cons x xs =>
      rw [run_peek_cons hc] at hok
      cases hok
      rw [← hc]
      exact (hf _).takes c b e (by simp [hc]) hb
  tracks c _ hc' hcalm := by
    cases hc : c.rest with
    | nil =>
      have hbefore : (c.before u).rest = ')' :: u := by simp [hc]
      refine .inr ⟨fun _ => ⟨_, run_bind_of_error (run_peek_nil hc)⟩, fun b e h => ?_⟩
      rw [run_bind_of_ok (run_peek_cons hbefore)] at h
      have hlength := ((hf ')').takes _ b e (by simp [hc]) h).2
      rw [hbefore, List.length_cons] at hlength
      omega
    | cons x xs =>
      have hbefore : (c.before u).rest = x :: (xs ++ ')' :: u) := by simp [hc]
      refine .of_ok (run_peek_cons hc) (run_peek_cons hbefore) (.refl c) ?_
      exact (hf x).tracks c (by simp [hc]) hc' hcalm

theorem peek {f f' : Char → Parser β} (hf : ∀ a, Local u calm 1 hi (k + 1) 1 (f a) (f' a)) :
    Local u calm lo hi (k + 1) 1 (Parser.peek >>= f) (Parser.peek >>= f') :=
  .peek_of_le hf (Nat.le_add_left 1 k)

theorem peek_zero {f f' : Char → Parser β} (hf : ∀ a, Local u calm 1 hi k 0 (f a) (f' a)) :
    Local u calm lo hi k 0 (Parser.peek >>= f) (Parser.peek >>= f') :=
  .peek_of_le hf (Nat.zero_le k)

theorem peek? {f f' : Option Char → Parser β}
    (hnone : ∀ a, a = none ∨ a = some ')' → Local u calm 0 hi k p (f none) (f' a))
    (hsome : ∀ a, Local u calm 1 hi k p (f (some a)) (f' (some a))) :
    Local u calm lo hi k p (Parser.peek? >>= f) (Parser.peek? >>= f') where
  takes c b e _ h := by
    rw [run_bind_of_ok (run_peek? c)] at h
    cases hc : c.rest with
    | nil =>
      rw [hc] at h
      rw [← hc]
      exact (hnone none (.inl rfl)).takes c b e (Nat.zero_le _) h
    | cons x xs =>
      rw [hc] at h
      rw [← hc]
      exact (hsome x).takes c b e (by simp [hc]) h
  tracks c _ hc' hcalm := by
    refine .of_ok (run_peek? c) (run_peek? _) (.refl c) ?_
    cases hc : c.rest with
    | nil =>
      have hbefore : (c.before u).rest.head? = some ')' := by simp [hc]
      rw [hbefore]
      exact (hnone _ (.inr rfl)).tracks c (Nat.zero_le _) hc' hcalm
    | cons x xs =>
      have hbefore : (c.before u).rest.head? = some x := by simp [hc]
      rw [hbefore]
      exact (hsome x).tracks c (by simp [hc]) hc' hcalm

theorem rest {f f' : List Char → Parser β}
    (hf : ∀ hi' r r', (0 < hi' → hi' = r.length + 1 ∧ r' = r ++ ')' :: u) →
      Local u calm lo hi' k p (f r) (f' r')) :
    Local u calm lo hi k p (Parser.rest >>= f) (Parser.rest >>= f') where
  takes c b e hc h := by
    rw [run_bind_of_ok (run_rest c)] at h
    exact (hf 0 [] c.rest (fun h => absurd h (lt_irrefl 0))).takes c b e hc h
  tracks c hc _ hcalm := by
    refine .of_ok (run_rest c) (run_rest _) (.refl c) ?_
    exact (hf _ c.rest _ fun _ => ⟨rfl, rfl⟩).tracks c hc (Nat.lt_succ_self _) hcalm

end Local

theorem local_bump : Local u calm 1 hi 1 1 bump bump where
  takes c a d hc h := by
    cases h
    refine ⟨List.drop_suffix 1 c.rest, ?_⟩
    rw [List.length_drop]
    omega
  tracks c hc _ _ := by
    have hdrop : (c.rest ++ ')' :: u).drop 1 = c.rest.drop 1 ++ ')' :: u :=
      List.drop_append_of_le_length hc
    refine .inl ⟨(), { c with rest := c.rest.drop 1 }, rfl, ?_, ?_⟩
    · change Except.ok ((), { c with rest := (c.rest ++ ')' :: u).drop 1 }) = _
      rw [hdrop]
      rfl
    · refine .of_suffix (List.drop_suffix 1 c.rest) ?_ rfl
      change (c.rest.drop 1).length + 1 ≤ c.rest.length
      rw [List.length_drop]
      omega

theorem dropBlanks_suffix (inside : Bool) (r : List Char) : dropBlanks inside r <:+ r := by
  induction r generalizing inside with
  | nil => cases inside <;> exact List.suffix_rfl
  | cons x xs ih =>
    have hcons : xs <:+ x :: xs := List.suffix_cons x xs
    cases inside with
    | true => exact (ih _).trans hcons
    | false =>
      rw [dropBlanks]
      split
      · exact (ih false).trans hcons
      · split
        · exact (ih true).trans hcons
        · exact List.suffix_rfl

/-- Only a comment without an end hides a closing parenthesis, and it hides the end of the text. -/
theorem dropBlanks_before (u : List Char) (inside : Bool) (r : List Char) :
    dropBlanks inside (r ++ ')' :: u) = dropBlanks inside r ++ ')' :: u ∨
      ((dropBlanks inside (r ++ ')' :: u)).length ≤ u.length ∧ dropBlanks inside r = []) ∧
        (inside = true ∧ '\n' ∉ r ∨ ∃ v, '#' :: v <:+ r ∧ '\n' ∉ v) := by
  induction r generalizing inside with
  | nil =>
    cases inside with
    | true => exact .inr ⟨⟨(dropBlanks_suffix _ u).length_le, rfl⟩, .inl ⟨rfl, by simp⟩⟩
    | false => exact .inl rfl
  | cons x xs ih =>
    have hcons : ∀ v, '#' :: v <:+ xs → '#' :: v <:+ x :: xs := fun v h =>
      h.trans (List.suffix_cons x xs)
    cases inside with
    | true =>
      rw [List.cons_append, dropBlanks, dropBlanks]
      obtain h | ⟨hlate, h⟩ := ih (x ≠ '\n')
      · exact .inl h
      · refine .inr ⟨hlate, ?_⟩
        obtain ⟨hx, hxs⟩ | ⟨v, hv, hn⟩ := h
        · refine .inl ⟨rfl, ?_⟩
          simp only [List.mem_cons, not_or]
          exact ⟨(of_decide_eq_true hx).symm, hxs⟩
        · exact .inr ⟨v, hcons v hv, hn⟩
    | false =>
      rw [List.cons_append, dropBlanks, dropBlanks]
      split
      · obtain h | ⟨hlate, h⟩ := ih false
        · exact .inl h
        · obtain ⟨hfalse, _⟩ | ⟨v, hv, hn⟩ := h
          · cases hfalse
          · exact .inr ⟨hlate, .inr ⟨v, hcons v hv, hn⟩⟩
      · split
        case isTrue hx =>
          obtain h | ⟨hlate, h⟩ := ih true
          · exact .inl h
          · obtain ⟨_, hxs⟩ | ⟨v, hv, hn⟩ := h
            · exact .inr ⟨hlate, .inr ⟨xs, hx ▸ List.suffix_rfl, hxs⟩⟩
            · exact .inr ⟨hlate, .inr ⟨v, hcons v hv, hn⟩⟩
        case isFalse => exact .inl rfl

def skipped (c : Cursor) : Cursor :=
  if c.spaced then { c with rest := dropBlanks false c.rest } else c

theorem run_skip (c : Cursor) : skip.run c = .ok ((), skipped c) := rfl

theorem after_skipped (c : Cursor) : (skipped c).After 0 c := by
  rw [skipped]
  split
  · have hsuffix := dropBlanks_suffix false c.rest
    exact .of_suffix hsuffix hsuffix.length_le rfl
  · exact .refl c

theorem skipped_before (u : List Char) (c : Cursor) :
    skipped (c.before u) = (skipped c).before u ∨
      ((skipped (c.before u)).rest.length ≤ u.length ∧ (skipped c).rest = []) ∧ ¬c.Calm := by
  rw [skipped, skipped, Cursor.spaced_before]
  split
  case isFalse => exact .inl rfl
  case isTrue hspaced =>
    rw [Cursor.rest_before]
    obtain h | ⟨hlate, h⟩ := dropBlanks_before u false c.rest
    · rw [h]
      exact .inl rfl
    · refine .inr ⟨hlate, fun hcalm => ?_⟩
      obtain ⟨hfalse, _⟩ | ⟨v, hv, hn⟩ := h
      · cases hfalse
      · obtain hcalm | ⟨hunspaced, _⟩ := hcalm
        · exact hn (hcalm v hv)
        · rw [hspaced] at hunspaced
          cases hunspaced

theorem local_skip : Local u calm lo hi 0 1 skip skip where
  takes c a d _ h := by
    cases h
    exact ⟨(after_skipped c).suffix, (after_skipped c).length⟩
  tracks c _ _ hcalm := by
    obtain h | ⟨hlate, h⟩ := skipped_before u c
    · exact .inl ⟨(), skipped c, rfl, by rw [run_skip, h], after_skipped c⟩
    · refine .inr ⟨fun hc => absurd (hcalm hc) h, fun a d hd => ?_⟩
      cases hd
      exact Nat.succ_le_succ hlate.1

theorem local_bumpSkip : Local u calm 1 hi 1 1 bumpSkip bumpSkip :=
  local_bump.bind fun _ => local_skip

theorem isPrefixOf_before {s : List Char} (hs : ')' ∉ s) (u r : List Char) :
    s.isPrefixOf (r ++ ')' :: u) = s.isPrefixOf r := by
  induction s generalizing r with
  | nil => cases r <;> rfl
  | cons x xs ih =>
    rw [List.mem_cons, not_or] at hs
    cases r with
    | nil =>
      have hx : (x == ')') = false := beq_false_of_ne (Ne.symm hs.1)
      change (x == ')' && xs.isPrefixOf u) = false
      rw [hx, Bool.false_and]
    | cons y ys => rw [List.cons_append, List.isPrefixOf, List.isPrefixOf, ih hs.2]

theorem run_eat_of_true {s : String} (h : s.toList.isPrefixOf c.rest = true) :
    (eat s).run c = .ok (true, { c with rest := c.rest.drop s.toList.length }) := by
  rw [eat, run_bind_of_ok (run_rest c), if_pos h]
  rfl

theorem run_eat_of_false {s : String} (h : s.toList.isPrefixOf c.rest = false) :
    (eat s).run c = .ok (false, c) := by
  rw [eat, run_bind_of_ok (run_rest c), if_neg (Bool.not_eq_true _ ▸ h)]
  rfl

theorem rest_of_eat {s : String} (h : (eat s).run c = .ok (true, d)) :
    c.rest = s.toList ++ d.rest := by
  cases heat : s.toList.isPrefixOf c.rest with
  | true =>
    rw [run_eat_of_true heat] at h
    cases h
    exact List.prefix_iff_eq_append.1 (List.isPrefixOf_iff_prefix.1 heat) |>.symm
  | false =>
    rw [run_eat_of_false heat] at h
    cases h

theorem Local.eat {s : String} {f f' : Bool → Parser β} (hs : ')' ∉ s.toList)
    (hn : j ≤ s.toList.length) (htrue : Local u calm 0 (hi - j) (k - j) p (f true) (f' true))
    (hfalse : Local u calm lo hi k p (f false) (f' false)) :
    Local u calm lo hi k p (Parser.eat s >>= f) (Parser.eat s >>= f') where
  takes c b e hc h := by
    cases heat : s.toList.isPrefixOf c.rest with
    | true =>
      have hle := (List.isPrefixOf_iff_prefix.1 heat).length_le
      rw [run_bind_of_ok (run_eat_of_true heat)] at h
      obtain ⟨hrest, hlength⟩ := htrue.takes _ b e (Nat.zero_le _) h
      rw [List.length_drop] at hlength
      exact ⟨hrest.trans (List.drop_suffix _ _), by omega⟩
    | false =>
      rw [run_bind_of_ok (run_eat_of_false heat)] at h
      exact hfalse.takes c b e hc h
  tracks c hc hc' hcalm := by
    have hsame := isPrefixOf_before hs u c.rest
    cases heat : s.toList.isPrefixOf c.rest with
    | true =>
      have hle := (List.isPrefixOf_iff_prefix.1 heat).length_le
      have hdrop : (c.rest ++ ')' :: u).drop s.toList.length =
          c.rest.drop s.toList.length ++ ')' :: u := List.drop_append_of_le_length hle
      have hafter : Cursor.After j { c with rest := c.rest.drop s.toList.length } c := by
        refine .of_suffix (List.drop_suffix _ _) ?_ rfl
        change (c.rest.drop s.toList.length).length + j ≤ c.rest.length
        rw [List.length_drop]
        omega
      have hok : (Parser.eat s).run (c.before u) =
          .ok (true, Cursor.before u { c with rest := c.rest.drop s.toList.length }) := by
        rw [run_eat_of_true (hsame.trans heat), Cursor.rest_before, hdrop]
        rfl
      refine .of_ok (run_eat_of_true heat) hok hafter ?_
      · have hlength := hafter.length
        exact htrue.tracks _ (Nat.zero_le _) (by omega) fun h => hafter.calm (hcalm h)
    | false =>
      refine .of_ok (run_eat_of_false heat) (run_eat_of_false (hsame.trans heat)) (.refl c) ?_
      exact hfalse.tracks c hc hc' hcalm

theorem local_eat {s : String} (hs : ')' ∉ s.toList) :
    Local u calm lo hi 0 1 (eat s) (eat s) := by
  have h : Local u calm lo hi 0 1 (eat s >>= pure) (eat s >>= pure) :=
    .eat hs (Nat.zero_le _) (.pure true) (.pure false)
  rwa [bind_pure] at h

section TakeSkipping

variable {t : Char → Bool} {n n' : Nat} {x : Char} {xs : List Char}

theorem takeSkipping_of_stop (h : ∀ x ∈ c.rest.head?, t x = false) :
    (takeSkipping t n).run c = .ok ([], c) := by
  cases n with
  | zero => rfl
  | succ n =>
    rw [takeSkipping, run_bind_of_ok (run_peek? c)]
    cases hc : c.rest.head? with
    | none => rfl
    | some x =>
      have hx : ¬t x = true := by simp [h x hc]
      simp only [if_neg hx, run_pure]

theorem takeSkipping_of_cons (hc : c.rest = x :: xs) (hx : t x = true) :
    (takeSkipping t (n + 1)).run c =
      (takeSkipping t n >>= fun cs => pure (x :: cs)).run (skipped { c with rest := xs }) := by
  have hbump : bumpSkip.run c = .ok ((), skipped { c with rest := xs }) := by
    change Except.ok ((), skipped { c with rest := c.rest.drop 1 }) = _
    rw [hc, List.drop_succ_cons, List.drop_zero]
  rw [takeSkipping, run_bind_of_ok (run_peek? c), hc]
  simp only [List.head?_cons, if_pos hx, run_bind_of_ok hbump]

theorem after_cons (hc : c.rest = x :: xs) : Cursor.After 1 (skipped { c with rest := xs }) c := by
  have hdrop : Cursor.After 1 { c with rest := xs } c :=
    .of_suffix (hc ▸ List.suffix_cons x xs) (by simp [hc]) rfl
  exact hdrop.trans (after_skipped _)

theorem takeSkipping_ok (t : Char → Bool) (n : Nat) (c : Cursor) :
    ∃ cs d, (takeSkipping t n).run c = .ok (cs, d) ∧ d.After 0 c := by
  induction n generalizing c with
  | zero => exact ⟨[], c, rfl, .refl c⟩
  | succ n ih =>
    by_cases h : ∃ x xs, c.rest = x :: xs ∧ t x = true
    · obtain ⟨x, xs, hc, hx⟩ := h
      obtain ⟨cs, d, hd, hafter⟩ := ih (skipped { c with rest := xs })
      refine ⟨x :: cs, d, ?_, ((after_cons hc).trans hafter).weaken (Nat.zero_le _)⟩
      rw [takeSkipping_of_cons hc hx, run_bind_of_ok hd, run_pure]
    · refine ⟨[], c, takeSkipping_of_stop fun x hx => ?_, .refl c⟩
      obtain ⟨xs, hc⟩ := List.head?_eq_some_iff.1 hx
      exact Bool.eq_false_iff.2 fun ht => h ⟨x, xs, hc, ht⟩

theorem takeSkipping_late (hc : c.rest.length ≤ u.length) {a : List Char}
    (h : (takeSkipping t n >>= fun xs => pure (x :: xs)).run c = .ok (a, e)) :
    e.rest.length ≤ u.length := by
  obtain ⟨cs, d, hd, hafter⟩ := takeSkipping_ok t n c
  rw [run_bind_of_ok hd] at h
  cases h
  exact hafter.length.trans hc

def SameStretch (u : List Char) (t : Char → Bool) (n n' : Nat) (c : Cursor) : Prop :=
  ∃ cs d, (takeSkipping t n).run c = .ok (cs, d) ∧ d.After 0 c ∧
    ((takeSkipping t n').run (c.before u) = .ok (cs, d.before u) ∨
      (c.Calm → t ')' = true ∧ d.rest = []) ∧ ∀ a e,
        (takeSkipping t n').run (c.before u) = .ok (a, e) → e.rest.length ≤ u.length)

theorem sameStretch_nil (hc : c.rest = []) : SameStretch u t n (n' + 1) c := by
  have hbefore : (c.before u).rest = ')' :: u := by simp [hc]
  refine ⟨[], c, takeSkipping_of_stop (by simp [hc]), .refl c, ?_⟩
  cases ht : t ')' with
  | false => exact .inl (takeSkipping_of_stop (by simp [hc, ht]))
  | true =>
    refine .inr ⟨fun _ => ⟨rfl, hc⟩, fun a e h => ?_⟩
    rw [takeSkipping_of_cons hbefore ht] at h
    exact takeSkipping_late (after_skipped _).length h

theorem sameStretch (hn : c.rest.length ≤ n) (hn' : c.rest.length ≤ n') :
    SameStretch u t n (n' + 1) c := by
  induction n generalizing c n' with
  | zero => exact sameStretch_nil (List.eq_nil_of_length_eq_zero (Nat.le_zero.1 hn))
  | succ n ih =>
    cases hc : c.rest with
    | nil => exact sameStretch_nil hc
    | cons x xs =>
      have hbefore : (c.before u).rest = x :: (xs ++ ')' :: u) := by simp [hc]
      cases hx : t x with
      | false =>
        exact ⟨[], c, takeSkipping_of_stop (by simp [hc, hx]), .refl c,
          .inl (takeSkipping_of_stop (by simp [hc, hx]))⟩
      | true =>
        have hfirst := after_cons hc
        have hlength := hfirst.length
        obtain ⟨n', rfl⟩ : ∃ l, n' = l + 1 := ⟨n' - 1, by omega⟩
        have hlater : SameStretch u t n (n' + 1) (skipped { c with rest := xs }) :=
          ih (by omega) (by omega)
        obtain ⟨cs, d, hd, hafter, hsame⟩ := hlater
        refine ⟨x :: cs, d, ?_, (hfirst.trans hafter).weaken (Nat.zero_le _), ?_⟩
        · rw [takeSkipping_of_cons hc hx, run_bind_of_ok hd, run_pure]
        rw [takeSkipping_of_cons hbefore hx]
        obtain hskip | ⟨hlate, hcalm⟩ := skipped_before u { c with rest := xs }
        · change skipped { c with rest := xs ++ ')' :: u } = _ at hskip
          rw [Cursor.before, hskip]
          obtain hsame | ⟨hend, hlate⟩ := hsame
          · exact .inl (by rw [run_bind_of_ok hsame, run_pure])
          · refine .inr ⟨fun h => hend (hfirst.calm h), fun a e h => ?_⟩
            obtain ⟨b, e', hb, h⟩ := run_bind_eq_ok h
            cases h
            exact hlate b _ hb
        · have hsuffix : xs <:+ c.rest := hc ▸ List.suffix_cons x xs
          refine .inr ⟨fun h => (hcalm (h.of_suffix hsuffix rfl)).elim, fun a e h => ?_⟩
          exact takeSkipping_late hlate.1 h

theorem Local.takeSkipping {f f' : List Char → Parser β}
    (hf : ∀ cs, Local u calm 0 hi k 1 (f cs) (f' cs))
    (hend : t ')' = true → ∀ cs c, c.rest = [] → ∃ r, (f cs).run c = .error r) :
    Local u calm lo hi k 1 (Parser.rest >>= fun r => Parser.takeSkipping t r.length >>= f)
      (Parser.rest >>= fun r => Parser.takeSkipping t r.length >>= f') where
  takes c b e _ h := by
    obtain ⟨cs, d, hd, hafter⟩ := takeSkipping_ok t c.rest.length c
    rw [run_bind_of_ok (run_rest c), run_bind_of_ok hd] at h
    obtain ⟨hrest, hlength⟩ := (hf cs).takes d b e (Nat.zero_le _) h
    exact ⟨hrest.trans hafter.suffix, hlength.trans hafter.length⟩
  tracks c _ hc' hcalm := by
    have hlength : (c.before u).rest.length = c.rest.length + u.length + 1 := by simp; omega
    refine .of_ok (run_rest c) (run_rest _) (.refl c) ?_
    rw [hlength]
    obtain ⟨cs, d, hd, hafter, hsame⟩ :=
      sameStretch (u := u) (t := t) (le_refl c.rest.length) (Nat.le_add_right _ u.length)
    obtain hsame | ⟨hstop, hlate⟩ := hsame
    · refine .of_ok hd hsame hafter ?_
      have hle := hafter.length
      exact (hf cs).tracks d (Nat.zero_le _) (by omega) fun h => hafter.calm (hcalm h)
    · refine .inr ⟨fun h => ?_, fun a e h => ?_⟩
      · obtain ⟨ht, hnil⟩ := hstop (hcalm h)
        obtain ⟨r, hr⟩ := hend ht cs d hnil
        exact ⟨r, by rw [run_bind_of_ok hd, hr]⟩
      · obtain ⟨xs, e', he', h⟩ := run_bind_eq_ok h
        have hle := hlate xs e' he'
        have hle' := ((hf xs).takes e' a e (Nat.zero_le _) h).2
        omega

end TakeSkipping

end Parser

end StubHttp.Pattern
