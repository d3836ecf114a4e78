import StubHttp.Matcher
import StubHttp.Proofs.Pattern.Expr
import StubHttp.Proofs.Pattern.Ordered

/-!
# Patterns of whole values

A whole value is matched by text written around the required pattern, so the pattern can end the
group that is meant to hold it, or hide its end. Where it stays apart (`Pattern.Apart`) and is not too
large, it compiles exactly if it is a pattern by itself, and a value is accepted exactly if this
pattern matches all of it. The two readings, of the pattern alone and of the text around it, are
compared by `Parser.local_expr`.
-/
namespace StubHttp.Pattern

variable {p q t : List Char} {a b : Ast} {r : Regex}

def Ast.between (a : Ast) : Ast :=
  .concat [.anchor .caret, .group (some ⟨[], []⟩) false a, .anchor .dollar]

def Regex.between (r : Regex) : Regex :=
  .seq (.look .textStart) (.seq (.group false r) (.look .textEnd))

theorem Ast.depth_between (a : Ast) : a.between.depth = a.depth + 2 := by
  simp only [between, depth, depths]
  omega

theorem Ast.meaning_between (a : Ast) : a.between.meaning .default =
    (a.meaning .default).map fun x => (x.1.between, .default) := by
  have hflags : Flags.default.change ⟨[], []⟩ = .default := rfl
  simp only [between, meaning, meanings, bind, Except.bind, hflags]
  cases a.meaning .default with
  | error e => rfl
  | ok x => rfl

def wholeOf (p : List Char) : List Char := '^' :: '(' :: '?' :: ':' :: (p ++ [')', '$'])

theorem toList_whole (p : String) : (whole p).toList = wholeOf p.toList := by
  simp [whole, wholeOf, toString]

def Reads (p : List Char) (a : Ast) : Prop :=
  ∃ spaced names, (Parser.expr (3 * p.length + 3) [] []).run ⟨p, false, []⟩ =
    .ok (a, ⟨[], spaced, names⟩)

theorem Reads.parse (h : Reads p a) :
    Ast.parse p = if a.depth ≤ maxDepth then .ok a else .error .tooDeep := by
  obtain ⟨spaced, names, h⟩ := h
  rw [Ast.parse, h]
  rfl

theorem parse_eq_ok_iff : Ast.parse p = .ok a ↔ Reads p a ∧ a.depth ≤ maxDepth := by
  constructor
  · intro h
    obtain ⟨⟨b, rest, spaced, names⟩, hb, h⟩ := bind_eq_ok h
    dsimp only at h
    split at h
    case isFalse => cases h
    case isTrue hrest =>
      split at h
      case isFalse => cases h
      case isTrue hdepth =>
        cases h
        rw [List.isEmpty_iff.1 hrest] at hb
        exact ⟨⟨spaced, names, hb⟩, hdepth⟩
  · intro ⟨h, hdepth⟩
    rw [h.parse, if_pos hdepth]

theorem Reads.parse_ne (h : Reads p a) : Ast.parse p ≠ .error .malformed := by
  rw [h.parse]
  split <;> simp

namespace Parser

theorem run_openWhole (n : Nat) (r : List Char) :
    (expr (n + 2) [] []).run ⟨'^' :: '(' :: '?' :: ':' :: r, false, []⟩ =
      (expr n [] [] >>= fun a => closeGroup false >>= fun _ =>
        expr n [] [.group (some ⟨[], []⟩) false a, .anchor .caret]).run ⟨r, false, []⟩ := rfl

theorem run_closeWhole (n : Nat) (a : Ast) (names : List (List Char)) :
    (expr (n + 2) [] [.group (some ⟨[], []⟩) false a, .anchor .caret]).run
      ⟨['$'], false, names⟩ = .ok (a.between, ⟨[], false, names⟩) := rfl

variable {n : Nat} {calm : Prop}

theorem tracks_pattern (hp : calm → Cursor.Calm ⟨p, false, []⟩) (hn : 3 * p.length + 3 ≤ n) :
    Tracks t calm 0 1 (expr (3 * p.length + 3) [] []) (expr n [] []) ⟨p, false, []⟩ := by
  have hlocal : Local t calm 0 (p.length + 1) 0 1 (expr (3 * p.length + 3) [] []) (expr n [] []) :=
    local_expr n _ _ _ [] [] fun _ => by omega
  exact hlocal.tracks ⟨p, false, []⟩ (Nat.zero_le _) (Nat.lt_succ_self _) hp

/-- A pattern that is read up to a closing parenthesis is read alone. -/
theorem reads_of_run {d : Cursor} (hn : 3 * q.length + 3 ≤ n)
    (h : (expr n [] []).run ⟨q ++ ')' :: t, false, []⟩ = .ok (a, d)) (hd : d.rest = ')' :: t) :
    Reads q a := by
  obtain ⟨b, e, hb, hb', _⟩ | ⟨_, hlate⟩ := tracks_pattern (t := t) False.elim hn
  · obtain ⟨rfl, rfl⟩ : b = a ∧ e.before t = d := by simpa using hb'.symm.trans h
    have hrest : e.rest = [] := by simpa using hd
    obtain ⟨rest, spaced, names⟩ := e
    exact ⟨spaced, names, hrest ▸ hb⟩
  · have hlength := hlate a d h
    rw [hd, List.length_cons] at hlength
    omega

theorem run_of_reads (hn : 3 * p.length + 3 ≤ n) (hp : Cursor.Calm ⟨p, false, []⟩)
    (h : Reads p a) : ∃ spaced names, (expr n [] []).run ⟨p ++ ')' :: t, false, []⟩ =
      .ok (a, ⟨')' :: t, spaced, names⟩) := by
  obtain ⟨spaced, names, h⟩ := h
  obtain ⟨b, e, hb, hb', _⟩ | ⟨hfail, _⟩ := tracks_pattern (t := t) (fun _ : True => hp) hn
  · obtain ⟨rfl, rfl⟩ : a = b ∧ (⟨[], spaced, names⟩ : Cursor) = e := by
      simpa using h.symm.trans hb
    exact ⟨spaced, names, hb'⟩
  · obtain ⟨e, he⟩ := hfail trivial
    rw [h] at he
    cases he

end Parser

theorem length_wholeOf (p : List Char) : 3 * (wholeOf p).length + 3 = 3 * p.length + 19 + 2 := by
  simp [wholeOf]
  omega

theorem Reads.whole (hp : Cursor.Calm ⟨p, false, []⟩) (h : Reads p a) :
    Reads (wholeOf p) a.between := by
  have hfuel : 3 * p.length + 3 ≤ 3 * p.length + 19 := by omega
  obtain ⟨spaced, names, hinside⟩ := Parser.run_of_reads (t := ['$']) hfuel hp h
  refine ⟨false, names, ?_⟩
  rw [length_wholeOf, wholeOf, Parser.run_openWhole, Parser.run_bind_of_ok hinside,
    Parser.run_bind_of_ok (Parser.run_closeGroup rfl)]
  exact Parser.run_closeWhole _ a names

/-- The group ends at the parenthesis written for it or at one of the pattern. -/
theorem split_at_close (h : p ++ [')', '$'] = q ++ ')' :: t) :
    q = p ∧ t = ['$'] ∨ ∃ s, p = q ++ ')' :: s := by
  obtain ⟨s, hp, hs⟩ | ⟨s, rfl, hs⟩ := List.append_eq_append_iff.1 h.symm
  · cases s with
    | nil =>
      refine .inl ⟨?_, ?_⟩
      · simpa using hp.symm
      · simpa using hs
    | cons x s =>
      obtain ⟨rfl, _⟩ := List.cons_eq_cons.1 hs
      exact .inr ⟨s, hp⟩
  · cases s with
    | nil =>
      refine .inl ⟨List.append_nil p, ?_⟩
      simpa using hs.symm
    | cons x s =>
      obtain ⟨rfl, hs⟩ := List.cons_eq_cons.1 hs
      cases s <;> simp at hs

theorem reads_of_whole (h : Reads (wholeOf p) b) : (∃ a, Reads p a ∧ b = a.between) ∨
    ∃ q s a, p = q ++ ')' :: s ∧ Reads q a := by
  obtain ⟨spaced, names, h⟩ := h
  rw [length_wholeOf, wholeOf, Parser.run_openWhole] at h
  obtain ⟨a, d, hinside, h⟩ := Parser.run_bind_eq_ok h
  -- a parenthesis closes the group, its own or one of the pattern
  obtain ⟨t, ht⟩ : ∃ t, d.rest = ')' :: t := by
    by_contra hnone
    have hclose : d.rest.head? ≠ some ')' := by
      intro hhead
      exact hnone (List.head?_eq_some_iff.1 hhead)
    rw [Parser.run_bind_of_error (Parser.run_closeGroup_error hclose)] at h
    cases h
  have hlocal : Parser.Local [] False 0 0 0 1 (Parser.expr (3 * p.length + 19) [] [])
      (Parser.expr (3 * p.length + 19) [] []) := Parser.local_expr _ _ 0 0 [] [] (by simp)
  obtain ⟨q, hq⟩ : d.rest <:+ p ++ [')', '$'] := (hlocal.takes _ a d (Nat.zero_le _) hinside).1
  rw [ht] at hq
  rw [← hq] at hinside
  have hlength : q.length ≤ p.length + 1 := by
    have hlengths := congrArg List.length hq
    simp at hlengths
    omega
  have hreads : Reads q a := Parser.reads_of_run (by omega) hinside ht
  obtain ⟨rfl, rfl⟩ | ⟨s, hs⟩ := split_at_close hq.symm
  · refine .inl ⟨a, hreads, ?_⟩
    rw [Parser.run_bind_of_ok (Parser.run_closeGroup ht), Parser.run_closeWhole] at h
    cases h
    rfl
  · exact .inr ⟨q, s, a, hs, hreads⟩

/-- What keeps a pattern apart from the text around it: no comment runs to its end, no closing
parenthesis ends a pattern inside it, and it leaves room for two levels of nesting. -/
structure Apart (p : String) : Prop where
  comments : Cursor.Calm ⟨p.toList, false, []⟩
  closed : ∀ q s, p.toList = q ++ ')' :: s → Ast.parse q = .error .malformed
  nesting : ∀ a, Ast.parse p.toList = .ok a → a.depth + 2 ≤ maxDepth

theorem apart_of_not_mem {p : String} (hclose : ')' ∉ p.toList) (hcomment : '#' ∉ p.toList)
    (hdepth : ∀ a, Ast.parse p.toList = .ok a → a.depth + 2 ≤ maxDepth) : Apart p where
  comments := .inl fun v hv => absurd (hv.subset List.mem_cons_self) hcomment
  closed q s hq := absurd (by simp [hq]) hclose
  nesting := hdepth

theorem Apart.parse_whole {p : String} (hp : Apart p) : Ast.parse (whole p).toList = .ok b ↔
    ∃ a, Ast.parse p.toList = .ok a ∧ b = a.between := by
  rw [toList_whole, parse_eq_ok_iff]
  constructor
  · intro ⟨h, hdepth⟩
    obtain ⟨a, ha, rfl⟩ | ⟨q, s, a, hq, ha⟩ := reads_of_whole h
    · rw [Ast.depth_between] at hdepth
      exact ⟨a, parse_eq_ok_iff.2 ⟨ha, by omega⟩, rfl⟩
    · exact absurd (hp.closed q s hq) ha.parse_ne
  · intro ⟨a, ha, hb⟩
    subst hb
    rw [Ast.depth_between]
    exact ⟨(parse_eq_ok_iff.1 ha).1.whole hp.comments, hp.nesting a ha⟩

theorem Regex.read_eq_ok_iff {p : String} : Regex.read p = .ok r ↔
    ∃ a f, Ast.parse p.toList = .ok a ∧ a.meaning .default = .ok (r, f) := by
  constructor
  · intro h
    obtain ⟨a, ha, h⟩ := bind_eq_ok h
    obtain ⟨⟨r', f⟩, hr, h⟩ := bind_eq_ok h
    cases h
    exact ⟨a, f, ha, hr⟩
  · intro ⟨a, f, ha, hr⟩
    rw [Regex.read, ha]
    change (a.meaning .default >>= _) = _
    rw [hr]
    rfl

theorem Regex.ordered_of_read {p : String} (h : Regex.read p = .ok r) : r.Ordered := by
  obtain ⟨a, f, ha, hmeaning⟩ := Regex.read_eq_ok_iff.1 h
  exact Ast.ordered_of_parse ha _ r f hmeaning

theorem Regex.parse_eq_ok_iff {p : String} :
    Regex.parse p = .ok r ↔ Regex.read p = .ok r ∧ r.fits = true := by
  rw [Regex.parse]
  cases hread : Regex.read p with
  | error e => simp [bind, Except.bind]
  | ok x =>
    change (if x.fits then .ok x else .error Refusal.tooLarge) = Except.ok r ↔ _
    split
    case isTrue hfits =>
      constructor
      · intro h
        cases h
        exact ⟨rfl, hfits⟩
      · exact fun h => h.1
    case isFalse hfits =>
      constructor
      · intro h
        cases h
      · intro ⟨h, hr⟩
        cases h
        exact absurd hr hfits

theorem Apart.read_whole {p : String} (hp : Apart p) : Regex.read (whole p) = .ok r ↔
    ∃ x, Regex.read p = .ok x ∧ r = x.between := by
  simp only [Regex.read_eq_ok_iff]
  constructor
  · intro ⟨b, f, hb, hr⟩
    obtain ⟨a, ha, rfl⟩ := hp.parse_whole.1 hb
    rw [Ast.meaning_between] at hr
    cases hm : a.meaning .default with
    | error e =>
      rw [hm] at hr
      cases hr
    | ok x =>
      rw [hm] at hr
      cases hr
      exact ⟨x.1, ⟨a, x.2, ha, hm⟩, rfl⟩
  · intro ⟨x, ⟨a, f, ha, hm⟩, hr⟩
    subst hr
    refine ⟨a.between, .default, hp.parse_whole.2 ⟨a, ha, rfl⟩, ?_⟩
    rw [Ast.meaning_between, hm]
    rfl

theorem compile_eq_ok_iff {p : String} {found : String → Bool} : Engine.compile p = .ok found ↔
    ∃ r, Regex.parse p = .ok r ∧ found = fun value => r.found value.toList := by
  simp only [Engine.compile]
  cases Regex.parse p with
  | error e => simp
  | ok r => simp [eq_comm]

end StubHttp.Pattern

namespace StubHttp.Matcher

open Pattern

variable {p : String} {m : Matcher}

theorem compile_fits_eq_ok_iff : compile .fits p = .ok m ↔
    ∃ r, Regex.parse (whole p) = .ok r ∧ m = .fits fun value => r.found value.toList := by
  have hmap : compile .fits p = .ok m ↔
      ∃ found, Engine.compile (whole p) = .ok found ∧ m = .fits found := by
    rw [compile]
    cases Engine.compile (whole p) <;> simp [Except.map, eq_comm]
  simp only [hmap, compile_eq_ok_iff]
  constructor
  · intro ⟨_, ⟨r, hr, hfound⟩, hm⟩
    exact ⟨r, hr, hfound ▸ hm⟩
  · intro ⟨r, hr, hm⟩
    exact ⟨_, ⟨r, hr, rfl⟩, hm⟩

/-- No pattern accepts an absent value. A pattern that stays apart from the text around it compiles
exactly if it is a pattern by itself and not too large between the two marks, and accepts the values
that it matches from end to end. -/
theorem compile_fits_iff (p : String) :
    (∀ m, compile .fits p = .ok m → m.test none = false) ∧
      (Apart p →
        ((∃ m, compile .fits p = .ok m) ↔ ∃ r, Regex.read p = .ok r ∧ r.between.fits = true) ∧
          ∀ m, compile .fits p = .ok m → ∃ r, Regex.read p = .ok r ∧
            ∀ v : String, m.test (some v) = true ↔ r.Spans v.toList 0 v.toList.length) := by
  refine ⟨fun m _ => rfl, fun hp => ?_⟩
  simp only [compile_fits_eq_ok_iff, Regex.parse_eq_ok_iff, hp.read_whole]
  refine ⟨⟨?_, ?_⟩, ?_⟩
  · intro ⟨_, _, ⟨⟨r, hr, hbetween⟩, hfits⟩, _⟩
    subst hbetween
    exact ⟨r, hr, hfits⟩
  · intro ⟨r, hr, hfits⟩
    exact ⟨_, r.between, ⟨⟨r, hr, rfl⟩, hfits⟩, rfl⟩
  · intro m ⟨_, ⟨⟨r, hr, hbetween⟩, _⟩, hm⟩
    subst hbetween hm
    exact ⟨r, hr, fun v => Regex.found_whole_iff (Regex.ordered_of_read hr)⟩

-- A pattern that ends the group around it early, and one with a comment that hides its end.
example : (((Regex.parse "a)|(?:b").map fun _ => ()) = .error .malformed ∧
      (compile .fits "a)|(?:b").map (·.test (some "axyz")) = .ok true) ∧
    ((Regex.parse "(?x)a # c").map fun _ => ()) = .ok () ∧
      (compile .fits "(?x)a # c").map (·.test (some "a")) = .error "<regex error>" := by
  decide +kernel

end StubHttp.Matcher
