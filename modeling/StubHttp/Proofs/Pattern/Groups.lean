import StubHttp.Proofs.Pattern.Classes

/-!
# Groups and repetitions are local

The reader of a whole expression is local if its fuel is twice the length of the text. It is the one
that changes whether blanks count, so what it leaves is compared with where it began.
-/
namespace StubHttp.Pattern.Parser

variable {α β : Type} {m m' : Parser α} {f f' : α → Parser β} {c d e : Cursor}
  {u r : List Char} {calm : Prop} {lo hi i j k p q n n' : Nat}

theorem nameOf?_suffix {s : List Char × List Char} (h : nameOf? r = some s) :
    s.2 <:+ r ∧ s.2.length < r.length := by
  unfold nameOf? at h
  split at h
  case h_2 => cases h
  case h_1 r' _ hr =>
    split at h
    · cases h
      have hsuffix : '>' :: r' <:+ r := hr ▸ List.dropWhile_suffix _
      exact ⟨(List.suffix_cons '>' r').trans hsuffix, hsuffix.length_le⟩
    · cases h

theorem nameOf?_of_mem (h : ')' ∈ r.takeWhile (· ≠ '>')) : nameOf? r = none := by
  unfold nameOf?
  split
  case h_2 => rfl
  case h_1 x xs _ hname _ =>
    rw [hname] at h
    refine if_neg fun hvalid => ?_
    obtain rfl | hmem := List.mem_cons.1 h
    · exact absurd hvalid.1 (by decide)
    · exact absurd (List.all_eq_true.1 hvalid.2 ')' hmem) (by decide)

theorem nameOf?_before (u r : List Char) : nameOf? (r ++ ')' :: u) =
    (nameOf? r).map fun s => (s.1, s.2 ++ ')' :: u) := by
  by_cases hr : '>' ∈ r
  · obtain ⟨a, b, rfl, ha⟩ := List.eq_append_cons_of_mem hr
    rw [List.append_assoc, List.cons_append, nameOf?, nameOf?, takeWhile_ne_append_cons ha,
      takeWhile_ne_append_cons ha, dropWhile_ne_append_cons ha, dropWhile_ne_append_cons ha]
    cases a with
    | nil => rfl
    | cons x xs =>
      change (if isNameStart x = true ∧ xs.all isNameChar = true then _ else _) = Option.map _
        (if isNameStart x = true ∧ xs.all isNameChar = true then _ else _)
      split <;> rfl
  · have hname : ')' ∈ (r ++ ')' :: u).takeWhile (· ≠ '>') := by
      rw [takeWhile_ne_append hr]
      simp
    have hnone : r.dropWhile (· ≠ '>') = [] := by
      simpa using dropWhile_ne_append hr []
    rw [nameOf?_of_mem hname, nameOf?, hnone]
    cases r.takeWhile (· ≠ '>') <;> rfl

theorem run_groupName {s : List Char × List Char} (h : nameOf? c.rest = some s)
    (hs : s.1 ∉ c.names) :
    groupName.run c = .ok ((), { c with rest := s.2, names := s.1 :: c.names }) := by
  rw [groupName, run_bind_of_ok (run_rest c), h]
  dsimp only
  rw [run_bind_of_ok (run_get c), if_neg hs]
  rfl

theorem run_groupName_error (h : ∀ s ∈ nameOf? c.rest, s.1 ∈ c.names) :
    groupName.run c = .error .malformed := by
  rw [groupName, run_bind_of_ok (run_rest c)]
  cases hname : nameOf? c.rest with
  | none => rfl
  | some s =>
    dsimp only
    rw [run_bind_of_ok (run_get c), if_pos (h s hname)]
    rfl

theorem local_groupName : Local u calm lo hi 0 1 groupName groupName where
  takes c a d _ h := by
    by_cases hname : ∀ s ∈ nameOf? c.rest, s.1 ∈ c.names
    · rw [run_groupName_error hname] at h
      cases h
    · simp only [not_forall] at hname
      obtain ⟨s, hs, hnew⟩ := hname
      rw [run_groupName hs hnew] at h
      cases h
      have hsuffix := (nameOf?_suffix hs).1
      exact ⟨hsuffix, hsuffix.length_le⟩
  tracks c _ _ _ := by
    have hbefore := nameOf?_before u c.rest
    by_cases hname : ∀ s ∈ nameOf? c.rest, s.1 ∈ c.names
    · have hname' : ∀ s ∈ nameOf? (c.before u).rest, s.1 ∈ (c.before u).names := by
        intro s hs
        rw [Cursor.rest_before, hbefore] at hs
        obtain ⟨s', hs', rfl⟩ := Option.map_eq_some_iff.1 hs
        exact hname s' hs'
      rw [Tracks, run_groupName_error hname, run_groupName_error hname']
      exact .inr ⟨fun _ => ⟨_, rfl⟩, fun a d h => by cases h⟩
    · simp only [not_forall] at hname
      obtain ⟨s, hs, hnew⟩ := hname
      have hs' : nameOf? (c.before u).rest = some (s.1, s.2 ++ ')' :: u) := by
        rw [Cursor.rest_before, hbefore, hs]
        rfl
      have hsuffix := (nameOf?_suffix hs).1
      rw [Tracks, run_groupName hs hnew, run_groupName hs' hnew]
      exact .inl ⟨(), _, rfl, rfl, .of_suffix hsuffix hsuffix.length_le rfl⟩

theorem local_flags {minus dangling : Bool} {f : FlagChange} (h : 0 < hi → hi ≤ n ∧ n ≤ n') :
    Local u calm lo hi 0 0 (flags n minus dangling f) (flags n' minus dangling f) := by
  induction n' generalizing n lo hi minus dangling f with
  | zero =>
    obtain rfl : hi = 0 := by omega
    exact Local.refuse.of_zero
  | succ n' ih =>
    have hstep : ∀ n hi, (0 < hi → hi ≤ n + 1 ∧ n ≤ n') → Local u calm lo hi 0 0
        (flags (n + 1) minus dangling f) (flags (n' + 1) minus dangling f) := by
      intro n hi h
      refine .peek_zero fun c => .ite (.ite .refuse (.pure f)) (.ite (.ite .refuse_bind ?_) ?_)
      · exact .relax (.bind_zero local_bump fun _ => ih (by omega))
      · split
        · exact .refuse
        · exact .ite .refuse_bind (.relax (.bind_zero local_bump fun _ => ih (by omega)))
    cases n with
    | zero =>
      obtain rfl : hi = 0 := by omega
      exact (hstep 0 0 (by omega)).of_zero
    | succ n => exact hstep n hi (by omega)

theorem local_flagGroup : Local u calm lo hi 1 1 flagGroup flagGroup := by
  refine .rest fun hi' r r' h => .bind_of_le (local_flags fun hpos => ?_)
    (fun f => .peek fun c => ?_) (le_refl 1)
  · obtain ⟨hhi, hr⟩ := h hpos
    simp [hhi, hr]
  · exact .bind local_bump fun _ => .ite (.ite .refuse (.pure _)) (.pure _)

theorem local_nameMark : Local u calm lo hi 0 1 (eat "?P<" <||> eat "?<")
    (eat "?P<" <||> eat "?<") := by
  refine .bind (local_eat (by decide)) fun b => ?_
  cases b with
  | true => exact .pure true
  | false => exact local_eat (by decide)

theorem local_openGroup : Local u calm 1 hi 1 1 openGroup openGroup := by
  refine .bind local_bump fun _ => .bind local_skip fun _ => ?_
  refine .bind (local_eat (by decide)) fun _ => .bind (local_eat (by decide)) fun _ => ?_
  refine .bind (local_eat (by decide)) fun _ => .bind (local_eat (by decide)) fun _ => ?_
  refine .ite .refuse_bind (.bind local_nameMark fun _ => .ite ?_ ?_)
  · exact .bind local_groupName fun _ => .pure _
  · exact .bind (local_eat (by decide)) fun _ => .ite local_flagGroup.relax (.pure _)

theorem ofLetter?_ignoreSpace {x : Char} (h : Flag.ofLetter? x = some .ignoreSpace) : x = 'x' := by
  unfold Flag.ofLetter? at h
  split at h
  case h_7 => rfl
  all_goals cases h

theorem mem_takeWhile_cons {x y : Char} {t : Char → Bool} (hx : t x = true)
    (hy : y ∈ r.takeWhile t) : y ∈ (x :: r).takeWhile t := by
  rw [List.takeWhile_cons_of_pos hx]
  exact List.mem_cons_of_mem x hy

theorem flags_spaced {minus dangling : Bool} {f f' : FlagChange}
    (h : (flags n minus dangling f).run c = .ok (f', d)) (hx : .ignoreSpace ∈ f'.on) :
    .ignoreSpace ∈ f.on ∨ 'x' ∈ c.rest.takeWhile isFlagSign := by
  induction n generalizing minus dangling f c with
  | zero => cases h
  | succ n ih =>
    obtain ⟨x, c', hpeek, hstep⟩ := run_bind_eq_ok h
    obtain ⟨rfl, xs, hc⟩ := run_peek_eq_ok hpeek
    have hnext : ∀ {minus dangling f}, (bump >>= fun _ => flags n minus dangling f).run c' =
        .ok (f', d) → .ignoreSpace ∈ f.on ∨ 'x' ∈ xs.takeWhile isFlagSign := by
      intro minus dangling f h
      rw [run_bind_of_ok (run_bump hc)] at h
      exact ih h
    rw [hc]
    dsimp only at hstep
    split at hstep
    · split at hstep
      · cases hstep
      · cases hstep
        exact .inl hx
    · split at hstep
      case isTrue hminus =>
        subst hminus
        split at hstep
        · cases hstep
        · exact (hnext hstep).imp_right (mem_takeWhile_cons rfl)
      case isFalse =>
        split at hstep
        · cases hstep
        case h_2 y hy =>
          have hsign : isFlagSign x = true := by simp [isFlagSign, hy]
          split at hstep
          · cases hstep
          · obtain hon | hmem := hnext hstep
            · split at hon
              · exact .inl hon
              · obtain rfl | hon := List.mem_cons.1 hon
                · obtain rfl := ofLetter?_ignoreSpace hy
                  simp [hsign]
                · exact .inl hon
            · exact .inr (mem_takeWhile_cons hsign hmem)

def Opened.change? : Opened → Option FlagChange
  | setFlags f => some f
  | group f _ => f

def Opened.Spaces (o : Opened) : Prop := o.change?.bind (·.state? .ignoreSpace) = some true

theorem flagGroup_spaced {o : Opened} (h : flagGroup.run c = .ok (o, d)) (ho : o.Spaces) :
    'x' ∈ c.rest.takeWhile isFlagSign := by
  rw [flagGroup, run_bind_of_ok (run_rest c)] at h
  obtain ⟨f, c₁, hf, h⟩ := run_bind_eq_ok h
  have hchange : o.change? = some f := by
    obtain ⟨x, c₂, _, h⟩ := run_bind_eq_ok h
    obtain ⟨_, c₃, _, h⟩ := run_bind_eq_ok h
    split at h
    · split at h
      · cases h
      · cases h
        rfl
    · cases h
      rfl
  have hon : .ignoreSpace ∈ f.on := by
    rw [Opened.Spaces, hchange] at ho
    by_contra hnot
    have hstate : f.state? .ignoreSpace = some true := ho
    rw [FlagChange.state?, if_neg hnot] at hstate
    split at hstate <;> cases hstate
  obtain hnil | hmem := flags_spaced hf hon
  · cases hnil
  · exact hmem

theorem eat_takes {s : String} (hs : ')' ∉ s.toList) : Takes 0 0 (eat s) :=
  (local_eat hs : Local [] True 0 0 0 1 _ _).takes

theorem openGroup_spaced {o : Opened} (hc : 1 ≤ c.rest.length) (h : openGroup.run c = .ok (o, d))
    (ho : o.Spaces) : FlagX c.rest := by
  obtain ⟨_, c₁, h₁, h⟩ := run_bind_eq_ok h
  obtain ⟨_, c₂, h₂, h⟩ := run_bind_eq_ok h
  obtain ⟨_, c₃, h₃, h⟩ := run_bind_eq_ok h
  obtain ⟨_, c₄, h₄, h⟩ := run_bind_eq_ok h
  obtain ⟨_, c₅, h₅, h⟩ := run_bind_eq_ok h
  obtain ⟨_, c₆, h₆, h⟩ := run_bind_eq_ok h
  split at h
  · cases h
  obtain ⟨_, c₇, h₇, h⟩ := run_bind_eq_ok h
  split at h
  · obtain ⟨_, _, _, h⟩ := run_bind_eq_ok h
    cases h
    cases ho
  obtain ⟨_, c₈, h₈, h⟩ := run_bind_eq_ok h
  split at h
  case isTrue hmarked =>
    subst hmarked
    have hskip : Takes 0 0 skip := (local_skip : Local [] True 0 0 0 1 _ _).takes
    have hmark : Takes 0 0 (eat "?P<" <||> eat "?<") :=
      (local_nameMark : Local [] True 0 0 0 1 _ _).takes
    have hopen : c₂.rest <:+ c.rest := by
      have hbump : Takes 1 1 bump := (local_bump : Local [] True 1 0 1 1 _ _).takes
      exact (hskip _ _ _ (Nat.zero_le _) h₂).1.trans (hbump _ _ _ hc h₁).1
    have hlook : c₆.rest <:+ c₂.rest :=
      ((((eat_takes (by decide)) _ _ _ (Nat.zero_le _) h₆).1.trans
        ((eat_takes (by decide)) _ _ _ (Nat.zero_le _) h₅).1).trans
        ((eat_takes (by decide)) _ _ _ (Nat.zero_le _) h₄).1).trans
        ((eat_takes (by decide)) _ _ _ (Nat.zero_le _) h₃).1
    have hname : '?' :: c₈.rest <:+ c₆.rest := by
      have hrest : c₇.rest = '?' :: c₈.rest := rest_of_eat h₈
      rw [← hrest]
      exact (hmark _ _ _ (Nat.zero_le _) h₇).1
    exact ⟨c₈.rest, (hname.trans hlook).trans hopen, flagGroup_spaced h ho⟩
  case isFalse =>
    cases h
    cases ho

theorem local_bounds : Local u calm lo hi 0 0 bounds bounds := by
  refine .bind_zero local_decimal fun low => .peek_zero fun c => ?_
  split
  · exact .refuse
  · refine .ite (.relax ?_) (.pure _)
    refine .bind_zero local_bumpSkip fun _ => .peek_zero fun x => .ite (.pure _) ?_
    refine .bind_zero local_decimal fun high => ?_
    split
    · exact .pure _
    · exact .refuse

theorem local_counts : Local u calm 1 hi 1 1 counts counts := by
  unfold counts
  simp only [discard_peek_bind]
  refine .relax (.bind local_bumpSkip fun _ => .peek fun _ => ?_)
  refine .bind_of_le local_bounds (fun ⟨low, high⟩ => .peek fun c => .ite ?_ .refuse) (le_refl 1)
  exact .bind local_bumpSkip fun _ => .ite .refuse (.pure _)

theorem local_lazyMark : Local u calm lo hi 0 1 lazyMark lazyMark := by
  refine .peek? (fun a ha => ?_) fun a => .ite ?_ (.pure _)
  · have hne : a ≠ some '?' := by
      obtain rfl | rfl := ha <;> decide
    rw [if_neg (by decide), if_neg hne]
    exact .pure _
  · exact (Local.bind local_bump fun _ => .pure _).relax

theorem local_repeatLast (min : Nat) (max : Option Nat) (hasMark : Bool) (items : List Ast) :
    Local u calm lo hi 0 1 (repeatLast min max hasMark items) (repeatLast min max hasMark items) := by
  unfold repeatLast
  split
  · exact .refuse
  · exact .refuse
  · exact .refuse
  · exact .pure _

theorem run_enter (f : Option FlagChange) (c : Cursor) : (enter f).run c =
    .ok ((), { c with spaced := (f.bind (·.state? .ignoreSpace)).getD c.spaced }) := rfl

theorem after_enter {o : Opened} (hd : d.After k c) (hspaced : o.Spaces → FlagX c.rest) :
    Cursor.After k { d with spaced := (o.change?.bind (·.state? .ignoreSpace)).getD d.spaced } c := by
  refine ⟨hd.suffix, hd.length, fun hcalm => ?_⟩
  cases hstate : o.change?.bind (·.state? .ignoreSpace) with
  | none => exact hd.calm hcalm
  | some b =>
    obtain hclosed | ⟨_, hx⟩ := hcalm
    · exact .inl fun v hv => hclosed v (hv.trans hd.suffix)
    · cases b with
      | true => exact absurd (hspaced hstate) hx
      | false => exact .inr ⟨rfl, fun hflag => hx (hflag.of_suffix hd.suffix)⟩

theorem run_closeGroup {spaced : Bool} (hc : c.rest = ')' :: r) :
    (closeGroup spaced).run c = .ok ((), { c with rest := r, spaced := spaced }) := by
  rw [closeGroup, run_bind_of_ok (run_peek? c), if_pos (hc ▸ rfl), run_bind_of_ok (run_bump hc)]
  rfl

theorem run_closeGroup_error {spaced : Bool} (hc : c.rest.head? ≠ some ')') :
    (closeGroup spaced).run c = .error .malformed := by
  rw [closeGroup, run_bind_of_ok (run_peek? c), if_neg hc]
  rfl

theorem closeGroup_takes (spaced : Bool) : Takes 0 1 (closeGroup spaced) := by
  intro c a d _ h
  by_cases hc : c.rest.head? = some ')'
  · obtain ⟨r, hr⟩ := List.head?_eq_some_iff.1 hc
    rw [run_closeGroup hr] at h
    cases h
    exact ⟨hr ▸ List.suffix_cons ')' r, by simp [hr]⟩
  · rw [run_closeGroup_error hc] at h
    cases h

theorem closed_takes {next : Parser Ast} (hnext : Takes 0 0 next) (spaced : Bool) :
    Takes 0 1 (closeGroup spaced >>= fun _ => next) :=
  (closeGroup_takes spaced).bind fun _ => hnext

theorem closed_tracks {m m' next next' : Parser Ast} (he : e.After 1 c)
    (hc : c.rest.length < hi) (hcalm : calm → c.Calm)
    (hnext : Local u calm 0 (hi - 1) 0 1 next next')
    (hm : m.run c = (closeGroup c.spaced >>= fun _ => next).run e)
    (hm' : m'.run (c.before u) = (closeGroup c.spaced >>= fun _ => next').run (e.before u)) :
    Tracks u calm 1 1 m m' c := by
  by_cases hclose : e.rest.head? = some ')'
  · obtain ⟨r, hr⟩ := List.head?_eq_some_iff.1 hclose
    have hbefore : (e.before u).rest = ')' :: (r ++ ')' :: u) := by simp [hr]
    have hsuffix : r <:+ e.rest := hr ▸ List.suffix_cons ')' r
    have hlength : e.rest.length + 1 ≤ c.rest.length := he.length
    have hshorter : r.length + 1 = e.rest.length := by simp [hr]
    have hafter : Cursor.After 1 { e with rest := r, spaced := c.spaced } c :=
      .of_suffix (hsuffix.trans he.suffix) (by dsimp only; omega) rfl
    rw [run_bind_of_ok (run_closeGroup hr)] at hm
    rw [run_bind_of_ok (run_closeGroup hbefore)] at hm'
    refine (hnext.tracks _ (Nat.zero_le _) ?_ fun h => hafter.calm (hcalm h)).jump hm hm' hafter
    dsimp only
    omega
  · refine .inr ⟨fun _ => ⟨_, hm.trans (run_bind_of_error (run_closeGroup_error hclose))⟩, ?_⟩
    intro b e' h
    have hrun := hm'.symm.trans h
    cases hr : e.rest with
    | nil =>
      have hlength := (closed_takes hnext.takes _ _ _ _ (Nat.zero_le _) hrun).2
      simpa [hr] using hlength
    | cons x xs =>
      have hother : (e.before u).rest.head? ≠ some ')' := by simpa [hr] using hclose
      rw [run_bind_of_error (run_closeGroup_error hother)] at hrun
      cases hrun

section Group

variable {read read' : List Ast → List Ast → Parser Ast} {done items : List Ast}

theorem enter_takes (f : Option FlagChange) : Takes 0 0 (enter f) := by
  intro c a d _ h
  cases h
  exact ⟨List.suffix_rfl, le_refl _⟩

theorem opened_takes (hread : ∀ done items, Takes 0 0 (read done items)) (spaced : Bool)
    (o : Opened) : Takes 0 0 (opened read done items spaced o) := by
  cases o with
  | setFlags f => exact (enter_takes _).bind fun _ => hread _ _
  | group f captures =>
    have hinside : Takes 0 0 (read [] [] >>= fun a => closeGroup spaced >>= fun _ =>
        read done (.group f captures a :: items)) :=
      (hread [] []).bind fun a => (closed_takes (hread _ _) spaced).weaken (Nat.zero_le _)
    exact (enter_takes f).bind fun _ => hinside

theorem run_group (c : Cursor) : (group read done items).run c =
    (openGroup >>= opened read done items c.spaced).run c :=
  run_bind_of_ok (run_get c)

variable (hread : ∀ done items, Local u calm 0 (hi - 1) 0 1 (read done items) (read' done items))

include hread

theorem opened_tracks {o : Opened} (hd : d.After 1 c) (hc : c.rest.length < hi)
    (hcalm : calm → c.Calm) (hspaced : o.Spaces → FlagX c.rest)
    (hopen : openGroup.run c = .ok (o, d)) (hopen' : openGroup.run (c.before u) = .ok (o, d.before u)) :
    Tracks u calm 1 1 (group read done items) (group read' done items) c := by
  have hentered := after_enter hd hspaced
  have hlength := hentered.length
  have hinside : ∀ done items, Tracks u calm 0 1 (read done items) (read' done items)
      { d with spaced := (o.change?.bind (·.state? .ignoreSpace)).getD d.spaced } := by
    intro done items
    refine (hread done items).tracks _ (Nat.zero_le _) ?_ fun h => hentered.calm (hcalm h)
    dsimp only at hlength ⊢
    omega
  have hrun : (group read done items).run c = (opened read done items c.spaced o).run d := by
    rw [run_group, run_bind_of_ok hopen]
  have hrun' : (group read' done items).run (c.before u) =
      (opened read' done items c.spaced o).run (d.before u) := by
    rw [run_group, run_bind_of_ok hopen', Cursor.spaced_before]
  cases o with
  | setFlags f =>
    exact (hinside done _).jump (hrun.trans (run_bind_of_ok (run_enter _ d)))
      (hrun'.trans (run_bind_of_ok (run_enter _ _))) hentered
  | group f captures =>
    replace hrun := hrun.trans (run_bind_of_ok (run_enter f d))
    replace hrun' := hrun'.trans (run_bind_of_ok (run_enter f _))
    obtain ⟨a, e, hok, hok', he⟩ | ⟨hfail, hlate⟩ := hinside [] []
    · exact closed_tracks (hentered.trans he) hc hcalm (hread _ _)
        (hrun.trans (run_bind_of_ok hok)) (hrun'.trans (run_bind_of_ok hok'))
    · refine .inr ⟨fun h => ?_, fun b e h => ?_⟩
      · obtain ⟨r, hr⟩ := hfail h
        exact ⟨r, hrun.trans (run_bind_of_error hr)⟩
      · obtain ⟨a, e', hok, h⟩ := run_bind_eq_ok (hrun'.symm.trans h)
        have hlast := hlate a e' hok
        have hclose := (closed_takes (hread _ _).takes _ _ _ _ (Nat.zero_le _) h).2
        omega

theorem local_group : Local u calm 1 hi 1 1 (group read done items) (group read' done items) where
  takes c a d hc h := by
    have hopen : Takes 1 1 openGroup := (local_openGroup : Local [] True 1 0 1 1 _ _).takes
    rw [run_group] at h
    exact hopen.bind (opened_takes (fun _ _ => (hread _ _).takes) c.spaced) c a d hc h
  tracks c hc hc' hcalm := by
    have hopen : Local u calm 1 hi 1 1 openGroup openGroup := local_openGroup
    obtain ⟨o, d, hok, hok', hd⟩ | ⟨hfail, hlate⟩ := hopen.tracks c hc hc' hcalm
    · exact opened_tracks hread hd hc' hcalm (openGroup_spaced hc hok) hok hok'
    · refine .inr ⟨fun h => ?_, fun a e h => ?_⟩
      · obtain ⟨r, hr⟩ := hfail h
        exact ⟨r, by rw [run_group, run_bind_of_error hr]⟩
      · rw [run_group] at h
        obtain ⟨o, d, hok, h⟩ := run_bind_eq_ok h
        have hlength := (opened_takes (fun _ _ => (hread _ _).takes) _ o d a e (Nat.zero_le _) h).2
        have hlast := hlate o d hok
        omega

end Group

end StubHttp.Pattern.Parser
