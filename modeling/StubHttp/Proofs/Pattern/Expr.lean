import StubHttp.Proofs.Pattern.Groups

/-!
# Whole expressions are local

`Parser.local_expr`: with fuel for twice its length, a text is read to the same end alone and before a
closing parenthesis.
-/
namespace StubHttp.Pattern.Parser

variable {c d e : Cursor} {u r : List Char} {calm : Prop} {lo hi n n' : Nat}

theorem run_expr_openBrace (h : OpenBrace d) (n : Nat) (done items : List Ast) :
    ∃ e, (expr n done items).run d = .error e := by
  obtain ⟨r, hr, hnil⟩ := h
  cases n with
  | zero => exact ⟨_, rfl⟩
  | succ n =>
    have hskip : skip.run d = .ok ((), d) := by
      obtain ⟨rest, spaced, names⟩ := d
      dsimp only at hr
      subst hr
      cases spaced <;> rfl
    have hpeek : peek?.run d = .ok (some '{', d) := by rw [run_peek?, hr, List.head?_cons]
    rw [expr, run_bind_of_ok hskip, run_bind_of_ok hpeek]
    change ∃ e, StateT.run (if items.isEmpty = true then refuse else _) d = .error e
    split
    · exact ⟨_, rfl⟩
    · have hcounts : ∃ e, counts.run d = .error e := by
        rw [counts, run_bind_of_ok (run_bumpSkip hr), discard_peek_bind]
        exact fails_peek hnil
      obtain ⟨e, he⟩ := hcounts
      exact ⟨e, run_bind_of_error he⟩

theorem local_escape {next next' : Ast → Parser Ast}
    (hnext : ∀ a, Local u calm 0 (hi - 1) 0 1 (next a) (next' a))
    (hbrace : ∀ a d, OpenBrace d → ∃ e, (next a).run d = .error e) :
    Local u calm 1 hi 0 1 (escape >>= next) (escape >>= next') where
  takes := (escape_takes.bind fun a => (hnext a).takes).weaken (Nat.zero_le _)
  tracks c hc hc' hcalm := by
    obtain htracks | ⟨d, hopen, hd, ⟨x, hx⟩, hstuck⟩ := escape_cases hc hcalm
    · exact htracks.bind_local hc' hcalm hnext (by omega)
    · refine .inr ⟨fun _ => ⟨x, run_bind_of_error hx⟩, fun b e h => ?_⟩
      obtain ⟨a, c', hok, h⟩ := run_bind_eq_ok h
      obtain hlate | ⟨rfl, rfl⟩ := hstuck a c' hok
      · have hlength := ((hnext a).takes _ _ _ (Nat.zero_le _) h).2
        omega
      · have hlength := hd.length
        obtain ⟨_, _, hok, _⟩ | ⟨_, hpast⟩ := (hnext _).tracks d (Nat.zero_le _) (by omega)
          fun h => hd.calm (hcalm h)
        · obtain ⟨x, hx⟩ := hbrace (.anchor (.word .both)) d hopen
          rw [hx] at hok
          cases hok
        · exact hpast b e h

theorem local_expr (n' : Nat) : ∀ n lo hi done items, (0 < hi → 2 * hi ≤ n ∧ n ≤ n') →
    Local u calm lo hi 0 1 (expr n done items) (expr n' done items) := by
  induction n' with
  | zero =>
    intro n lo hi done items h
    obtain rfl : hi = 0 := by omega
    exact Local.refuse.of_zero
  | succ n' ih =>
    have hstep : ∀ n lo hi done items, (0 < hi → 2 * hi ≤ n + 1 ∧ n ≤ n') →
        Local u calm lo hi 0 1 (expr (n + 1) done items) (expr (n' + 1) done items) := by
      intro n lo hi done items h
      have hnext : ∀ done items, Local u calm 0 (hi - 1) 0 1 (expr n done items)
          (expr n' done items) := fun done items => ih n 0 (hi - 1) done items (by omega)
      have hmarked : ∀ min max, Local u calm 1 hi 0 1
          (bump >>= fun _ => lazyMark >>= fun m => repeatLast min max m items >>= expr n done)
          (bump >>= fun _ => lazyMark >>= fun m => repeatLast min max m items >>= expr n' done) :=
        fun min max => .bind local_bump fun _ => .bind local_lazyMark fun m =>
          .bind (local_repeatLast min max m items) fun items => hnext done items
      refine .bind local_skip fun _ => .peek? (fun a ha => ?_) fun a => ?_
      · obtain rfl | rfl := ha
        · exact .pure _
        · exact .pure _
      · dsimp only
        split
        case h_1 => exact .pure _
        case h_2 => exact .pure _
        case h_3 => exact .bind local_bump fun _ => hnext _ _
        case h_4 => exact (local_group hnext).relax
        case h_5 => exact .bind ((local_sets n').1 n hi (by omega)) fun _ => hnext _ _
        case h_6 => exact hmarked _ _
        case h_7 => exact hmarked _ _
        case h_8 => exact hmarked _ _
        case h_9 =>
          refine .ite .refuse (.bind local_counts fun ⟨min, max⟩ => ?_)
          exact .bind local_lazyMark fun m => .bind (local_repeatLast min max m items) fun _ =>
            hnext _ _
        case h_10 =>
          exact local_escape (fun a => hnext done (a :: items)) fun a d hd =>
            run_expr_openBrace hd n done (a :: items)
        all_goals exact .bind local_bump fun _ => hnext _ _
    intro n lo hi done items h
    cases n with
    | zero =>
      obtain rfl : hi = 0 := by omega
      exact (hstep 0 lo 0 done items (by omega)).of_zero
    | succ n => exact hstep n lo hi done items (by omega)

end StubHttp.Pattern.Parser
