import Mathlib.Logic.Function.Basic
import StubHttp.Signal

/-!
# Nobody misses the signal

Delays and the runs of listeners watch the signal: each subscribes, looks whether it is raised, and
waits for a notice only if it is not. A shutdown raises the signal and then tells it. Watchers and
shutdowns, any number of both, make these steps in any order. Once one shutdown is over, whoever waits
has a notice to receive, and whoever looks later does not begin to wait.
-/
namespace StubHttp.Signal

/-- What a receiver observes: a value, or that it has missed some. -/
inductive Notice
  | value
  | lagged
  deriving DecidableEq, Repr

/-- What is observed of so many notices since the last look, on a channel that keeps one of them. -/
def Notice.ofUnread : Nat → Option Notice
  | 0 => none
  | 1 => some .value
  | _ + 2 => some .lagged

/-- How far a watcher has come, with its number as a subscriber and how many notices there had been
when it subscribed. -/
inductive Watch
  | idle
  | subscribed (subscriber before : Nat)
  | waiting (subscriber before : Nat)
  | refused
  | woken (x : Notice)
  | lapsed
  deriving DecidableEq, Repr

inductive Stop
  | idle
  | raised
  | done
  deriving DecidableEq, Repr

/-- Whose step is next. Instead of a notice, a watcher that waits may get what it waits for: a delay is
over then, and a listener takes a connection and waits on. -/
inductive Turn
  | watcher (i : Nat)
  | lapse (i : Nat)
  | stopper (j : Nat)
  deriving DecidableEq, Repr

structure Vigil where
  signal : Signal
  notices : Nat
  watch : Nat → Watch
  stop : Nat → Stop

namespace Watch

def next (receive : Nat → Option Notice) (s : Signal) (notices : Nat) : Watch → Watch × Signal
  | idle => (subscribed s.subscribe.1 notices, s.subscribe.2)
  | subscribed n k => (if s.raised then refused else waiting n k, s)
  | waiting n k =>
    match receive (notices - k) with
    | none => (waiting n k, s)
    | some x => (woken x, s)
  | w => (w, s)

def receiver? : Watch → Option (Nat × Nat)
  | subscribed n k | waiting n k => some (n, k)
  | _ => none

def Passed : Watch → Prop
  | waiting _ _ | woken _ | lapsed => True
  | _ => False

def rank : Watch → Nat
  | idle => 2
  | subscribed _ _ | waiting _ _ => 1
  | _ => 0

def Ended (w : Watch) : Prop := w.rank = 0

variable {receive : Nat → Option Notice} {s : Signal} {notices n k : Nat} {w : Watch}

theorem rank_le_two (w : Watch) : w.rank ≤ 2 := by
  cases w <;> simp [rank]

theorem next_subscribed :
    (subscribed n k).next receive s notices = (if s.raised then refused else waiting n k, s) := rfl

theorem next_waiting_of_none (h : receive (notices - k) = none) :
    (waiting n k).next receive s notices = (waiting n k, s) := by
  rw [next, h]

theorem next_waiting_of_some {x : Notice} (h : receive (notices - k) = some x) :
    (waiting n k).next receive s notices = (woken x, s) := by
  rw [next, h]

theorem eq_lapsed_of_next (h : (w.next receive s notices).1 = .lapsed) : w = .lapsed := by
  cases w with
  | idle => cases h
  | subscribed n k =>
    rw [next_subscribed] at h
    revert h
    cases s.raised <;> exact nofun
  | waiting n k =>
    cases hx : receive (notices - k) with
    | none => rw [next_waiting_of_none hx] at h; cases h
    | some x => rw [next_waiting_of_some hx] at h; cases h
  | refused => cases h
  | woken x => cases h
  | lapsed => rfl

theorem eq_waiting_of_next (hs : s.raised = true)
    (h : (w.next receive s notices).1 = .waiting n k) : w = .waiting n k := by
  cases w with
  | idle => cases h
  | subscribed n' k' =>
    rw [next_subscribed, hs] at h
    cases h
  | waiting n' k' =>
    cases hx : receive (notices - k') with
    | none => rwa [next_waiting_of_none hx] at h
    | some x => rw [next_waiting_of_some hx] at h; cases h
  | refused => cases h
  | woken x => cases h
  | lapsed => cases h

theorem rank_next (hreceive : ∀ n, 0 < n → (receive n).isSome = true) (hs : s.raised = true)
    (hw : ∀ n k, w = .waiting n k → k < notices) :
    (w.next receive s notices).1.rank ≤ w.rank - 1 := by
  cases w with
  | idle => exact Nat.le_refl 1
  | subscribed n k =>
    rw [next_subscribed, hs]
    exact Nat.le_refl 0
  | waiting n k =>
    have hpending := hreceive (notices - k) (Nat.sub_pos_of_lt (hw n k rfl))
    obtain ⟨x, hx⟩ := Option.isSome_iff_exists.1 hpending
    rw [next_waiting_of_some hx]
    exact Nat.le_refl 0
  | refused => exact Nat.le_refl 0
  | woken x => exact Nat.le_refl 0
  | lapsed => exact Nat.le_refl 0

end Watch

namespace Vigil

def start : Vigil := ⟨.low, 0, fun _ => .idle, fun _ => .idle⟩

def put (v : Vigil) (i : Nat) (w : Watch × Signal) : Vigil :=
  { v with signal := w.2, watch := Function.update v.watch i w.1 }

def hold (v : Vigil) (j : Nat) (x : Stop) (s : Signal) (notices : Nat) : Vigil :=
  ⟨s, notices, v.watch, Function.update v.stop j x⟩

def halt (v : Vigil) (j : Nat) : Vigil :=
  match v.stop j with
  | .idle => v.hold j .raised v.signal.raise v.notices
  | .raised => v.hold j .done v.signal.tell (v.notices + 1)
  | .done => v

variable (receive : Nat → Option Notice) (isDelay : Nat → Bool)

def step (v : Vigil) : Turn → Vigil
  | .watcher i => v.put i ((v.watch i).next receive v.signal v.notices)
  | .lapse i =>
    match v.watch i with
    | .waiting _ _ => if isDelay i then v.put i (.lapsed, v.signal) else v
    | _ => v
  | .stopper j => v.halt j

def run (v : Vigil) (turns : List Turn) : Vigil := turns.foldl (step receive isDelay) v

/-- A watcher is told exactly if there was a notice since it subscribed. There was one for each that
waits, if a shutdown is over. -/
structure Kept (v : Vigil) : Prop where
  raised : ∀ j, v.stop j ≠ .idle → v.signal.raised = true
  told : ∀ i n k, (v.watch i).receiver? = some (n, k) →
    n < v.signal.subscribers ∧ k ≤ v.notices ∧ (n < v.signal.told ↔ k < v.notices)
  waiting : ∀ i n k j, v.stop j = .done → v.watch i = .waiting n k → k < v.notices

variable {receive : Nat → Option Notice} {isDelay : Nat → Bool} {v : Vigil} {i j : Nat}

theorem kept_start : start.Kept where
  raised := nofun
  told := nofun
  waiting := nofun

theorem put_watch_self {w : Watch × Signal} : (v.put i w).watch i = w.1 := Function.update_self ..

theorem put_watch_of_ne {w : Watch × Signal} {i' : Nat} (h : i' ≠ i) :
    (v.put i w).watch i' = v.watch i' :=
  Function.update_of_ne h ..

theorem hold_stop_self {x : Stop} {s : Signal} {notices : Nat} :
    (v.hold j x s notices).stop j = x :=
  Function.update_self ..

theorem hold_stop_of_ne {x : Stop} {s : Signal} {notices j' : Nat} (h : j' ≠ j) :
    (v.hold j x s notices).stop j' = v.stop j' :=
  Function.update_of_ne h ..

theorem Kept.put (h : v.Kept) {w : Watch} {s : Signal} (hraised : s.raised = v.signal.raised)
    (hsubscribers : v.signal.subscribers ≤ s.subscribers) (htold : s.told = v.signal.told)
    (hreceiver : ∀ n k, w.receiver? = some (n, k) →
      n < s.subscribers ∧ k ≤ v.notices ∧ (n < s.told ↔ k < v.notices))
    (hwaiting : ∀ n k j, v.stop j = .done → w = .waiting n k → k < v.notices) :
    (v.put i (w, s)).Kept where
  raised := by
    intro j hj
    exact hraised.trans (h.raised j hj)
  told := by
    intro i' n k hk
    by_cases hi : i' = i
    · rw [hi, put_watch_self] at hk
      exact hreceiver n k hk
    · rw [put_watch_of_ne hi] at hk
      obtain ⟨hn, hbefore, hiff⟩ := h.told i' n k hk
      refine ⟨Nat.lt_of_lt_of_le hn hsubscribers, hbefore, ?_⟩
      exact Iff.trans (iff_of_eq (congrArg (n < ·) htold)) hiff
  waiting := by
    intro i' n k j hj hk
    by_cases hi : i' = i
    · rw [hi, put_watch_self] at hk
      exact hwaiting n k j hj hk
    · rw [put_watch_of_ne hi] at hk
      exact h.waiting i' n k j hj hk

theorem Kept.put_of_none (h : v.Kept) {w : Watch} (hw : w.receiver? = none) :
    (v.put i (w, v.signal)).Kept := by
  refine h.put rfl (Nat.le_refl _) rfl (fun n k hk => ?_) fun n k j hj hk => ?_
  · rw [hw] at hk
    cases hk
  · rw [hk] at hw
    cases hw

theorem Kept.watcher (h : v.Kept) (i : Nat) :
    (v.put i ((v.watch i).next receive v.signal v.notices)).Kept := by
  cases hi : v.watch i with
  | idle =>
    -- a new subscriber has the next number, and none of the notices so far is for it
    refine h.put rfl (Nat.le_succ _) rfl (fun n k hk => ?_) nofun
    cases hk
    have htold := v.signal.told_le
    exact ⟨Nat.lt_succ_self _, Nat.le_refl _, by simp [subscribe, htold]⟩
  | subscribed n k =>
    rw [Watch.next_subscribed]
    split
    case isTrue => exact h.put_of_none rfl
    case isFalse hr =>
      refine h.put rfl (Nat.le_refl _) rfl (fun n' k' hk => ?_) fun n' k' j hj _ => ?_
      · exact h.told i n' k' (by rw [hi]; exact hk)
      · -- a shutdown that is over has raised the signal
        exact absurd (h.raised j (by simp [hj])) hr
  | waiting n k =>
    cases hx : receive (v.notices - k) with
    | none =>
      rw [Watch.next_waiting_of_none hx]
      refine h.put rfl (Nat.le_refl _) rfl (fun n' k' hk => ?_) fun n' k' j hj hk => ?_
      · exact h.told i n' k' (by rw [hi]; exact hk)
      · exact h.waiting i n' k' j hj (hi.trans hk)
    | some x =>
      rw [Watch.next_waiting_of_some hx]
      exact h.put_of_none rfl
  | refused => exact h.put_of_none rfl
  | woken x => exact h.put_of_none rfl
  | lapsed => exact h.put_of_none rfl

theorem Kept.halt (h : v.Kept) (j : Nat) : (v.halt j).Kept := by
  rw [Vigil.halt]
  split
  case h_1 hj =>
    refine ⟨fun _ _ => rfl, h.told, fun i n k j' hj' hk => ?_⟩
    have hne : j' ≠ j := by
      rintro rfl
      cases hold_stop_self.symm.trans hj'
    rw [hold_stop_of_ne hne] at hj'
    exact h.waiting i n k j' hj' hk
  case h_2 hj =>
    have hraised : v.signal.raised = true := h.raised j (by simp [hj])
    refine ⟨fun _ _ => hraised, fun i n k hk => ?_, fun i n k _ _ hk => ?_⟩
    · obtain ⟨hn, hbefore, -⟩ := h.told i n k hk
      have hlt : k < v.notices + 1 := Nat.lt_succ_of_le hbefore
      exact ⟨hn, Nat.le_of_lt hlt, iff_of_true hn hlt⟩
    · obtain ⟨-, hbefore, -⟩ := h.told i n k (congrArg Watch.receiver? hk)
      exact Nat.lt_succ_of_le hbefore
  case h_3 hj => exact h

theorem Kept.step (h : v.Kept) (t : Turn) : (v.step receive isDelay t).Kept := by
  cases t with
  | watcher i => exact h.watcher i
  | lapse i =>
    rw [Vigil.step]
    split
    case h_1 n k hi =>
      split
      case isTrue => exact h.put_of_none rfl
      case isFalse => exact h
    case h_2 => exact h
  | stopper j => exact h.halt j

theorem Kept.run (h : v.Kept) (turns : List Turn) : (v.run receive isDelay turns).Kept := by
  induction turns generalizing v with
  | nil => exact h
  | cons t turns ih => exact ih (h.step t)

theorem step_watcher :
    (v.step receive isDelay (.watcher i)).watch i =
      ((v.watch i).next receive v.signal v.notices).1 :=
  put_watch_self

theorem step_watch (v : Vigil) (t : Turn) (i : Nat) :
    t = .watcher i ∨ (v.step receive isDelay t).watch i = v.watch i ∨
      t = .lapse i ∧ isDelay i = true ∧ (∃ n k, v.watch i = .waiting n k) ∧
        (v.step receive isDelay t).watch i = .lapsed := by
  cases t with
  | watcher i' =>
    by_cases hi : i = i'
    · exact .inl (congrArg _ hi.symm)
    · exact .inr (.inl (put_watch_of_ne hi))
  | lapse i' =>
    rw [step]
    split
    case h_1 n k hw =>
      split
      case isTrue hd =>
        by_cases hi : i = i'
        · subst hi
          exact .inr (.inr ⟨rfl, hd, ⟨n, k, hw⟩, put_watch_self⟩)
        · exact .inr (.inl (put_watch_of_ne hi))
      case isFalse => exact .inr (.inl rfl)
    case h_2 => exact .inr (.inl rfl)
  | stopper j =>
    right; left
    rw [step, halt]
    split <;> rfl

theorem done_step (hj : v.stop j = .done) (t : Turn) :
    (v.step receive isDelay t).stop j = .done := by
  cases t with
  | watcher i => exact hj
  | lapse i =>
    rw [step]
    split
    · split <;> exact hj
    · exact hj
  | stopper j' =>
    rw [step, halt]
    by_cases hne : j = j'
    · subst hne
      rw [hj]
      exact hj
    · split
      · exact (hold_stop_of_ne hne).trans hj
      · exact (hold_stop_of_ne hne).trans hj
      · exact hj

theorem done_run (hj : v.stop j = .done) (turns : List Turn) :
    (v.run receive isDelay turns).stop j = .done := by
  induction turns generalizing v with
  | nil => exact hj
  | cons t turns ih => exact ih (done_step hj t)

theorem lapsed_run {turns : List Turn} (h : (v.run receive isDelay turns).watch i = .lapsed) :
    v.watch i = .lapsed ∨ isDelay i = true ∧ .lapse i ∈ turns := by
  induction turns generalizing v with
  | nil => exact .inl h
  | cons t turns ih =>
    rcases ih h with hstep | ⟨hd, hmem⟩
    · rcases step_watch v t i with rfl | hsame | ⟨rfl, hd, -, -⟩
      · rw [step_watcher] at hstep
        exact .inl (Watch.eq_lapsed_of_next hstep)
      · exact .inl (hsame.symm.trans hstep)
      · exact .inr ⟨hd, List.mem_cons_self⟩
    · exact .inr ⟨hd, List.mem_cons_of_mem _ hmem⟩

theorem Kept.pending (h : v.Kept) (hj : v.stop j = .done) {n k : Nat}
    (hw : v.watch i = .waiting n k) : v.signal.isTold n = true ∧ 0 < v.notices - k := by
  have hunread : k < v.notices := h.waiting i n k j hj hw
  obtain ⟨-, -, htold⟩ := h.told i n k (congrArg Watch.receiver? hw)
  exact ⟨decide_eq_true (htold.2 hunread), Nat.sub_pos_of_lt hunread⟩

theorem Kept.refused_step (h : v.Kept) (hj : v.stop j = .done) {n k : Nat}
    (hw : v.watch i = .subscribed n k) :
    (v.step receive isDelay (.watcher i)).watch i = .refused := by
  have hraised : v.signal.raised = true := h.raised j (by simp [hj])
  rw [step_watcher, hw, Watch.next_subscribed, hraised]
  rfl

theorem Kept.waiting_step (h : v.Kept) (hj : v.stop j = .done) {t : Turn} {n k : Nat}
    (hw : (v.step receive isDelay t).watch i = .waiting n k) : v.watch i = .waiting n k := by
  have hraised : v.signal.raised = true := h.raised j (by simp [hj])
  rcases step_watch v t i with rfl | hsame | ⟨-, -, -, hlapsed⟩
  · rw [step_watcher] at hw
    exact Watch.eq_waiting_of_next hraised hw
  · exact hsame.symm.trans hw
  · cases hlapsed.symm.trans hw

theorem Kept.waiting_run (h : v.Kept) (hj : v.stop j = .done) {turns : List Turn} {n k : Nat}
    (hw : (v.run receive isDelay turns).watch i = .waiting n k) : v.watch i = .waiting n k := by
  induction turns generalizing v with
  | nil => exact hw
  | cons t turns ih => exact h.waiting_step hj (ih (h.step t) (done_step hj t) hw)

theorem Kept.rank_step (hreceive : ∀ n, 0 < n → (receive n).isSome = true) (h : v.Kept)
    (hj : v.stop j = .done) (t : Turn) (i : Nat) :
    ((v.step receive isDelay t).watch i).rank ≤ (v.watch i).rank - [t].count (.watcher i) := by
  have hraised : v.signal.raised = true := h.raised j (by simp [hj])
  by_cases ht : t = .watcher i
  · subst ht
    rw [step_watcher, List.count_singleton_self]
    exact Watch.rank_next hreceive hraised fun n k => h.waiting i n k j hj
  · rw [List.count_singleton, if_neg (by simpa using ht), Nat.sub_zero]
    rcases step_watch v t i with hown | hsame | ⟨-, -, -, hlapsed⟩
    · exact absurd hown ht
    · exact Nat.le_of_eq (congrArg _ hsame)
    · rw [hlapsed]
      exact Nat.zero_le _

theorem Kept.rank_run (hreceive : ∀ n, 0 < n → (receive n).isSome = true) (h : v.Kept)
    (hj : v.stop j = .done) (turns : List Turn) (i : Nat) :
    ((v.run receive isDelay turns).watch i).rank ≤
      (v.watch i).rank - turns.count (.watcher i) := by
  induction turns generalizing v with
  | nil => exact Nat.le_refl _
  | cons t turns ih =>
    have hstep : ((v.step receive isDelay t).watch i).rank ≤
        (v.watch i).rank - [t].count (.watcher i) :=
      h.rank_step hreceive hj t i
    have hrun := ih (v := v.step receive isDelay t) (h.step t) (done_step hj t)
    rw [← List.singleton_append, List.count_append, ← Nat.sub_sub]
    exact Nat.le_trans hrun (Nat.sub_le_sub_right hstep _)

/-- The first two steps of a watcher in a row are `Signal.await`. -/
theorem await_alone (hi : v.watch i = .idle) :
    let v' := v.run receive isDelay [.watcher i, .watcher i]
    v'.signal = v.signal.await.2 ∧
      v'.watch i = (v.signal.await.1.map (Watch.waiting · v.notices)).getD .refused := by
  let w := Watch.subscribed v.signal.subscribe.1 v.notices
  let u := v.put i (w, v.signal.subscribe.2)
  have hfirst : v.step receive isDelay (.watcher i) = u := by
    rw [step, hi]
    rfl
  have hu : u.watch i = w := put_watch_self
  have hboth : v.run receive isDelay [.watcher i, .watcher i] =
      u.put i (if v.signal.raised then .refused else .waiting v.signal.subscribers v.notices,
        v.signal.subscribe.2) := by
    rw [run, List.foldl_cons, List.foldl_cons, List.foldl_nil, hfirst, step, hu]
    rfl
  rw [hboth]
  refine ⟨rfl, put_watch_self.trans ?_⟩
  rw [Signal.await]
  cases hr : v.signal.raised <;> simp [subscribe, hr]

theorem send_alone (hj : v.stop j = .idle) :
    (v.run receive isDelay [.stopper j, .stopper j]).signal = v.signal.send := by
  let u := v.hold j .raised v.signal.raise v.notices
  have hfirst : v.step receive isDelay (.stopper j) = u := by
    rw [step, halt, hj]
  have hu : u.stop j = .raised := hold_stop_self
  rw [run, List.foldl_cons, List.foldl_cons, List.foldl_nil, hfirst, step, halt, hu]
  rfl

/-- Whoever subscribed before a notice is assumed to observe a value or a lag. Then once a shutdown
is over, whoever has gone on to wait has a notice to receive or has received one, unless it is a delay
that ended by itself; whoever looks at the signal later is refused; and whatever the others do, each
watcher has ended after two more steps of its own. -/
theorem no_shutdown_missed (receive : Nat → Option Notice)
    (hreceive : ∀ n, 0 < n → (receive n).isSome = true) (isDelay : Nat → Bool) (turns : List Turn)
    (j : Nat) :
    let v := start.run receive isDelay turns
    v.stop j = .done →
      (∀ i, (v.watch i).Passed →
        (∃ n k, v.watch i = .waiting n k ∧ v.signal.isTold n = true ∧
          (receive (v.notices - k)).isSome = true) ∨
        (∃ x, v.watch i = .woken x) ∨
        v.watch i = .lapsed ∧ isDelay i = true ∧ .lapse i ∈ turns) ∧
      (∀ turns' i n k, (v.run receive isDelay turns').watch i = .subscribed n k →
        (v.run receive isDelay (turns' ++ [.watcher i])).watch i = .refused) ∧
      (∀ turns' i n k, (v.run receive isDelay turns').watch i = .waiting n k →
        v.watch i = .waiting n k) ∧
      ∀ turns' i, 2 ≤ turns'.count (.watcher i) →
        ((v.run receive isDelay turns').watch i).Ended := by
  intro v hj
  have hkept : v.Kept := kept_start.run turns
  refine ⟨fun i hi => ?_, fun turns' i n k hi => ?_, fun turns' i n k => hkept.waiting_run hj,
    fun turns' i hcount => ?_⟩
  · cases hw : v.watch i with
    | idle => rw [hw] at hi; exact hi.elim
    | subscribed n k => rw [hw] at hi; exact hi.elim
    | refused => rw [hw] at hi; exact hi.elim
    | waiting n k =>
      obtain ⟨htold, hunread⟩ := hkept.pending hj hw
      exact .inl ⟨n, k, rfl, htold, hreceive _ hunread⟩
    | woken x => exact .inr (.inl ⟨x, rfl⟩)
    | lapsed =>
      rcases lapsed_run (v := start) hw with hstart | hlapse
      · cases hstart
      · exact .inr (.inr ⟨rfl, hlapse⟩)
  · have hlater : (v.run receive isDelay turns').Kept := hkept.run turns'
    have hrefused : ((v.run receive isDelay turns').step receive isDelay (.watcher i)).watch i =
        .refused :=
      hlater.refused_step (done_run hj turns') hi
    rw [run, List.foldl_append]
    exact hrefused
  · have hrank : ((v.run receive isDelay turns').watch i).rank ≤
        (v.watch i).rank - turns'.count (.watcher i) :=
      hkept.rank_run hreceive hj turns' i
    have htwo := (v.watch i).rank_le_two
    rw [Watch.Ended]
    omega

/-- A delay waits, a listener has subscribed but not looked, and two shutdowns come. The delay lags
behind, the listener is refused. -/
theorem no_shutdown_missed_twice :
    let isDelay : Nat → Bool := (· == 0)
    let turns : List Turn := [.watcher 0, .watcher 0, .watcher 1, .stopper 0, .stopper 1, .stopper 0,
      .stopper 1]
    let v := start.run Notice.ofUnread isDelay turns
    v.stop 0 = .done ∧ v.watch 0 = .waiting 0 0 ∧ v.signal.isTold 0 = true ∧
      Notice.ofUnread (v.notices - 0) = some .lagged ∧
      (v.run Notice.ofUnread isDelay [.watcher 0, .watcher 1]).watch 1 = .refused ∧
      ((v.run Notice.ofUnread isDelay [.watcher 0, .stopper 2, .watcher 0]).watch 0).Ended := by
  intro isDelay turns v
  have hreceive : ∀ n, 0 < n → (Notice.ofUnread n).isSome = true := by
    intro n hn
    match n, hn with
    | 1, _ => rfl
    | n + 2, _ => rfl
  have hdone : v.stop 0 = .done := rfl
  have hwaiting : v.watch 0 = .waiting 0 0 := rfl
  obtain ⟨hpending, hrefused, -, hended⟩ :=
    no_shutdown_missed Notice.ofUnread hreceive isDelay turns 0 hdone
  refine ⟨hdone, hwaiting, ?_, rfl, hrefused [.watcher 0] 1 1 0 rfl, hended _ 0 (by decide)⟩
  rcases hpending 0 trivial with ⟨n, k, hw, htold, -⟩ | ⟨x, hx⟩ | ⟨hlapsed, -⟩
  · cases hwaiting.symm.trans hw
    exact htold
  · cases hwaiting.symm.trans hx
  · cases hwaiting.symm.trans hlapsed

end Vigil
end StubHttp.Signal
