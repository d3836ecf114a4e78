import Mathlib.Logic.Function.Basic
import StubHttp.Proofs.Journal
import StubHttp.Proofs.Stub.Run

/-!
# Calls that overlap

To serve a request is two steps, to match it and to record it, and so is a reset, which drops rules
and then what is recorded. A crowd is any number of calls on one stub, of which at each turn one makes
its next step. A request that is matched before a reset and recorded after it stays recorded; all
others that were matched before the reset are gone when it is over.
-/
namespace StubHttp.Stub

inductive Stage
  | idle
  | matched (p : Predicate) (resolved : Nat)
  | recorded (resolved recorded : Nat)
  | dropped (dropped : Nat)
  | wiped (dropped forgot : Nat)
  | over

def Stage.Before (t : Nat) : Stage → Prop
  | matched _ r => r < t
  | recorded r n => r < n ∧ n < t
  | dropped a => a < t
  | wiped a b => a < b ∧ b < t
  | _ => True

theorem Stage.Before.succ {t : Nat} {x : Stage} (h : x.Before t) : x.Before (t + 1) := by
  cases x with
  | matched p r => exact Nat.lt_succ_of_lt h
  | recorded r n => exact ⟨h.1, Nat.lt_succ_of_lt h.2⟩
  | dropped a => exact Nat.lt_succ_of_lt h
  | wiped a b => exact ⟨h.1, Nat.lt_succ_of_lt h.2⟩
  | _ => trivial

def Op.request? : Op → Option Request
  | serve q => some q
  | _ => none

theorem Op.request?_eq_some {x : Op} {q : Request} (h : x.request? = some q) : x = serve q := by
  cases x with
  | serve q' => cases h; rfl
  | _ => cases h

structure Crowd where
  stub : Stub
  stage : Nat → Stage
  turn : Nat
  /-- The calls whose requests are held for each type, the latest first. -/
  source : String → List Nat

namespace Crowd

def start (capacity : Nat) (m : Metrics) : Crowd :=
  ⟨.new capacity m, fun _ => .idle, 0, fun _ => []⟩

def put (c : Crowd) (i : Nat) (x : Stage) (s : Stub) : Crowd :=
  { c with stub := s, stage := Function.update c.stage i x, turn := c.turn + 1 }

def resolve (c : Crowd) (i : Nat) (q : Request) : Crowd :=
  match c.stub.resolve q with
  | (none, s) => c.put i .over { s with metrics := s.metrics.addUnmatched q.method }
  | (some (p, _), s) => c.put i (.matched p c.turn) s

def store (c : Crowd) (i : Nat) (x : Stage) (s : Stub) (type : String) (l : List Nat) : Crowd :=
  { c.put i x s with source := Function.update c.source type l }

def record (c : Crowd) (i : Nat) (p : Predicate) (r : Nat) (q : Request) : Crowd :=
  match c.stub.record p q with
  | none => c.put i .over c.stub
  | some s =>
    c.store i (.recorded r c.turn) s p.requestType
      ((i :: c.source p.requestType).take c.stub.journal.capacity)

def takeLast (c : Crowd) (i : Nat) (type : String) : Crowd :=
  c.store i .over (c.stub.lastRequest type).2 type (c.source type).tail

def forget (c : Crowd) (i : Nat) (a : Nat) : Crowd :=
  let s := c.stub.forget
  { c.put i (.wiped a c.turn) (gauge { s with metrics := s.metrics.addReset }) with
    source := fun _ => [] }

def move (calls : Nat → Op) (c : Crowd) (i : Nat) : Crowd :=
  match c.stage i, calls i with
  | .idle, .register d => c.put i .over (c.stub.register d).2
  | .idle, .serve q => c.resolve i q
  | .matched p r, .serve q => c.record i p r q
  | .idle, .lastRequest type => c.takeLast i type
  | .idle, .reset => c.put i (.dropped c.turn) c.stub.dropRules
  | .dropped a, .reset => c.forget i a
  | .idle, .shutdown => c.put i .over c.stub.shutdown
  | _, _ => c

def run (calls : Nat → Op) (c : Crowd) (turns : List Nat) : Crowd := turns.foldl (move calls) c

/-- What is held of any type was matched after all resets that are over had begun. -/
def Isolated (c : Crowd) : Prop :=
  ∀ type q i r n j a b, (c.stub.lastRequest type).1 = some q → (c.source type).head? = some i →
    c.stage i = .recorded r n → c.stage j = .wiped a b → a < r

/-- Every request that is held comes from the call that is its source, which recorded it after all
resets that are over. -/
structure Traced (calls : Nat → Op) (c : Crowd) : Prop where
  held : ∀ type,
    (c.stub.journal.held type).map some = (c.source type).map fun i => (calls i).request?
  recorded : ∀ type, ∀ i ∈ c.source type, ∃ r n, c.stage i = .recorded r n ∧
    ∀ j a b, c.stage j = .wiped a b → b < n
  before : ∀ i, (c.stage i).Before c.turn

variable {calls : Nat → Op} {c : Crowd} {i : Nat} {x : Stage} {s : Stub}

theorem traced_start (capacity : Nat) (m : Metrics) : Traced calls (start capacity m) :=
  ⟨fun _ => rfl, fun _ _ h => (nomatch h), fun _ => trivial⟩

theorem put_stage_self : (c.put i x s).stage i = x := Function.update_self ..

theorem put_stage_of_ne {j : Nat} (h : j ≠ i) : (c.put i x s).stage j = c.stage j :=
  Function.update_of_ne h ..

theorem store_source_self {type : String} {l : List Nat} : (c.store i x s type l).source type = l :=
  Function.update_self ..

theorem store_source_of_ne {type type' : String} {l : List Nat} (h : type' ≠ type) :
    (c.store i x s type l).source type' = c.source type' :=
  Function.update_of_ne h ..

theorem Traced.before_put (h : c.Traced calls) (hx : x.Before (c.turn + 1)) (j : Nat) :
    ((c.put i x s).stage j).Before (c.turn + 1) := by
  by_cases hj : j = i
  · subst hj
    rw [put_stage_self]
    exact hx
  · rw [put_stage_of_ne hj]
    exact (h.before j).succ

theorem Traced.recorded_put (h : c.Traced calls) (hi : ∀ r n, c.stage i ≠ .recorded r n)
    (hx : ∀ a b, x ≠ .wiped a b) (type : String) (k : Nat) (hk : k ∈ c.source type) :
    ∃ r n, (c.put i x s).stage k = .recorded r n ∧
      ∀ j a b, (c.put i x s).stage j = .wiped a b → b < n := by
  obtain ⟨r, n, hstage, hlater⟩ := h.recorded type k hk
  have hne : k ≠ i := fun he => hi r n (he ▸ hstage)
  refine ⟨r, n, (put_stage_of_ne hne).trans hstage, fun j a b hj => ?_⟩
  by_cases hji : j = i
  · subst hji
    rw [put_stage_self] at hj
    exact absurd hj (hx a b)
  · rw [put_stage_of_ne hji] at hj
    exact hlater j a b hj

theorem Traced.put (h : c.Traced calls) (hi : ∀ r n, c.stage i ≠ .recorded r n)
    (hx : ∀ a b, x ≠ .wiped a b) (hb : x.Before (c.turn + 1))
    (hs : s.journal = c.stub.journal) : (c.put i x s).Traced calls where
  held := by
    intro type
    have hheld := h.held type
    rw [← hs] at hheld
    exact hheld
  recorded := h.recorded_put hi hx
  before := h.before_put hb

theorem Traced.resolve (h : c.Traced calls) (q : Request) (hi : c.stage i = .idle) :
    (c.resolve i q).Traced calls := by
  have hne : ∀ r n, c.stage i ≠ .recorded r n := by simp [hi]
  rw [Crowd.resolve]
  split
  case h_1 s hs => exact h.put hne nofun trivial (congrArg (·.2.journal) hs).symm
  case h_2 p k s hs =>
    exact h.put hne nofun (Nat.lt_succ_self _) (congrArg (·.2.journal) hs).symm

theorem Traced.store (h : c.Traced calls) {type : String} {l : List Nat} {qs : List Request}
    (hi : ∀ r n, c.stage i ≠ .recorded r n) (hx : ∀ a b, x ≠ .wiped a b)
    (hb : x.Before (c.turn + 1))
    (hheld : ∀ type', s.journal.held type' =
      if type' = type then qs else c.stub.journal.held type')
    (hqs : qs.map some = l.map fun k => (calls k).request?)
    (hl : ∀ k ∈ l, k ∈ c.source type ∨ k = i ∧ ∃ r, x = .recorded r c.turn) :
    (c.store i x s type l).Traced calls := by
  have hput := h.recorded_put (s := s) hi hx
  refine ⟨fun type' => ?_, fun type' k hk => ?_, h.before_put (s := s) hb⟩
  · have hheld' : (c.store i x s type l).stub.journal.held type' = _ := hheld type'
    by_cases ht : type' = type
    · subst ht
      rw [hheld', if_pos rfl, store_source_self, hqs]
    · rw [hheld', if_neg ht, store_source_of_ne ht, h.held]
  · by_cases ht : type' = type
    · subst ht
      rw [store_source_self] at hk
      rcases hl k hk with hk | ⟨rfl, r, rfl⟩
      · exact hput type' k hk
      · -- recorded at this turn, so after all resets that are over
        refine ⟨r, c.turn, put_stage_self (s := s), fun j a b hj => ?_⟩
        have hjk : j ≠ k := by
          rintro rfl
          cases (put_stage_self (s := s)).symm.trans hj
        have hwiped := h.before j
        rw [(put_stage_of_ne (s := s) hjk).symm.trans hj] at hwiped
        exact hwiped.2
    · rw [store_source_of_ne ht] at hk
      exact hput type' k hk

theorem Traced.record (h : c.Traced calls) {p : Predicate} {q : Request} {r : Nat}
    (hi : c.stage i = .matched p r) (hq : calls i = .serve q) :
    (c.record i p r q).Traced calls := by
  have hr : r < c.turn := by
    have hb := h.before i
    rw [hi] at hb
    exact hb
  rw [Crowd.record]
  split
  case h_1 => exact h.put (by simp [hi]) nofun trivial rfl
  case h_2 s hs =>
    rw [record_eq_some hs]
    refine h.store (by simp [hi]) nofun ⟨hr, Nat.lt_succ_self _⟩
      (Journal.held_push c.stub.journal p.requestType q) ?_ fun k hk => ?_
    · rw [List.map_take, List.map_take, List.map_cons, List.map_cons, h.held, hq, Op.request?]
    · rcases List.mem_cons.1 (List.mem_of_mem_take hk) with rfl | hk
      · exact .inr ⟨rfl, r, rfl⟩
      · exact .inl hk

theorem Traced.takeLast (h : c.Traced calls) (type : String) (hi : c.stage i = .idle) :
    (c.takeLast i type).Traced calls := by
  refine h.store (by simp [hi]) nofun trivial (Journal.held_takeLast c.stub.journal type) ?_
    fun k hk => .inl (List.mem_of_mem_tail hk)
  rw [List.map_tail, List.map_tail, h.held]

theorem Traced.forget (h : c.Traced calls) {a : Nat} (hi : c.stage i = .dropped a) :
    (c.forget i a).Traced calls := by
  have ha : a < c.turn := by
    have hb := h.before i
    rw [hi] at hb
    exact hb
  exact ⟨fun type => rfl, fun type k hk => (nomatch hk),
    h.before_put (s := c.stub) ⟨ha, Nat.lt_succ_self _⟩⟩

theorem Traced.move (h : c.Traced calls) (i : Nat) : (c.move calls i).Traced calls := by
  rw [Crowd.move]
  split
  case h_1 d hi hd => exact h.put (by simp [hi]) nofun trivial (register_journal c.stub d)
  case h_2 q hi hq => exact h.resolve q hi
  case h_3 p r q hi hq => exact h.record hi hq
  case h_4 type hi hq => exact h.takeLast type hi
  case h_5 hi hq => exact h.put (by simp [hi]) nofun (Nat.lt_succ_self _) rfl
  case h_6 a hi hq => exact h.forget hi
  case h_7 hi hq => exact h.put (by simp [hi]) nofun trivial rfl
  case h_8 => exact h

theorem Traced.run (h : c.Traced calls) (turns : List Nat) : (c.run calls turns).Traced calls := by
  induction turns generalizing c with
  | nil => exact h
  | cons i turns ih => exact ih (h.move i)

theorem reachable_move (h : c.stub.Reachable) (i : Nat) : (c.move calls i).stub.Reachable := by
  rw [Crowd.move]
  split
  case h_1 d hi hd => exact h.step (.register d)
  case h_2 q hi hq =>
    have hresolve : (c.stub.resolve q).2.Reachable := h.step (.resolve q)
    rw [Crowd.resolve]
    split
    case h_1 s hs =>
      rw [hs] at hresolve
      exact hresolve.step (.count _)
    case h_2 p k s hs =>
      rw [hs] at hresolve
      exact hresolve
  case h_3 p r q hi hq =>
    rw [Crowd.record]
    split
    case h_1 => exact h
    case h_2 s hs => exact h.step (.record hs)
  case h_4 type hi hq => exact h.step (.lastRequest type)
  case h_5 hi hq => exact h.step .dropRules
  case h_6 a hi hq => exact (h.step .forget).step (.count _)
  case h_7 hi hq => exact h.shutdown
  case h_8 => exact h

theorem reachable_run (capacity : Nat) (m : Metrics) (calls : Nat → Op) (turns : List Nat) :
    ((start capacity m).run calls turns).stub.Reachable := by
  have hstart : (start capacity m).stub.Reachable := .new capacity m
  generalize start capacity m = c at hstart ⊢
  induction turns generalizing c with
  | nil => exact hstart
  | cons i turns ih => exact ih (c.move calls i) (reachable_move hstart i)

/-- Whatever is returned as the last request was recorded after all resets that are over. So if it was
matched before one of them, it was on its way all through that reset. -/
theorem lastRequest_after_reset (capacity : Nat) (m : Metrics) (calls : Nat → Op) (turns : List Nat)
    (type : String) (q : Request)
    (h : (((start capacity m).run calls turns).stub.lastRequest type).1 = some q) :
    ∃ i r n, (((start capacity m).run calls turns).source type).head? = some i ∧
      calls i = .serve q ∧
      ((start capacity m).run calls turns).stage i = .recorded r n ∧ r < n ∧
      ∀ j a b, ((start capacity m).run calls turns).stage j = .wiped a b → a < b ∧ b < n := by
  have htraced : ((start capacity m).run calls turns).Traced calls :=
    (traced_start capacity m).run turns
  generalize (start capacity m).run calls turns = c at h htraced
  have hheld : (c.stub.journal.held type).head? = some q := by
    rw [← Journal.takeLast_result]
    exact h
  have hsource : (c.source type).head?.map (fun i => (calls i).request?) = some (some q) := by
    rw [← List.head?_map, ← htraced.held, List.head?_map, hheld]
    rfl
  obtain ⟨i, hi, hcall⟩ := Option.map_eq_some_iff.1 hsource
  obtain ⟨r, n, hstage, hlater⟩ := htraced.recorded type i (List.mem_of_head? hi)
  have hrn := htraced.before i
  rw [hstage] at hrn
  refine ⟨i, r, n, hi, Op.request?_eq_some hcall, hstage, hrn.1, fun j a b hj => ?_⟩
  have hab := htraced.before j
  rw [hj] at hab
  exact ⟨hab.1, hlater j a b hj⟩

section Alone

variable {q : Request} {j : Nat}

theorem move_idle_serve (hi : c.stage i = .idle) (hq : calls i = .serve q) :
    c.move calls i = c.resolve i q := by
  rw [move, hi, hq]

theorem move_matched {p : Predicate} {r : Nat} (hi : c.stage i = .matched p r)
    (hq : calls i = .serve q) : c.move calls i = c.record i p r q := by
  rw [move, hi, hq]

theorem move_idle_reset (hi : c.stage i = .idle) (hq : calls i = .reset) :
    c.move calls i = c.put i (.dropped c.turn) c.stub.dropRules := by
  rw [move, hi, hq]

theorem move_dropped {a : Nat} (hi : c.stage i = .dropped a) (hq : calls i = .reset) :
    c.move calls i = c.forget i a := by
  rw [move, hi, hq]

theorem move_over (hi : c.stage i = .over) : c.move calls i = c := by
  rw [move, hi]

theorem serve_alone (hi : c.stage i = .idle) (hq : calls i = .serve q) :
    (c.run calls [i, i]).stub = (c.stub.accept q).2 := by
  rw [show c.run calls [i, i] = (c.move calls i).move calls i from rfl, move_idle_serve hi hq,
    resolve]
  split
  case h_1 s hs =>
    rw [move_over put_stage_self, accept, hs]
    rfl
  case h_2 p k s hs =>
    rw [move_matched put_stage_self hq, accept, hs, record]
    split
    case h_1 hs' => simp [put, show s.record p q = none from hs']
    case h_2 s' hs' =>
      cases k <;> simp [store, put, show s.record p q = some s' from hs']

theorem reset_alone (hi : c.stage i = .idle) (hq : calls i = .reset) :
    (c.run calls [i, i]).stub = c.stub.reset := by
  rw [show c.run calls [i, i] = (c.move calls i).move calls i from rfl, move_idle_reset hi hq,
    move_dropped put_stage_self hq]
  rfl

/-- A whole reset between the two steps of a request does not touch the request. -/
theorem held_across_reset {p : Predicate} {k : Option Canned}
    (hcapacity : 0 < c.stub.journal.capacity)
    (hroom : c.stub.journal.capacity ≤ Journal.maxCapacity) (hi : c.stage i = .idle) (hj : c.stage j = .idle)
    (hq : calls i = .serve q) (hreset : calls j = .reset)
    (hp : (c.stub.resolve q).1 = some (p, k)) :
    let c' := c.run calls [i, j, j, i]
    c'.stub.journal.held p.requestType = [q] ∧ c'.source p.requestType = [i] ∧
      c'.stage i = .recorded c.turn (c.turn + 3) ∧
      c'.stage j = .wiped (c.turn + 1) (c.turn + 2) := by
  have hij : i ≠ j := by
    rintro rfl
    cases hq.symm.trans hreset
  let c₁ := c.put i (.matched p c.turn) (c.stub.resolve q).2
  let c₂ := c₁.put j (.dropped c₁.turn) c₁.stub.dropRules
  let c₃ := c₂.forget j c₁.turn
  have h₁ : c.move calls i = c₁ := by
    rw [move_idle_serve hi hq, resolve]
    split
    case h_1 s hs => rw [hs] at hp; cases hp
    case h_2 p' k' s hs =>
      rw [hs] at hp
      cases hp
      simp only [c₁, hs]
  have hj₁ : c₁.stage j = .idle := (put_stage_of_ne hij.symm).trans hj
  have h₂ : c₁.move calls j = c₂ := move_idle_reset hj₁ hreset
  have h₃ : c₂.move calls j = c₃ := move_dropped put_stage_self hreset
  have hi₃ : c₃.stage i = .matched p c.turn :=
    (put_stage_of_ne (s := c₂.stub.forget) hij).trans
      ((put_stage_of_ne (s := c₁.stub.dropRules) hij).trans put_stage_self)
  let s : Stub := gauge { c₃.stub with journal := c₃.stub.journal.push p.requestType q }
  have hrecord : c₃.stub.record p q = some s :=
    record_of_room (Journal.hasRoom_of_le (j := c₃.stub.journal) hroom _) q
  have h₄ : c.run calls [i, j, j, i] = c₃.store i (.recorded c.turn c₃.turn) s p.requestType
      ((i :: c₃.source p.requestType).take c₃.stub.journal.capacity) := by
    rw [run, List.foldl_cons, List.foldl_cons, List.foldl_cons, List.foldl_cons, List.foldl_nil,
      h₁, h₂, h₃, move_matched hi₃ hq, record, hrecord]
  have htake : ∀ {α : Type} (x : α), [x].take c.stub.journal.capacity = [x] := by
    intro α x
    rw [List.take_of_length_le]
    exact hcapacity
  intro c'
  rw [show c' = _ from h₄]
  refine ⟨?_, ?_, put_stage_self (s := s),
    (put_stage_of_ne (s := s) hij.symm).trans (put_stage_self (s := c₂.stub.forget))⟩
  · have hheld := Journal.held_push c₃.stub.journal p.requestType q p.requestType
    rw [if_pos rfl] at hheld
    exact hheld.trans (htake q)
  · exact store_source_self.trans (htake i)

end Alone

def ordering : Nat → Op
  | 0 => .register (Predicate.ordersDocument 1 .forever)
  | 1 => .serve { Request.blank with url := "/order/1" }
  | 2 => .reset
  | _ => .lastRequest "Order"

/-- The order is matched before the reset and recorded after it. -/
def straddled : Crowd := (start 10 .blank).run ordering [0, 1, 2, 2, 1]

theorem straddled_held :
    straddled.stub.journal.held "Order" = [{ Request.blank with url := "/order/1" }] ∧
      straddled.source "Order" = [1] ∧ straddled.stage 1 = .recorded 1 4 ∧
      straddled.stage 2 = .wiped 2 3 := by
  let c := (start 10 .blank).move ordering 0
  let p := Predicate.orders 1 .forever
  let q : Request := { Request.blank with url := "/order/1" }
  have haccepts : p.accepts q = true := by decide
  have hfind : c.stub.registry.find? q = some p := List.find?_cons_of_pos (l := []) haccepts
  have hresolve : (c.stub.resolve q).1 = some (p, c.stub.registry.canned? p) :=
    congrArg Prod.fst (Registry.resolve_of_some hfind)
  have hserve : ordering 1 = .serve q := rfl
  have hreset : ordering 2 = .reset := rfl
  have hrun : straddled = c.run ordering [1, 2, 2, 1] := rfl
  rw [hrun]
  exact held_across_reset (c := c) (p := p) (Nat.succ_pos 9) (by decide) rfl rfl
    hserve hreset hresolve

theorem lastRequest_straddled :
    (straddled.stub.lastRequest "Order").1 = some { Request.blank with url := "/order/1" } := by
  have htake := Journal.takeLast_result straddled.stub.journal "Order"
  rw [straddled_held.1] at htake
  exact htake

/-- The order is in the journal from turn 4, the reset was over at turn 3. -/
theorem lastRequest_after_reset_orders :
    (straddled.stub.lastRequest "Order").1 = some { Request.blank with url := "/order/1" } ∧
      ∃ i r n, (straddled.source "Order").head? = some i ∧ straddled.stage i = .recorded r n ∧
        straddled.stage 2 = .wiped 2 3 ∧ 3 < n := by
  obtain ⟨i, r, n, hi, -, hstage, -, hlater⟩ :=
    lastRequest_after_reset 10 .blank ordering [0, 1, 2, 2, 1] "Order" _ lastRequest_straddled
  have hwiped := straddled_held.2.2.2
  exact ⟨lastRequest_straddled, i, r, n, hi, hstage, hwiped, (hlater 2 2 3 hwiped).2⟩

/-- The order is returned although it was matched at turn 1 and the reset began at turn 2. -/
theorem not_isolated_straddled : ¬ straddled.Isolated := by
  intro h
  obtain ⟨-, hsource, hserve, hreset⟩ := straddled_held
  have hlt : 2 < 1 :=
    h "Order" _ 1 1 4 2 2 3 lastRequest_straddled (congrArg List.head? hsource) hserve hreset
  exact absurd hlt (by decide)

end Crowd
end StubHttp.Stub
