import StubHttp.Pattern.Meaning
import StubHttp.Proofs.Except
import StubHttp.Proofs.Pattern.Local
import StubHttp.Proofs.Pattern.Spans

/-!
# Patterns that are read are ordered

No pattern repeats something at least more often than at most, for the reader compares the two counts.
-/
namespace StubHttp.Pattern

variable {α β : Type}

def Ast.Ordered (a : Ast) : Prop := ∀ f r f', a.meaning f = .ok (r, f') → r.Ordered

theorem Regex.ordered_seqAll {rs : List Regex} (h : ∀ r ∈ rs, r.Ordered) : (seqAll rs).Ordered := by
  induction rs with
  | nil => trivial
  | cons r rs ih =>
    have htail := ih fun r hr => h r (List.mem_cons_of_mem _ hr)
    cases rs with
    | nil => exact h r List.mem_cons_self
    | cons r' rs => exact ⟨h r List.mem_cons_self, htail⟩

theorem Regex.ordered_altAll {rs : List Regex} (h : ∀ r ∈ rs, r.Ordered) : (altAll rs).Ordered := by
  induction rs with
  | nil => trivial
  | cons r rs ih =>
    have htail := ih fun r hr => h r (List.mem_cons_of_mem _ hr)
    cases rs with
    | nil => exact h r List.mem_cons_self
    | cons r' rs => exact ⟨h r List.mem_cons_self, htail⟩

namespace Ast

variable {as : List Ast} {a : Ast}

theorem ordered_of_meanings {f f' : Flags} {rs : List Regex} (has : ∀ a ∈ as, a.Ordered)
    (h : meanings f as = .ok (rs, f')) : ∀ r ∈ rs, r.Ordered := by
  induction as generalizing f rs f' with
  | nil =>
    rw [meanings] at h
    cases h
    simp
  | cons a as ih =>
    rw [meanings] at h
    obtain ⟨⟨r, f₁⟩, hr, h⟩ := bind_eq_ok h
    obtain ⟨⟨rs', f₂⟩, hrs, h⟩ := bind_eq_ok h
    cases h
    intro x hx
    obtain rfl | hx := List.mem_cons.1 hx
    · exact has a List.mem_cons_self f x f₁ hr
    · exact ih (fun a ha => has a (List.mem_cons_of_mem _ ha)) hrs x hx

theorem Ordered.concat (has : ∀ a ∈ as, a.Ordered) : (Ast.concat as).Ordered := by
  intro f r f' h
  rw [meaning] at h
  obtain ⟨⟨rs, f₁⟩, hrs, h⟩ := bind_eq_ok h
  cases h
  exact Regex.ordered_seqAll (ordered_of_meanings has hrs)

theorem Ordered.alt (has : ∀ a ∈ as, a.Ordered) : (Ast.alt as).Ordered := by
  intro f r f' h
  rw [meaning] at h
  obtain ⟨⟨rs, f₁⟩, hrs, h⟩ := bind_eq_ok h
  cases h
  exact Regex.ordered_altAll (ordered_of_meanings has hrs)

theorem Ordered.group {c : Option FlagChange} {captures : Bool} (ha : a.Ordered) :
    (Ast.group c captures a).Ordered := by
  intro f r f' h
  rw [meaning.eq_def] at h
  obtain ⟨⟨r, f₁⟩, hr, h⟩ := bind_eq_ok h
  cases h
  exact ha _ r f₁ hr

theorem Ordered.repeated {min : Nat} {max : Option Nat} {hasMark : Bool}
    (hmax : ∀ m ∈ max, min ≤ m) (ha : a.Ordered) : (Ast.repeated min max hasMark a).Ordered := by
  intro f r f' h
  rw [meaning] at h
  obtain ⟨⟨r, f₁⟩, hr, h⟩ := bind_eq_ok h
  cases h
  exact ⟨hmax, ha _ r f₁ hr⟩

def IsLeaf : Ast → Prop
  | repeated .. | group .. | alt _ | concat _ => False
  | _ => True

theorem IsLeaf.ordered (h : a.IsLeaf) : a.Ordered := by
  intro f r f' hm
  cases a with
  | empty | setFlags _ | anchor _ =>
    rw [meaning] at hm
    cases hm
    trivial
  | dot =>
    rw [meaning] at hm
    split at hm
    · cases hm
      trivial
    · cases hm
  | char c code =>
    rw [meaning] at hm
    split at hm
    · cases hm
    · split at hm
      · cases hm
        trivial
      · cases hm
        trivial
  | set s =>
    rw [meaning] at hm
    obtain ⟨t, _, hm⟩ := bind_eq_ok hm
    cases hm
    trivial
  | repeated | group | alt | concat => exact h.elim

end Ast

namespace Parser

def Yields (P : α → Prop) (m : Parser α) : Prop := ∀ c a d, m.run c = .ok (a, d) → P a

namespace Yields

variable {P : α → Prop} {Q : β → Prop} {m : Parser α} {f : α → Parser β}

theorem pure {a : α} (h : P a) : Yields P (Pure.pure a) := by
  intro c b d hb
  cases hb
  exact h

theorem refuse : Yields P (Parser.refuse : Parser α) := by
  intro c a d h
  cases h

theorem ite {s : Prop} [Decidable s] {x y : Parser α} (hx : Yields P x) (hy : Yields P y) :
    Yields P (if s then x else y) := by
  split
  · exact hx
  · exact hy

theorem bind (hm : Yields P m) (hf : ∀ a, P a → Yields Q (f a)) : Yields Q (m >>= f) := by
  intro c b e h
  obtain ⟨a, d, ha, hb⟩ := run_bind_eq_ok h
  exact hf a (hm c a d ha) d b e hb

theorem last (hf : ∀ a, Yields Q (f a)) : Yields Q (m >>= f) :=
  bind (P := fun _ => True) (fun _ _ _ _ => trivial) fun a _ => hf a

end Yields

theorem yields_hexChar (letter : Char) : Yields Ast.IsLeaf (hexChar letter) := by
  refine .last fun _ => .last fun _ => .ite (.last fun _ => .last fun _ => .last fun _ => ?_) ?_
  · exact .last fun _ => .ite .refuse (.last fun _ => .last fun _ => .pure trivial)
  · exact .last fun _ => .last fun _ => .pure trivial

theorem yields_namedClass (negated : Bool) : Yields Ast.IsLeaf (namedClass negated) := by
  refine .last fun _ => .last fun _ => .ite (.last fun _ => .last fun _ => .last fun _ => ?_)
    (.ite .refuse (.last fun _ => .pure trivial))
  refine .last fun _ => .ite .refuse (.last fun _ => ?_)
  split
  · exact .pure trivial
  · split
    · exact .pure trivial
    · exact .pure trivial

theorem yields_escape : Yields Ast.IsLeaf escape := by
  refine .last fun _ => .last fun c => .last fun _ => ?_
  unfold escapeOf
  split
  case h_1 | h_2 | h_3 => exact yields_hexChar _
  case h_4 | h_5 => exact yields_namedClass _
  case h_20 => exact .last fun _ => .ite (.last fun _ => .pure trivial) (.pure trivial)
  case h_24 => exact .ite (.pure trivial) .refuse
  all_goals exact .pure trivial

theorem yields_counts : Yields (fun b => ∀ m ∈ b.2, b.1 ≤ m) counts := by
  refine .last fun _ => .last fun _ => .last fun ⟨low, high⟩ => .last fun _ => .ite ?_ .refuse
  refine .last fun _ => ?_
  split
  case isTrue => exact .refuse
  case isFalse h =>
    refine .pure fun m hm => ?_
    obtain rfl : high = some m := hm
    simpa using h

theorem yields_repeatLast {min : Nat} {max : Option Nat} {hasMark : Bool} {items : List Ast}
    (hmax : ∀ m ∈ max, min ≤ m) (hitems : ∀ a ∈ items, a.Ordered) :
    Yields (fun as => ∀ a ∈ as, a.Ordered) (repeatLast min max hasMark items) := by
  unfold repeatLast
  split
  case h_4 a as _ _ =>
    refine .pure fun b hb => ?_
    obtain rfl | hb := List.mem_cons.1 hb
    · exact .repeated hmax (hitems a List.mem_cons_self)
    · exact hitems b (List.mem_cons_of_mem a hb)
  all_goals exact .refuse

theorem ordered_concat {items : List Ast} (h : ∀ a ∈ items, a.Ordered) :
    (concat items).Ordered := by
  unfold concat
  split
  · exact Ast.IsLeaf.ordered trivial
  · exact h _ List.mem_cons_self
  · exact .concat fun a ha => h a (List.mem_reverse.1 ha)

theorem ordered_alternatives {done : List Ast} (h : ∀ a ∈ done, a.Ordered) :
    (alternatives done).Ordered := by
  unfold alternatives
  split
  · exact h _ List.mem_cons_self
  · exact .alt fun a ha => h a (List.mem_reverse.1 ha)

theorem ordered_cons {a : Ast} {as : List Ast} (ha : a.Ordered) (has : ∀ b ∈ as, b.Ordered) :
    ∀ b ∈ a :: as, b.Ordered := by
  intro b hb
  obtain rfl | hb := List.mem_cons.1 hb
  · exact ha
  · exact has b hb

theorem yields_group {read : List Ast → List Ast → Parser Ast} {done items : List Ast}
    (hread : ∀ done items, (∀ a ∈ done, a.Ordered) → (∀ a ∈ items, a.Ordered) →
      Yields Ast.Ordered (read done items))
    (hdone : ∀ a ∈ done, a.Ordered) (hitems : ∀ a ∈ items, a.Ordered) :
    Yields Ast.Ordered (group read done items) := by
  refine .last fun c => .last fun o => ?_
  cases o with
  | setFlags f =>
    exact .last fun _ => hread _ _ hdone (ordered_cons (Ast.IsLeaf.ordered trivial) hitems)
  | group f captures =>
    refine .last fun _ => .bind (hread [] [] (by simp) (by simp)) fun a ha => ?_
    exact .last fun _ => hread _ _ hdone (ordered_cons ha.group hitems)

theorem yields_expr (n : Nat) : ∀ done items, (∀ a ∈ done, a.Ordered) →
    (∀ a ∈ items, a.Ordered) → Yields Ast.Ordered (expr n done items) := by
  induction n with
  | zero => exact fun _ _ _ _ => .refuse
  | succ n ih =>
    intro done items hdone hitems
    have hleaf : ∀ a : Ast, a.IsLeaf → Yields Ast.Ordered (expr n done (a :: items)) :=
      fun a ha => ih _ _ hdone (ordered_cons ha.ordered hitems)
    have hrepeat : ∀ min max hasMark, (∀ m ∈ max, min ≤ m) →
        Yields Ast.Ordered (repeatLast min max hasMark items >>= expr n done) := fun min max _ hmax =>
      .bind (yields_repeatLast hmax hitems) fun _ h => ih _ _ hdone h
    have hconcat := ordered_cons (ordered_concat hitems) hdone
    refine .last fun _ => .last fun o => ?_
    split
    case h_1 => exact .pure (ordered_alternatives hconcat)
    case h_2 => exact .pure (ordered_alternatives hconcat)
    case h_3 => exact .last fun _ => ih _ _ hconcat (by simp)
    case h_4 => exact yields_group ih hdone hitems
    case h_5 => exact .last fun _ => hleaf _ trivial
    case h_6 => exact .last fun _ => .last fun m => hrepeat 0 (some 1) m (by simp)
    case h_7 => exact .last fun _ => .last fun m => hrepeat 0 none m (by simp)
    case h_8 => exact .last fun _ => .last fun m => hrepeat 1 none m (by simp)
    case h_9 =>
      refine .ite .refuse (.bind yields_counts fun ⟨min, max⟩ h => ?_)
      exact .last fun m => hrepeat min max m h
    case h_10 => exact .bind yields_escape fun a ha => hleaf a ha
    all_goals exact .last fun _ => hleaf _ trivial

end Parser

theorem Ast.ordered_of_parse {p : List Char} {a : Ast} (h : Ast.parse p = .ok a) : a.Ordered := by
  obtain ⟨⟨b, c⟩, hb, h⟩ := bind_eq_ok h
  have hordered := Parser.yields_expr _ [] [] (by simp) (by simp) _ _ _ hb
  dsimp only at h
  split at h
  · split at h
    · cases h
      exact hordered
    · cases h
  · cases h

end StubHttp.Pattern
