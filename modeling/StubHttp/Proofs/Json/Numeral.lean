import StubHttp.Json.Parse

/-!
# Whole numbers and back

A whole number in the range of its sign is read off its digits, unless what follows continues it.
-/
namespace StubHttp.Json

open Utf8 (Piece)

def Numeral.Whole : Numeral → Prop
  | .nat n => n < 0x10000000000000000
  | .neg n => 0 < n ∧ n ≤ 0x8000000000000000
  | .decimal .. => False

namespace Parse

def Apart (s : List Piece) : Prop :=
  ∀ p ∈ s.head?, digit? p = none ∧ p ≠ .char '.' ∧ p ≠ .char 'e' ∧ p ≠ .char 'E'

theorem digit?_of_isDigit {c : Char} (h : c.isDigit = true) :
    digit? (.char c) = some (c.toNat - 48) := by
  simp only [Char.isDigit, Bool.and_eq_true, decide_eq_true_eq, ge_iff_le] at h
  rw [digit?]
  exact if_pos h

theorem digits_append {cs : List Char} {rest : List Piece} (hcs : ∀ c ∈ cs, c.isDigit = true)
    (hrest : Apart rest) :
    digits (cs.map .char ++ rest) = (cs.map fun c => c.toNat - 48, rest) := by
  induction cs with
  | nil =>
    cases rest with
    | nil => rfl
    | cons p rest =>
      have hp : digit? p = none := (hrest p rfl).1
      rw [List.map_nil, List.nil_append, digits, hp]
      rfl
  | cons c cs ih =>
    have hc := digit?_of_isDigit (hcs c List.mem_cons_self)
    rw [List.map_cons, List.cons_append, digits, hc, ih fun d hd => hcs d (List.mem_cons_of_mem _ hd)]
    rfl

theorem afterWhole_of_apart {rest : List Piece} (negative : Bool) (whole : List Nat)
    (hrest : Apart rest) :
    afterWhole negative whole rest = (.number (.ofDigits negative whole), some rest) := by
  unfold afterWhole
  split
  case h_1 r => exact absurd rfl (hrest _ rfl).2.1
  case h_2 r => exact absurd rfl (hrest _ rfl).2.2.1
  case h_3 r => exact absurd rfl (hrest _ rfl).2.2.2
  case h_4 => rfl

def figures (n : Nat) : List Nat := (Nat.toDigits 10 n).map fun c => c.toNat - 48

theorem isDigit_of_mem {n : Nat} {c : Char} (h : c ∈ Nat.toDigits 10 n) : c.isDigit = true :=
  Nat.isDigit_of_mem_toDigits (by decide) (by decide) h

theorem figures_ne_nil (n : Nat) : figures n ≠ [] := by
  rw [figures, Ne, List.map_eq_nil_iff]
  exact Nat.toDigits_ne_nil

theorem foldl_figures (n : Nat) : (figures n).foldl (fun n d => n * 10 + d) 0 = n := by
  have hvalue := Nat.ofDigitChars_ten_toDigits (n := n)
  rw [Nat.ofDigitChars_eq_foldl] at hvalue
  rw [figures, List.foldl_map]
  simp only [Nat.mul_comm 10] at hvalue
  exact hvalue

theorem figures_of_lt {n : Nat} (h : n < 10) : figures n = [n] := by
  have hdigit : ∀ n < 10, n.digitChar.toNat - 48 = n := by decide
  rw [figures, Nat.toDigits_of_lt_base h, List.map_singleton, hdigit n h]

theorem figures_of_le {n : Nat} (h : 10 ≤ n) : figures n = figures (n / 10) ++ [n % 10] := by
  have hdigit : ∀ n < 10, n.digitChar.toNat - 48 = n := by decide
  rw [figures, Nat.toDigits_of_base_le (by decide) h, List.map_append, List.map_singleton,
    hdigit _ (Nat.mod_lt n (by decide))]
  rfl

theorem figures_head {n : Nat} (h : 0 < n) : ∃ d ds, figures n = d :: ds ∧ d ≠ 0 := by
  induction n using Nat.strongRecOn with
  | ind n ih =>
    by_cases hn : n < 10
    · exact ⟨n, [], figures_of_lt hn, by omega⟩
    · obtain ⟨d, ds, hds, hd⟩ := ih (n / 10) (by omega) (by omega)
      refine ⟨d, ds ++ [n % 10], ?_, hd⟩
      rw [figures_of_le (by omega), hds, List.cons_append]

theorem number_toDigits {n : Nat} {rest : List Piece} (negative : Bool) (hrest : Apart rest) :
    number negative ((Nat.toDigits 10 n).map .char ++ rest) =
      (.number (.ofDigits negative (figures n)), some rest) := by
  have hdigits : digits ((Nat.toDigits 10 n).map .char ++ rest) = (figures n, rest) :=
    digits_append (fun c hc => isDigit_of_mem hc) hrest
  rw [number, hdigits]
  split
  case h_1 h => exact absurd (Prod.mk.inj h).1 (figures_ne_nil n)
  case h_2 d ds _ h =>
    have hds := (Prod.mk.inj h).1
    by_cases hn : n < 10
    · rw [figures_of_lt hn] at hds
      cases hds
    · obtain ⟨d', ds', hds', hd⟩ := figures_head (n := n) (by omega)
      rw [hds'] at hds
      exact absurd (List.cons.inj hds).1 hd
  case h_3 h =>
    obtain ⟨rfl, rfl⟩ := Prod.mk.inj h
    exact afterWhole_of_apart negative _ hrest

theorem ofDigits_nat {n : Nat} (h : (Numeral.nat n).Whole) :
    Numeral.ofDigits false (figures n) = .nat n := by
  have hn : n < 0x10000000000000000 := h
  rw [Numeral.ofDigits, foldl_figures, if_neg (by decide), if_pos hn]

theorem ofDigits_neg {n : Nat} (h : (Numeral.neg n).Whole) :
    Numeral.ofDigits true (figures n) = .neg n := by
  have hn : 0 < n ∧ n ≤ 0x8000000000000000 := h
  rw [Numeral.ofDigits, foldl_figures, if_pos rfl, if_pos hn]

theorem isSpace_of_digit {p : Piece} {d : Nat} (h : digit? p = some d) : isSpace p = false := by
  cases p with
  | junk n => cases h
  | char c =>
    rw [isSpace, Bool.eq_false_iff]
    intro hc
    simp only [Bool.or_eq_true, decide_eq_true_eq] at hc
    rcases hc with ((rfl | rfl) | rfl) | rfl <;> cases h

theorem value_of_digit {p : Piece} {d : Nat} (fuel : Nat) (s : List Piece) (h : digit? p = some d) :
    value (fuel + 1) (p :: s) = number false (p :: s) := by
  have hspace : skipSpace (p :: s) = p :: s :=
    List.dropWhile_cons_of_neg (Bool.eq_false_iff.1 (isSpace_of_digit h))
  rw [value, hspace]
  split
  case h_9 q r hq =>
    obtain ⟨rfl, rfl⟩ := List.cons.inj hq
    rw [h]
    rfl
  case h_1 hq => cases hq
  all_goals
    rename_i hq
    rw [(List.cons.inj hq).1] at h
    cases h

theorem value_render {x : Numeral} {rest : List Piece} (fuel : Nat) (hx : x.Whole)
    (hrest : Apart rest) :
    value (fuel + 1) (x.render.toList.map .char ++ rest) = (.number x, some rest) := by
  cases x with
  | nat n =>
    have hchars : (Numeral.nat n).render.toList = Nat.toDigits 10 n := Nat.toList_repr
    obtain ⟨c, cs, hcs⟩ := List.exists_cons_of_ne_nil (Nat.toDigits_ne_nil (n := n) (b := 10))
    have hc : c.isDigit = true := isDigit_of_mem (hcs ▸ List.mem_cons_self)
    have hnumber := number_toDigits (n := n) false hrest
    rw [ofDigits_nat hx] at hnumber
    rw [hchars, ← hnumber, hcs]
    exact value_of_digit fuel _ (digit?_of_isDigit hc)
  | neg n =>
    have hchars : (Numeral.neg n).render.toList = '-' :: Nat.toDigits 10 n := by
      have hrender : (Numeral.neg n).render = "-" ++ n.repr := rfl
      rw [hrender, String.toList_append, Nat.toList_repr]
      rfl
    have hnumber := number_toDigits (n := n) true hrest
    rw [ofDigits_neg hx] at hnumber
    rw [hchars, ← hnumber]
    rfl
  | decimal negative n e => exact hx.elim

end Parse

end StubHttp.Json
