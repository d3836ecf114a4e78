import Mathlib.Data.List.Forall2
import Mathlib.Data.List.Induction
import Mathlib.Data.Nat.Digits.Defs
import Mathlib.Tactic.SplitIfs
import StubHttp.Proofs.Yaml.Reader

/-!
# What nodes stand for

A scalar stands for its text, and it may stand for nothing, or for a number that its text writes in tens or
in another base. A node may be found by a reference to it. The readers of texts, numbers and optional texts
give what nodes stand for.
-/
namespace StubHttp.Yaml

def Figures (radix : Nat) (w : List Char) (n : Nat) : Prop :=
  w ≠ [] ∧ ∃ ds, List.Forall₂ (fun c d => d < radix ∧ (c = d.digitChar ∨ c = d.digitChar.toUpper)) w ds ∧
    n = Nat.ofDigits radix ds.reverse

/-- The ways to write a whole number. No zero leads in tens. -/
inductive Numeral : List Char → Nat → Prop
  | tens {w : List Char} {n : Nat} (h : Figures 10 w n) (hzero : w.head? = some '0' → w = ['0']) :
      Numeral w n
  | sixteens {w : List Char} {n : Nat} (h : Figures 16 w n) : Numeral ('0' :: 'x' :: w) n
  | eights {w : List Char} {n : Nat} (h : Figures 8 w n) : Numeral ('0' :: 'o' :: w) n
  | twos {w : List Char} {n : Nat} (h : Figures 2 w n) : Numeral ('0' :: 'b' :: w) n

namespace Node

/-- What stands in a place, be it a reference. -/
inductive Finds (document : Node) : Node → Node → Prop
  | here {node : Node} (h : ∀ n, node ≠ .reference n) : Finds document node node
  | anchor {n : Nat} {node : Node} (h : document.anchored? n = some node) :
      Finds document (.reference n) node

def IsText (document node : Node) (s : String) : Prop :=
  ∃ p style, Finds document node (.scalar p style s)

/-- A plain scalar, or a literal block with the tag of numbers. A plus sign may come first. -/
def IsNumber (document node : Node) (n : Nat) : Prop :=
  ∃ p style s w, Finds document node (.scalar p style s) ∧
    (style = .plain ∨ style = .literal ∧ p.tag = some (Utf8.bytes "tag:yaml.org,2002:int")) ∧
    (s.toList = w ∨ s.toList = '+' :: w) ∧ Numeral w n

def nothings : List String := ["", "~", "null", "Null", "NULL"]

inductive IsOptionalText (document node : Node) : Option String → Prop
  | nothing {p : Properties} {s : String} (h : Finds document node (.scalar p .plain s))
      (hs : s ∈ nothings) : IsOptionalText document node none
  | text {p : Properties} {style : Style} {s : String} (h : Finds document node (.scalar p style s))
      (hs : style = .plain → p.tag = none → s ∉ nothings) : IsOptionalText document node (some s)

/-- The node at the end of a path of keys. Of entries with one key the first counts. -/
inductive Under (document : Node) : List String → Node → Prop
  | top : Under document [] document
  | entry {path : List String} {node k v : Node} {p : Properties} {before after : List (Node × Node)}
      {name : String} (hnode : Under document path node)
      (hmap : Finds document node (.map p (before ++ (k, v) :: after))) (hkey : IsText document k name)
      (hbefore : ∀ e ∈ before, ¬ IsText document e.1 name) : Under document (path ++ [name]) v

end Node

namespace Node

variable {n : Nat}

mutual

theorem anchor_of_anchored? : ∀ {document t : Node}, anchored? n document = some t →
    t.properties.anchor = some n
  | .scalar p style s, t, h => by
    rw [anchored?] at h
    split at h
    case isTrue hp => exact Option.some.inj h ▸ hp
    case isFalse => cases h
  | .list p items, t, h => by
    rw [anchored?, Option.or_eq_some_iff] at h
    rcases h with h | ⟨-, h⟩
    · exact anchor_of_anchoredItem? h
    · split at h
      case isTrue hp => exact Option.some.inj h ▸ hp
      case isFalse => cases h
  | .map p entries, t, h => by
    rw [anchored?, Option.or_eq_some_iff] at h
    rcases h with h | ⟨-, h⟩
    · exact anchor_of_anchoredPair? h
    · split at h
      case isTrue hp => exact Option.some.inj h ▸ hp
      case isFalse => cases h
  | .reference _, t, h => by
    rw [anchored?] at h
    cases h

theorem anchor_of_anchoredItem? : ∀ {items : List Node} {t : Node}, anchoredItem? n items = some t →
    t.properties.anchor = some n
  | [], t, h => by
    rw [anchoredItem?] at h
    cases h
  | x :: xs, t, h => by
    rw [anchoredItem?, Option.or_eq_some_iff] at h
    rcases h with h | ⟨-, h⟩
    · exact anchor_of_anchoredItem? h
    · exact anchor_of_anchored? h

theorem anchor_of_anchoredPair? : ∀ {entries : List (Node × Node)} {t : Node},
    anchoredPair? n entries = some t → t.properties.anchor = some n
  | [], t, h => by
    rw [anchoredPair?] at h
    cases h
  | (k, v) :: es, t, h => by
    rw [anchoredPair?, Option.or_eq_some_iff, Option.or_eq_some_iff] at h
    rcases h with (h | ⟨-, h⟩) | ⟨-, h⟩
    · exact anchor_of_anchoredPair? h
    · exact anchor_of_anchored? h
    · exact anchor_of_anchored? h

end

variable {document node t : Node}

theorem Finds.ne_reference (h : Finds document node t) (m : Nat) : t ≠ .reference m := by
  rintro rfl
  cases h with
  | here h => exact h m rfl
  | anchor h => cases anchor_of_anchored? h

end Node

namespace Reader

open Yaml.Node

variable {document node t : Node} {s : String} {n radix limit : Nat} {w : List Char}

theorem target?_eq_some_iff : target? document node = some t ↔ Finds document node t := by
  cases node with
  | reference n =>
    constructor
    · exact .anchor
    · intro h
      cases h with
      | here h => exact absurd rfl (h n)
      | anchor h => exact h
  | scalar p style s => exact ⟨fun h => Option.some.inj h ▸ .here nofun, fun h => by cases h; rfl⟩
  | list p items => exact ⟨fun h => Option.some.inj h ▸ .here nofun, fun h => by cases h; rfl⟩
  | map p entries => exact ⟨fun h => Option.some.inj h ▸ .here nofun, fun h => by cases h; rfl⟩

theorem text_eq_some_iff : text document node = some s ↔ IsText document node s := by
  simp only [text, Option.bind_eq_bind, Option.bind_eq_some_iff, target?_eq_some_iff, IsText]
  constructor
  · rintro ⟨t, ht, h⟩
    split at h
    case h_1 p style s' =>
      cases h
      exact ⟨p, style, ht⟩
    case h_2 => cases h
  · rintro ⟨p, style, ht⟩
    exact ⟨_, ht, rfl⟩

theorem hexValue?_eq_some {c : Char} {d : Nat} (h : hexValue? c = some d) :
    c = d.digitChar ∨ c = d.digitChar.toUpper := by
  have hall : ∀ m < 103, ∀ d ∈ hexValue? (Char.ofNat m),
      Char.ofNat m = d.digitChar ∨ Char.ofNat m = d.digitChar.toUpper := by decide
  have hlt : c.toNat < 103 := by
    by_contra hge
    have hlow : ¬ c ≤ '9' := fun hc => hge (Nat.lt_of_le_of_lt hc (by decide))
    have hsmall : ¬ c ≤ 'f' := fun hc => hge (Nat.lt_of_le_of_lt hc (by decide))
    have hcapital : ¬ c ≤ 'F' := fun hc => hge (Nat.lt_of_le_of_lt hc (by decide))
    simp [hexValue?, hlow, hsmall, hcapital] at h
  have hc := hall c.toNat hlt d
  rw [Char.ofNat_toNat] at hc
  exact hc h

theorem figures_of_foldl {a? : Option Nat}
    (h : w.foldl (fun a? c => (hexValue? c).filter (· < radix) >>= fun d => a? >>= fun a =>
      pure (a * radix + d)) a? = some n) :
    ∃ a ds, a? = some a ∧
      List.Forall₂ (fun c d => d < radix ∧ (c = d.digitChar ∨ c = d.digitChar.toUpper)) w ds ∧
      n = ds.foldl (fun a d => a * radix + d) a := by
  induction w generalizing a? with
  | nil => exact ⟨n, [], h, .nil, rfl⟩
  | cons c w ih =>
    obtain ⟨b, ds, hb, hds, rfl⟩ := ih h
    obtain ⟨d, hd, hb⟩ := Option.bind_eq_some_iff.1 hb
    obtain ⟨a, rfl, hb⟩ := Option.bind_eq_some_iff.1 hb
    obtain ⟨hvalue, hlt⟩ := Option.filter_eq_some_iff.1 hd
    obtain rfl := Option.some.inj hb
    exact ⟨a, d :: ds, rfl, .cons ⟨of_decide_eq_true hlt, hexValue?_eq_some hvalue⟩ hds, rfl⟩

theorem figures_of_digits? (h : digits? radix w = some n) : Figures radix w n := by
  rw [digits?] at h
  split_ifs at h with hempty
  obtain ⟨a, ds, ha, hds, rfl⟩ := figures_of_foldl h
  obtain rfl := Option.some.inj ha
  refine ⟨by simpa using hempty, ds, hds, ?_⟩
  rw [Nat.ofDigits_eq_foldr, List.foldr_reverse]
  simp only [Nat.cast_id, Nat.mul_comm, Nat.add_comm]

theorem numeral_of_unsigned? (h : unsigned? w = some n) : Numeral w n := by
  rw [unsigned?.eq_def] at h
  split at h
  case h_1 => exact .sixteens (figures_of_digits? h)
  case h_2 => exact .eights (figures_of_digits? h)
  case h_3 => exact .twos (figures_of_digits? h)
  case h_4 => cases h
  case h_5 hsingle =>
    refine .tens (figures_of_digits? h) fun hhead => ?_
    cases w with
    | nil => cases hhead
    | cons c w =>
      obtain rfl := Option.some.inj hhead
      cases w with
      | nil => rfl
      | cons d w => exact absurd rfl (hsingle d w)

theorem numeral_of_natural? (h : natural? s = some n) :
    ∃ w, (s.toList = w ∨ s.toList = '+' :: w) ∧ Numeral w n := by
  rw [natural?] at h
  split at h
  case h_1 w hs => exact ⟨w, .inr hs, numeral_of_unsigned? h⟩
  case h_2 => exact ⟨_, .inl rfl, numeral_of_unsigned? h⟩

theorem isNumber_of_natural (h : natural limit document node = some n) :
    IsNumber document node n ∧ n < limit := by
  obtain ⟨t, ht, h⟩ := Option.bind_eq_some_iff.1 h
  split at h
  case h_1 p style s =>
    split_ifs at h with hstyle
    obtain ⟨hs, hlt⟩ := Option.filter_eq_some_iff.1 h
    obtain ⟨w, hw, hn⟩ := numeral_of_natural? hs
    refine ⟨⟨p, style, s, w, target?_eq_some_iff.1 ht, ?_, hw, hn⟩, of_decide_eq_true hlt⟩
    simpa [mayBeNumber] using hstyle
  case h_2 => cases h

theorem eq_scalar_of_text (h : Finds document node t) (htext : text document t = some s) :
    ∃ p style, t = .scalar p style s := by
  obtain ⟨p, style, hfinds⟩ := text_eq_some_iff.1 htext
  cases hfinds with
  | here => exact ⟨p, style, rfl⟩
  | anchor => exact absurd rfl (h.ne_reference _)

theorem isOptionalText_of_option {a : Option String} (h : option text document node = some a) :
    IsOptionalText document node a := by
  obtain ⟨t, ht, h⟩ := Option.bind_eq_some_iff.1 h
  have hfinds := target?_eq_some_iff.1 ht
  have hnothing : ∀ s, isNull s = true → s ∈ nothings := by
    intro s hs
    exact List.mem_cons_of_mem _ (List.contains_iff_mem.1 hs)
  split at h
  case h_1 p s =>
    split at h
    case h_1 tag htag =>
      split_ifs at h with hnull hs
      · obtain rfl := Option.some.inj h
        exact .nothing hfinds (hnothing s hs)
      · obtain ⟨s', hs', rfl⟩ := Option.map_eq_some_iff.1 h
        obtain ⟨p', style, hscalar⟩ := eq_scalar_of_text hfinds hs'
        cases hscalar
        exact .text hfinds fun _ hnone => absurd (htag.symm.trans hnone) (by simp)
    case h_2 htag =>
      split_ifs at h with hs
      · obtain rfl := Option.some.inj h
        exact .nothing hfinds (hs.elim (· ▸ List.mem_cons_self) (hnothing s))
      · obtain ⟨s', hs', rfl⟩ := Option.map_eq_some_iff.1 h
        obtain ⟨p', style, hscalar⟩ := eq_scalar_of_text hfinds hs'
        cases hscalar
        refine .text hfinds fun _ _ hmem => hs ?_
        rcases List.mem_cons.1 hmem with hempty | hmem
        · exact .inl hempty
        · exact .inr (List.contains_iff_mem.2 hmem)
  case h_2 hplain =>
    obtain ⟨s, hs, rfl⟩ := Option.map_eq_some_iff.1 h
    obtain ⟨p, style, rfl⟩ := eq_scalar_of_text hfinds hs
    refine .text hfinds fun hstyle => ?_
    subst hstyle
    exact absurd rfl (hplain p s)

theorem value?_eq_some_iff {es : List (Node × Node)} : value? document es s = some t ↔
    ∃ before k after, es = before ++ (k, t) :: after ∧ IsText document k s ∧
      ∀ e ∈ before, ¬ IsText document e.1 s := by
  simp only [value?, Option.map_eq_some_iff, List.find?_eq_some_iff_append, Bool.not_eq_true',
    decide_eq_true_iff, decide_eq_false_iff_not, text_eq_some_iff]
  constructor
  · rintro ⟨⟨k, _⟩, ⟨hk, before, after, hes, hbefore⟩, rfl⟩
    exact ⟨before, k, after, hes, hk, hbefore⟩
  · rintro ⟨before, k, after, hes, hk, hbefore⟩
    exact ⟨(k, t), ⟨hk, before, after, hes, hbefore⟩, rfl⟩

theorem member?_eq_some_iff : member? document node s = some t ↔
    ∃ p es, Finds document node (.map p es) ∧ value? document es s = some t := by
  simp only [← target?_eq_some_iff, member?]
  cases target? document node with
  | none => simp
  | some n => cases n <;> simp

theorem at?_append (document : Node) (path : List String) (name : String) :
    document.at? (path ++ [name]) =
      (document.at? path).bind fun node => member? document node name := by
  rw [Node.at?, List.foldl_append]
  rfl

theorem under_iff {path : List String} :
    Under document path node ↔ document.at? path = some node := by
  constructor
  · intro h
    induction h with
    | top => rfl
    | entry hnode hmap hkey hbefore ih =>
      rw [at?_append, ih]
      exact member?_eq_some_iff.2 ⟨_, _, hmap, value?_eq_some_iff.2 ⟨_, _, _, rfl, hkey, hbefore⟩⟩
  · induction path using List.reverseRecOn generalizing node with
    | nil =>
      intro h
      obtain rfl := Option.some.inj h
      exact .top
    | append_singleton path name ih =>
      intro h
      rw [at?_append] at h
      obtain ⟨parent, hparent, hmember⟩ := Option.bind_eq_some_iff.1 h
      obtain ⟨p, es, hmap, hvalue⟩ := member?_eq_some_iff.1 hmember
      obtain ⟨before, k, after, rfl, hkey, hbefore⟩ := value?_eq_some_iff.1 hvalue
      exact .entry (ih hparent) hmap hkey hbefore

end Reader

end StubHttp.Yaml
