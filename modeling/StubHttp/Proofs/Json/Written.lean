import StubHttp.Json.Value
import StubHttp.Proofs.Json.Numeral
import StubHttp.Proofs.Json.Quoted

/-!
# Documents and back

The compact and the pretty text of a value differ in their blanks only. With any blanks, what is
written is read as the document of the value, up to where the text ends.
-/
namespace StubHttp.Json

open Utf8 (Piece)

structure Spacing where
  line : Nat → List Char
  behindColon : List Char
  line_blank : ∀ n, ∀ c ∈ line n, Parse.isSpace (.char c) = true
  colon_blank : ∀ c ∈ behindColon, Parse.isSpace (.char c) = true

namespace Spacing

def tight : Spacing := ⟨fun _ => [], [], by simp, by simp⟩

theorem newline_blank (n : Nat) : ∀ c ∈ Value.newline n, Parse.isSpace (.char c) = true := by
  intro c hc
  rcases List.mem_cons.1 hc with rfl | hc
  · rfl
  · rw [List.eq_of_mem_replicate hc]
    rfl

theorem space_blank : ∀ c ∈ [' '], Parse.isSpace (.char c) = true := by
  intro c hc
  rw [List.mem_singleton.1 hc]
  rfl

def wide : Spacing := ⟨Value.newline, [' '], newline_blank, space_blank⟩

end Spacing

namespace Value

variable (y : Spacing)

mutual

def write (n : Nat) : Value → List Char
  | .null => "null".toList
  | .bool b => (if b then "true" else "false").toList
  | .number x => x.render.toList
  | .string s => Quoted.encode s
  | .array [] => ['[', ']']
  | .array (v :: vs) => '[' :: (y.line (n + 1) ++ (write (n + 1) v ++ writeItems n vs))
  | .object [] => ['{', '}']
  | .object ((k, v) :: ms) =>
    '{' :: (y.line (n + 1) ++ (Quoted.encode k ++ ':' :: (y.behindColon ++ (write (n + 1) v ++
      writeMembers n ms))))

def writeItems (n : Nat) : List Value → List Char
  | [] => y.line n ++ [']']
  | v :: vs => ',' :: (y.line (n + 1) ++ (write (n + 1) v ++ writeItems n vs))

def writeMembers (n : Nat) : List (String × Value) → List Char
  | [] => y.line n ++ ['}']
  | (k, v) :: ms =>
    ',' :: (y.line (n + 1) ++ (Quoted.encode k ++ ':' :: (y.behindColon ++ (write (n + 1) v ++
      writeMembers n ms))))

end

mutual

theorem write_tight (n : Nat) : ∀ v : Value, write .tight n v = compact v
  | .null | .bool _ | .number _ | .string _ | .array [] | .object [] => rfl
  | .array (v :: vs) => by
    rw [write, compact, write_tight (n + 1) v, writeItems_tight n vs]
    rfl
  | .object ((k, v) :: ms) => by
    rw [write, compact, write_tight (n + 1) v, writeMembers_tight n ms]
    rfl

theorem writeItems_tight (n : Nat) : ∀ vs : List Value, writeItems .tight n vs = compactItems vs
  | [] => rfl
  | v :: vs => by
    rw [writeItems, compactItems, write_tight (n + 1) v, writeItems_tight n vs]
    rfl

theorem writeMembers_tight (n : Nat) :
    ∀ ms : List (String × Value), writeMembers .tight n ms = compactMembers ms
  | [] => rfl
  | (k, v) :: ms => by
    rw [writeMembers, compactMembers, write_tight (n + 1) v, writeMembers_tight n ms]
    rfl

end

mutual

theorem write_wide (n : Nat) : ∀ v : Value, write .wide n v = pretty n v
  | .null | .bool _ | .number _ | .string _ | .array [] | .object [] => rfl
  | .array (v :: vs) => by
    rw [write, pretty, write_wide (n + 1) v, writeItems_wide n vs, List.append_assoc]
    rfl
  | .object ((k, v) :: ms) => by
    rw [write, pretty, write_wide (n + 1) v, writeMembers_wide n ms]
    simp only [List.append_assoc, List.cons_append, List.nil_append]
    rfl

theorem writeItems_wide (n : Nat) : ∀ vs : List Value, writeItems .wide n vs = prettyItems n vs
  | [] => rfl
  | v :: vs => by
    rw [writeItems, prettyItems, write_wide (n + 1) v, writeItems_wide n vs, List.append_assoc]
    rfl

theorem writeMembers_wide (n : Nat) :
    ∀ ms : List (String × Value), writeMembers .wide n ms = prettyMembers n ms
  | [] => rfl
  | (k, v) :: ms => by
    rw [writeMembers, prettyMembers, write_wide (n + 1) v, writeMembers_wide n ms]
    simp only [List.append_assoc, List.cons_append, List.nil_append]
    rfl

end

mutual

def Whole : Value → Prop
  | .null | .bool _ | .string _ => True
  | .number x => x.Whole
  | .array vs => WholeItems vs
  | .object ms => WholeMembers ms

def WholeItems : List Value → Prop
  | [] => True
  | v :: vs => v.Whole ∧ WholeItems vs

def WholeMembers : List (String × Value) → Prop
  | [] => True
  | (_, v) :: ms => v.Whole ∧ WholeMembers ms

end

end Value

namespace Parse

variable {bs : List Char} {c : Char} {s rest : List Piece} {fuel : Nat}

def Blank (bs : List Char) : Prop := ∀ c ∈ bs, isSpace (.char c) = true

theorem skipSpace_append (hb : Blank bs) : skipSpace (bs.map .char ++ s) = skipSpace s := by
  refine List.dropWhile_append_of_pos ?_
  intro p hp
  obtain ⟨c, hc, rfl⟩ := List.mem_map.1 hp
  exact hb c hc

theorem skipSpace_cons (hc : isSpace (.char c) = false) :
    skipSpace (.char c :: s) = .char c :: s :=
  List.dropWhile_cons_of_neg (Bool.eq_false_iff.1 hc)

theorem Apart.append (hb : Blank bs) (hs : Apart s) : Apart (bs.map .char ++ s) := by
  cases bs with
  | nil => exact hs
  | cons c bs =>
    have hc := hb c List.mem_cons_self
    simp only [isSpace, Bool.or_eq_true, decide_eq_true_eq] at hc
    rintro p ⟨rfl⟩
    rcases hc with ((rfl | rfl) | rfl) | rfl <;> decide

theorem value_append (hb : Blank bs) : value fuel (bs.map .char ++ s) = value fuel s := by
  cases fuel with
  | zero => rfl
  | succ fuel => rw [value, value, skipSpace_append hb]

theorem items_open (hb : Blank bs) (hc : isSpace (.char c) = false) (hend : c ≠ ']') :
    items (fuel + 1) true (bs.map .char ++ .char c :: s) = item fuel (.char c :: s) := by
  rw [items, skipSpace_append hb, skipSpace_cons hc]
  split
  case h_1 h => cases h
  case h_2 h => exact absurd (Piece.char.inj (List.cons.inj h).1) hend
  case h_3 h =>
    obtain ⟨rfl, rfl⟩ := List.cons.inj h
    rfl

theorem items_comma (hb : Blank bs) (hc : isSpace (.char c) = false) (hend : c ≠ ']') :
    items (fuel + 1) false (.char ',' :: (bs.map .char ++ .char c :: s)) =
      item fuel (.char c :: s) := by
  rw [items, skipSpace_cons rfl]
  split
  case h_1 h => cases h
  case h_2 h => exact absurd (Piece.char.inj (List.cons.inj h).1) (by decide)
  case h_3 h =>
    obtain ⟨rfl, rfl⟩ := List.cons.inj h
    rw [if_neg (by decide), if_pos rfl, skipSpace_append hb, skipSpace_cons hc]
    split
    case h_1 h => cases h
    case h_2 h => exact absurd (Piece.char.inj (List.cons.inj h).1) hend
    case h_3 => rfl

theorem items_close (first : Bool) (hb : Blank bs) :
    items (fuel + 1) first (bs.map .char ++ .char ']' :: s) = ([], none, some s) := by
  rw [items, skipSpace_append hb]
  rfl

theorem item_eq {d : Doc} {ds : List Doc} (hvalue : value fuel s = (d, some rest))
    {t : List Piece} (hitems : items fuel false rest = (ds, none, some t)) :
    item (fuel + 1) s = (d :: ds, none, some t) := by
  rw [item, hvalue]
  simp only [hitems]

theorem members_open (hb : Blank bs) :
    members (fuel + 1) true (bs.map .char ++ .char '"' :: s) = member fuel (.char '"' :: s) := by
  rw [members, skipSpace_append hb]
  rfl

theorem members_comma (hb : Blank bs) :
    members (fuel + 1) false (.char ',' :: (bs.map .char ++ .char '"' :: s)) =
      member fuel (.char '"' :: s) := by
  rw [members, skipSpace_cons rfl]
  split
  case h_1 h => cases h
  case h_2 h => exact absurd (Piece.char.inj (List.cons.inj h).1) (by decide)
  case h_3 h =>
    obtain ⟨rfl, rfl⟩ := List.cons.inj h
    rw [if_neg (by decide), if_pos rfl, skipSpace_append hb]
    rfl

theorem members_close (first : Bool) (hb : Blank bs) :
    members (fuel + 1) first (bs.map .char ++ .char '}' :: s) = ([], none, some s) := by
  rw [members, skipSpace_append hb]
  rfl

theorem member_eq {k : String} {d : Doc} {ms : List (Key × Doc)} {u : List Piece}
    (hb : Blank bs) (hvalue : value fuel s = (d, some rest))
    (hmembers : members fuel false rest = (ms, none, some u)) :
    member (fuel + 1) ((Quoted.encode k).map .char ++ .char ':' :: (bs.map .char ++ s)) =
      ((⟨.ok k, none, none⟩, d) :: ms, none, some u) := by
  have hscan := Quoted.scan_encode k (.char ':' :: (bs.map .char ++ s))
  have hcolon : colon (.char ':' :: (bs.map .char ++ s)) = .ok (bs.map .char ++ s) := rfl
  rw [Quoted.encode, List.map_cons, List.cons_append, member, hscan]
  simp only [hcolon, value_append hb, hvalue, hmembers]

theorem value_array {ds : List Doc} (h : items fuel true s = (ds, none, some rest)) :
    value (fuel + 1) (.char '[' :: s) = (.array ds none, some rest) := by
  rw [value, skipSpace_cons rfl]
  simp only [h]

theorem value_object {ms : List (Key × Doc)} (h : members fuel true s = (ms, none, some rest)) :
    value (fuel + 1) (.char '{' :: s) = (.object ms none, some rest) := by
  rw [value, skipSpace_cons rfl]
  simp only [h]

end Parse

namespace Value

variable (y : Spacing)

theorem write_start (n : Nat) {v : Value} (hv : v.Whole) : ∃ c cs, write y n v = c :: cs ∧
    Parse.isSpace (.char c) = false ∧ c ≠ ']' := by
  cases v with
  | null => exact ⟨_, _, rfl, by decide, by decide⟩
  | bool b => cases b <;> exact ⟨_, _, rfl, by decide, by decide⟩
  | number x =>
    cases x with
    | nat k =>
      obtain ⟨c, cs, hcs⟩ := List.exists_cons_of_ne_nil (Nat.toDigits_ne_nil (n := k) (b := 10))
      have hc : c.isDigit = true := Parse.isDigit_of_mem (hcs ▸ List.mem_cons_self)
      have hrender : (Numeral.nat k).render.toList = c :: cs := Nat.toList_repr.trans hcs
      refine ⟨c, cs, hrender, Parse.isSpace_of_digit (Parse.digit?_of_isDigit hc), ?_⟩
      rintro rfl
      cases hc
    | neg k =>
      have hrender : (Numeral.neg k).render = "-" ++ k.repr := rfl
      refine ⟨'-', k.repr.toList, ?_, by decide, by decide⟩
      rw [write, hrender, String.toList_append]
      rfl
    | decimal negative digits e => exact hv.elim
  | string s => exact ⟨_, _, rfl, by decide, by decide⟩
  | array vs => cases vs <;> exact ⟨_, _, rfl, by decide, by decide⟩
  | object ms => cases ms <;> exact ⟨_, _, rfl, by decide, by decide⟩

theorem length_write_pos (n : Nat) {v : Value} (hv : v.Whole) : 0 < (write y n v).length := by
  obtain ⟨c, cs, hwrite, -⟩ := write_start y n hv
  rw [hwrite]
  exact Nat.succ_pos _

theorem length_writeItems_pos (n : Nat) (vs : List Value) : 0 < (writeItems y n vs).length := by
  cases vs <;> simp [writeItems]

theorem length_writeMembers_pos (n : Nat) (ms : List (String × Value)) :
    0 < (writeMembers y n ms).length := by
  cases ms with
  | nil => simp [writeMembers]
  | cons e ms => simp [writeMembers]

theorem apart_writeItems (n : Nat) (vs : List Value) (rest : List Piece) :
    Parse.Apart ((writeItems y n vs).map .char ++ rest) := by
  cases vs with
  | nil =>
    rw [writeItems, List.map_append, List.append_assoc]
    refine Parse.Apart.append (y.line_blank n) ?_
    rintro p ⟨rfl⟩
    decide
  | cons v vs =>
    rintro p ⟨rfl⟩
    decide

theorem apart_writeMembers (n : Nat) (ms : List (String × Value)) (rest : List Piece) :
    Parse.Apart ((writeMembers y n ms).map .char ++ rest) := by
  cases ms with
  | nil =>
    rw [writeMembers, List.map_append, List.append_assoc]
    refine Parse.Apart.append (y.line_blank n) ?_
    rintro p ⟨rfl⟩
    decide
  | cons e ms =>
    rintro p ⟨rfl⟩
    decide

theorem items_open_write (n : Nat) {v : Value} (hv : v.Whole) (fuel : Nat) (s : List Piece) :
    Parse.items (fuel + 1) true
        ((y.line (n + 1)).map .char ++ ((write y (n + 1) v).map .char ++ s)) =
      Parse.item fuel ((write y (n + 1) v).map .char ++ s) := by
  obtain ⟨c, cs, hwrite, hc, hend⟩ := write_start y (n + 1) hv
  rw [hwrite]
  exact Parse.items_open (y.line_blank (n + 1)) hc hend

theorem items_comma_write (n : Nat) {v : Value} (hv : v.Whole) (fuel : Nat) (s : List Piece) :
    Parse.items (fuel + 1) false
        (.char ',' :: ((y.line (n + 1)).map .char ++ ((write y (n + 1) v).map .char ++ s))) =
      Parse.item fuel ((write y (n + 1) v).map .char ++ s) := by
  obtain ⟨c, cs, hwrite, hc, hend⟩ := write_start y (n + 1) hv
  rw [hwrite]
  exact Parse.items_comma (y.line_blank (n + 1)) hc hend

mutual

theorem value_write (n : Nat) : ∀ (v : Value) (fuel : Nat) (rest : List Piece), v.Whole →
    2 * (write y n v).length ≤ fuel → Parse.Apart rest →
      Parse.value fuel ((write y n v).map .char ++ rest) = (Doc.ofValue v, some rest)
  | v, 0, _, hv, hfuel, _ => by
    have hpos := length_write_pos y n hv
    omega
  | .null, fuel + 1, rest, _, _, _ => rfl
  | .bool true, fuel + 1, rest, _, _, _ => rfl
  | .bool false, fuel + 1, rest, _, _, _ => rfl
  | .number x, fuel + 1, rest, hx, _, hrest => Parse.value_render fuel hx hrest
  | .string s, fuel + 1, rest, _, _, _ => by
    have hscan := Quoted.scan_encode s rest
    rw [write, Quoted.encode, List.map_cons, List.cons_append, Parse.value,
      Parse.skipSpace_cons rfl]
    simp only [hscan]
    rfl
  | .array [], fuel + 1, rest, _, hfuel, _ => by
    obtain ⟨f, rfl⟩ : ∃ f, fuel = f + 1 := ⟨fuel - 1, by simp [write] at hfuel; omega⟩
    rfl
  | .array (v :: vs), fuel + 1, rest, hv, hfuel, _ => by
    obtain ⟨hfirst, hmore⟩ : v.Whole ∧ WholeItems vs := hv
    have hpos := length_write_pos y (n + 1) hfirst
    have hend := length_writeItems_pos y n vs
    simp only [write, List.length_cons, List.length_append] at hfuel
    obtain ⟨f, rfl⟩ : ∃ f, fuel = f + 2 := ⟨fuel - 2, by omega⟩
    have hitem := Parse.item_eq
      (value_write (n + 1) v f _ hfirst (by omega) (apart_writeItems y n vs rest))
      (items_write n vs f rest hmore (by omega))
    have hitems := items_open_write y n hfirst (f + 1) ((writeItems y n vs).map .char ++ rest)
    rw [hitem] at hitems
    rw [write, List.map_cons, List.map_append, List.map_append, List.cons_append, List.append_assoc,
      List.append_assoc]
    exact Parse.value_array hitems
  | .object [], fuel + 1, rest, _, hfuel, _ => by
    obtain ⟨f, rfl⟩ : ∃ f, fuel = f + 1 := ⟨fuel - 1, by simp [write] at hfuel; omega⟩
    rfl
  | .object ((k, v) :: ms), fuel + 1, rest, hv, hfuel, _ => by
    obtain ⟨hfirst, hmore⟩ : v.Whole ∧ WholeMembers ms := hv
    have hpos := length_write_pos y (n + 1) hfirst
    have hend := length_writeMembers_pos y n ms
    simp only [write, List.length_cons, List.length_append] at hfuel
    obtain ⟨f, rfl⟩ : ∃ f, fuel = f + 2 := ⟨fuel - 2, by omega⟩
    have hmember := Parse.member_eq (k := k) y.colon_blank
      (value_write (n + 1) v f _ hfirst (by omega) (apart_writeMembers y n ms rest))
      (members_write n ms f rest hmore (by omega))
    have hmembers := (Parse.members_open (y.line_blank (n + 1))).trans hmember
    rw [write, List.map_cons, List.map_append, List.map_append, List.map_cons, List.map_append,
      List.map_append]
    simp only [List.cons_append, List.append_assoc]
    exact Parse.value_object hmembers

theorem items_write (n : Nat) : ∀ (vs : List Value) (fuel : Nat) (rest : List Piece),
    WholeItems vs → 2 * (writeItems y n vs).length ≤ fuel →
      Parse.items fuel false ((writeItems y n vs).map .char ++ rest) =
        (Doc.ofValues vs, none, some rest)
  | vs, 0, _, _, hfuel => by
    have hpos := length_writeItems_pos y n vs
    omega
  | [], fuel + 1, rest, _, _ => by
    rw [writeItems, List.map_append, List.append_assoc]
    exact Parse.items_close false (y.line_blank n)
  | v :: vs, fuel + 1, rest, hvs, hfuel => by
    obtain ⟨hfirst, hmore⟩ : v.Whole ∧ WholeItems vs := hvs
    have hpos := length_write_pos y (n + 1) hfirst
    have hend := length_writeItems_pos y n vs
    simp only [writeItems, List.length_cons, List.length_append] at hfuel
    obtain ⟨f, rfl⟩ : ∃ f, fuel = f + 1 := ⟨fuel - 1, by omega⟩
    have hitem := Parse.item_eq
      (value_write (n + 1) v f _ hfirst (by omega) (apart_writeItems y n vs rest))
      (items_write n vs f rest hmore (by omega))
    rw [writeItems, List.map_cons, List.map_append, List.map_append, List.cons_append,
      List.append_assoc, List.append_assoc, items_comma_write y n hfirst, hitem]
    rfl

theorem members_write (n : Nat) : ∀ (ms : List (String × Value)) (fuel : Nat) (rest : List Piece),
    WholeMembers ms → 2 * (writeMembers y n ms).length ≤ fuel →
      Parse.members fuel false ((writeMembers y n ms).map .char ++ rest) =
        (Doc.ofMembers ms, none, some rest)
  | ms, 0, _, _, hfuel => by
    have hpos := length_writeMembers_pos y n ms
    omega
  | [], fuel + 1, rest, _, _ => by
    rw [writeMembers, List.map_append, List.append_assoc]
    exact Parse.members_close false (y.line_blank n)
  | (k, v) :: ms, fuel + 1, rest, hms, hfuel => by
    obtain ⟨hfirst, hmore⟩ : v.Whole ∧ WholeMembers ms := hms
    have hpos := length_write_pos y (n + 1) hfirst
    have hend := length_writeMembers_pos y n ms
    simp only [writeMembers, List.length_cons, List.length_append] at hfuel
    obtain ⟨f, rfl⟩ : ∃ f, fuel = f + 1 := ⟨fuel - 1, by omega⟩
    have hmember := Parse.member_eq (k := k) y.colon_blank
      (value_write (n + 1) v f _ hfirst (by omega) (apart_writeMembers y n ms rest))
      (members_write n ms f rest hmore (by omega))
    have hmembers := (Parse.members_comma (y.line_blank (n + 1))).trans hmember
    rw [writeMembers, List.map_cons, List.map_append, List.map_append, List.map_cons, List.map_append,
      List.map_append]
    simp only [List.cons_append, List.append_assoc]
    exact hmembers

end

theorem parse_write {v : Value} (hv : v.Whole) :
    Doc.parse ((write y 0 v).map .char) = ⟨Doc.ofValue v, false⟩ := by
  have hread := value_write y 0 v (3 * (write y 0 v).length + 3) [] hv (by omega)
    (fun p hp => nomatch hp)
  rw [List.append_nil] at hread
  rw [Doc.parse, List.length_map, hread]
  rfl

theorem parse_render {v : Value} (hv : v.Whole) :
    Doc.parse (pieces v.render) = ⟨Doc.ofValue v, false⟩ := by
  rw [pieces, render, String.toList_ofList, ← write_tight 0 v]
  exact parse_write .tight hv

theorem parse_renderPretty {v : Value} (hv : v.Whole) :
    Doc.parse (pieces v.renderPretty) = ⟨Doc.ofValue v, false⟩ := by
  rw [pieces, renderPretty, String.toList_ofList, ← write_wide 0 v]
  exact parse_write .wide hv

end Value

end StubHttp.Json
