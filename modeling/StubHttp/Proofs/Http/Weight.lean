import StubHttp.Proofs.Http.Query
import StubHttp.Proofs.Text.Dict

/-!
# The weight of a query

A map of parameters weighs as much as the bytes of its names and values, and one for each value. Text in
front of a question mark adds to the weight of the query behind it, so a query never reads like what
follows a question mark in it.
-/
namespace StubHttp

open Text

def Assoc.weight (l : List (String × List String)) : Nat :=
  (l.map fun e => (e.2.map fun v =>
    (Utf8.bytes e.1).length + (Utf8.bytes v).length + 1).sum).sum

def Multimap.weight (m : Multimap) : Nat := Assoc.weight m.entries

theorem Assoc.weight_alter (k v : String) (l : List (String × List String)) :
    weight (alter k (fun vs => vs.getD [] ++ [v]) l) =
      weight l + ((Utf8.bytes k).length + (Utf8.bytes v).length + 1) := by
  refine sum_alter (w := fun k vs => (vs.map fun v =>
    (Utf8.bytes k).length + (Utf8.bytes v).length + 1).sum) ?_ (fun vs => ?_) l
  · simp
  · simp

theorem Multimap.weight_ofPairs (l : List (String × String)) :
    weight (ofPairs l) =
      (l.map fun p => (Utf8.bytes p.1).length + (Utf8.bytes p.2).length + 1).sum := by
  have hfold : ∀ m : Multimap, weight (l.foldl (fun m e => m.add e.1 e.2) m) = weight m +
      (l.map fun p => (Utf8.bytes p.1).length + (Utf8.bytes p.2).length + 1).sum := by
    induction l with
    | nil => intro m; rfl
    | cons p l ih =>
      intro m
      have hadd : weight (m.add p.1 p.2) =
        weight m + ((Utf8.bytes p.1).length + (Utf8.bytes p.2).length + 1) := Assoc.weight_alter _ _ _
      rw [List.foldl_cons, ih, hadd, List.map_cons, List.sum_cons, Nat.add_assoc]
  have hempty : weight {} = 0 := rfl
  rw [ofPairs, hfold, hempty, Nat.zero_add]

namespace Query

variable {c : Char} {a b : List Char}

theorem unescape_of_not_hex {d e : UInt8} (rest : List UInt8)
    (h : ∀ u v, hexDigit? d = some u → hexDigit? e = some v → False) :
    unescape (37 :: d :: e :: rest) = 37 :: unescape (d :: e :: rest) := by
  rw [unescape]
  split
  case h_1 u v hd he => exact (h u v hd he).elim
  case h_2 => rfl

theorem unescape_append_cons {x : UInt8} (hx : x ≠ 37) (hdigit : hexDigit? x = none)
    (xs ys : List UInt8) : unescape (xs ++ x :: ys) = unescape xs ++ x :: unescape ys := by
  fun_induction unescape xs with
  | case1 d e rest u v hu hv ih => simp only [List.cons_append, unescape, hu, hv, ih]
  | case2 d e rest h ih =>
    rw [List.cons_append] at ih ⊢
    exact (unescape_of_not_hex _ h).trans (congrArg (37 :: ·) ih)
  | case3 d rest h ih =>
    by_cases hd : d = 37
    · -- too little follows the percent sign for two digits in front of `x`
      subst hd
      refine Eq.trans ?_ (congrArg (37 :: ·) ih)
      cases rest with
      | nil =>
        cases ys with
        | nil =>
          rw [List.nil_append, List.cons_append, List.nil_append, unescape]
          simp
        | cons y ys =>
          have hnot : ∀ u v, hexDigit? x = some u → hexDigit? y = some v → False := by
            intro u v hu
            simp [hdigit] at hu
          exact unescape_of_not_hex _ hnot
      | cons e rest =>
        cases rest with
        | nil =>
          have hnot : ∀ u v, hexDigit? e = some u → hexDigit? x = some v → False := by
            intro u v _ hv
            simp [hdigit] at hv
          exact unescape_of_not_hex _ hnot
        | cons f rest => exact (h e f rest rfl rfl).elim
    · rw [List.cons_append, unescape_of_ne _ hd, ih, List.cons_append]
  | case4 => rw [List.nil_append, unescape_of_ne ys hx, List.nil_append]

theorem length_unescape_le (bs : List UInt8) : (unescape bs).length ≤ bs.length := by
  fun_induction unescape bs with
  | case1 d e rest u v hu hv ih =>
    simp only [List.length_cons]
    omega
  | case2 d e rest h ih =>
    simp only [List.length_cons] at ih ⊢
    omega
  | case3 d rest h ih => exact Nat.succ_le_succ ih
  | case4 => exact Nat.le_refl 0

theorem length_decode_le (cs : List Char) : (Utf8.bytes (decode cs)).length ≤ (rawBytes cs).length := by
  rw [decode_eq]
  cases h : Utf8.text? (unescape (rawBytes cs)) with
  | none =>
    rw [Option.getD_none, Utf8.bytes, String.toList_ofList]
    exact Nat.le_refl _
  | some s => exact (Utf8.length_bytes_le h).trans (length_unescape_le _)

structure Inert (c : Char) : Prop where
  ascii : c.toNat < 0x80
  ne_plus : c ≠ '+'
  ne_percent : c ≠ '%'
  not_digit : hexDigit? (UInt8.ofNat c.toNat) = none

theorem rawBytes_append_cons (hc : Inert c) (a b : List Char) :
    rawBytes (a ++ c :: b) = rawBytes a ++ UInt8.ofNat c.toNat :: rawBytes b := by
  simp only [rawBytes, spaced, List.map_append, List.map_cons, if_neg hc.ne_plus, List.flatMap_append,
    List.flatMap_cons, encodeChar_of_lt hc.ascii, List.singleton_append]

theorem toNat_ofNat_of_lt (h : c.toNat < 0x80) : (UInt8.ofNat c.toNat).toNat = c.toNat := by
  rw [UInt8.toNat_ofNat']
  exact Nat.mod_eq_of_lt (by omega)

theorem length_decode_append_cons (hc : Inert c) (a b : List Char) :
    (Utf8.bytes (decode a)).length + 1 + (Utf8.bytes (decode b)).length ≤
      (Utf8.bytes (decode (a ++ c :: b))).length := by
  have hnat := toNat_ofNat_of_lt hc.ascii
  have hascii : UInt8.ofNat c.toNat < 0x80 := by
    rw [UInt8.lt_iff_toNat_lt, hnat]
    exact hc.ascii
  have hpercent : UInt8.ofNat c.toNat ≠ 37 := by
    intro h
    have h37 := congrArg UInt8.toNat h
    rw [hnat] at h37
    exact hc.ne_percent (Char.toNat_inj.1 h37)
  have ha := length_decode_le a
  have hb := length_decode_le b
  rw [decode_eq (a ++ c :: b), rawBytes_append_cons hc, unescape_append_cons hpercent hc.not_digit]
  cases h : Utf8.text? (unescape (rawBytes a) ++ UInt8.ofNat c.toNat :: unescape (rawBytes b)) with
  | none =>
    have hraw : (Utf8.bytes (String.ofList (spaced (a ++ c :: b)))).length =
        (rawBytes (a ++ c :: b)).length := by
      rw [Utf8.bytes, String.toList_ofList]
      rfl
    rw [Option.getD_none, hraw, rawBytes_append_cons hc, List.length_append, List.length_cons]
    omega
  | some s =>
    obtain ⟨t, u, ht, hu, hs⟩ := Utf8.text?_append_cons hascii h
    rw [hnat, Char.ofNat_toNat] at hs
    rw [decode_eq a, decode_eq b, ht, hu, Option.getD_some, Option.getD_some, Option.getD_some,
      Utf8.bytes, Utf8.bytes, Utf8.bytes, hs, List.flatMap_append, List.flatMap_cons,
      encodeChar_of_lt hc.ascii, List.length_append, List.length_append, List.length_singleton]
    omega

theorem inert_question : Inert '?' := ⟨by decide, by decide, by decide, by decide⟩

theorem inert_equals : Inert '=' := ⟨by decide, by decide, by decide, by decide⟩

def pairWeight (p : String × String) : Nat := (Utf8.bytes p.1).length + (Utf8.bytes p.2).length + 1

/-- What is decoded in one go has no fewer bytes than name and value by themselves. -/
theorem pairWeight_le (cs : List Char) :
    pairWeight (decodePair cs) ≤ (Utf8.bytes (decode cs)).length + 1 := by
  by_cases h : '=' ∈ cs
  · obtain ⟨k, v, rfl, hk⟩ := List.eq_append_cons_of_mem h
    have hle := length_decode_append_cons inert_equals k v
    simp only [pairWeight, decodePair, cut_append_cons v hk, Option.getD_some]
    omega
  · have hnil : (Utf8.bytes (decode [])).length ≤ 0 := length_decode_le []
    simp only [pairWeight, decodePair, cut_of_not_mem h, Option.getD_none]
    omega

theorem pairWeight_append_question (a b : List Char) :
    pairWeight (decodePair b) < pairWeight (decodePair (a ++ '?' :: b)) := by
  by_cases ha : '=' ∈ a
  · obtain ⟨k, v, rfl, hk⟩ := List.eq_append_cons_of_mem ha
    have hle := length_decode_append_cons inert_question v b
    have hpair := pairWeight_le b
    have hcut : decodePair (k ++ '=' :: v ++ '?' :: b) = (decode k, decode (v ++ '?' :: b)) := by
      rw [List.append_assoc, List.cons_append, decodePair, cut_append_cons _ hk]
      rfl
    rw [hcut]
    simp only [pairWeight] at hpair ⊢
    omega
  · have hquestion : '=' ∉ a ++ ['?'] := by simp [ha]
    have hle := length_decode_append_cons inert_question a (cut '=' b).1
    rw [← List.singleton_append, ← List.append_assoc, decodePair, decodePair,
      cut_append_of_not_mem _ hquestion]
    simp only [pairWeight, List.append_assoc, List.singleton_append]
    omega

def weight (cs : List Char) : Nat := ((pairs (String.ofList cs)).map pairWeight).sum

theorem weight_parse (query : String) : (parse query).weight = weight query.toList := by
  rw [parse, Multimap.weight_ofPairs, weight, String.ofList_toList]
  rfl

theorem weight_append_amp (a b : List Char) : weight (a ++ '&' :: b) = weight a + weight b := by
  simp only [weight, pairs, String.toList_ofList, split_append_cons, List.filter_append,
    List.map_append, List.sum_append]

theorem weight_of_split {cs s : List Char} {ss : List (List Char)} (h : split '&' cs = s :: ss) :
    weight cs = (if s.isEmpty then 0 else pairWeight (decodePair s)) +
      ((ss.filter (!·.isEmpty)).map fun s => pairWeight (decodePair s)).sum := by
  rw [weight, pairs, String.toList_ofList, h, List.filter_cons]
  split_ifs <;> simp_all [List.map_map, Function.comp_def]

theorem weight_lt_of_question (a b : List Char) : weight b < weight (a ++ '?' :: b) := by
  -- whole stretches in front only add to the weight, so the text in front is part of one
  have hstretch : ∀ y, '&' ∉ y → weight b < weight (y ++ '?' :: b) := by
    intro y hy
    obtain ⟨s, ss, hb⟩ := List.exists_cons_of_ne_nil (split_ne_nil '&' b)
    have hquestion : '&' ∉ y ++ ['?'] := by simp [hy]
    have hwhole := split_append_of_not_mem hquestion hb
    have hpair := pairWeight_append_question y s
    have hpos : 0 < pairWeight (decodePair (y ++ '?' :: s)) := Nat.succ_pos _
    rw [← List.singleton_append, ← List.append_assoc, weight_of_split hb, weight_of_split hwhole]
    rw [← List.singleton_append, ← List.append_assoc] at hpair hpos
    have hne : ¬ (y ++ ['?'] ++ s).isEmpty = true := by simp
    rw [if_neg hne]
    split_ifs <;> omega
  by_cases ha : '&' ∈ a
  · obtain ⟨x, hx⟩ := exists_append_afterLast ha
    rw [hx, List.append_assoc, List.cons_append, weight_append_amp]
    exact Nat.lt_of_lt_of_le (hstretch _ (not_mem_afterLast '&' a)) (Nat.le_add_left _ _)
  · exact hstretch a ha

theorem exists_mem_split (hc : c ∈ a) (hne : c ≠ '&') : ∃ s ∈ split '&' a, s ≠ [] := by
  induction a with
  | nil => cases hc
  | cons d a ih =>
    obtain ⟨s, ss, ha⟩ := List.exists_cons_of_ne_nil (split_ne_nil '&' a)
    simp only [split, ha]
    by_cases hd : d = '&'
    · obtain hcd | hca := List.mem_cons.1 hc
      · exact absurd (hcd.trans hd) hne
      · obtain ⟨t, ht, htne⟩ := ih hca
        rw [if_pos hd, ← ha]
        exact ⟨t, List.mem_cons_of_mem _ ht, htne⟩
    · rw [if_neg hd]
      exact ⟨d :: s, List.mem_cons_self, List.cons_ne_nil d s⟩

theorem weight_pos (hc : c ∈ a) (hne : c ≠ '&') : 0 < weight a := by
  obtain ⟨s, hs, hsne⟩ := exists_mem_split hc hne
  have hmem : pairWeight (decodePair s) ∈ (pairs (String.ofList a)).map pairWeight := by
    refine List.mem_map_of_mem (List.mem_map_of_mem (List.mem_filter.2 ⟨?_, by simpa using hsne⟩))
    rw [String.toList_ofList]
    exact hs
  exact List.sum_pos_iff_exists_pos_nat.2 ⟨_, hmem, Nat.succ_pos _⟩

end Query

end StubHttp
