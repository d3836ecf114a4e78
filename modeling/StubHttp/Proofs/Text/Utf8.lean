import Mathlib
import StubHttp.Text.Utf8

/-!
# Text as bytes and back

The bytes of a text are read as the characters of the text: the first byte of a character tells its
width and what the next byte may be, and each further byte adds six bits.
-/
namespace StubHttp.Utf8

theorem lead_one : ∀ n < 0x80, lead (UInt8.ofNat n) = some (0, 0x80, 0xBF, n) := by decide

theorem lead_two : ∀ n < 0x1E,
    lead (UInt8.ofNat (n + 2 + 0xC0)) = some (1, 0x80, 0xBF, n + 2) := by decide

theorem lead_three : ∀ n < 0x10, lead (UInt8.ofNat (n + 0xE0)) =
    some (2, if n = 0 then 0xA0 else 0x80, if n = 0xD then 0x9F else 0xBF, n) := by decide

theorem lead_four : ∀ n < 5, lead (UInt8.ofNat (n + 0xF0)) =
    some (3, if n = 0 then 0x90 else 0x80, if n = 4 then 0x8F else 0xBF, n) := by decide

theorem finish_cons {owed seen value n : Nat} {low high : UInt8} (bs : List UInt8) (hn : n < 0x40)
    (hlow : low.toNat ≤ n + 0x80) (hhigh : n + 0x80 ≤ high.toNat) :
    finish (owed + 1) low high seen value (UInt8.ofNat (n + 0x80) :: bs) =
      finish owed 0x80 0xBF (seen + 1) (value * 64 + n) bs := by
  have hmod : (n + 0x80) % 2 ^ 8 = n + 0x80 := Nat.mod_eq_of_lt (by omega)
  rw [finish, if_pos, UInt8.toNat_ofNat', hmod, Nat.add_sub_cancel]
  rw [UInt8.le_iff_toNat_le, UInt8.le_iff_toNat_le, UInt8.toNat_ofNat', hmod]
  exact ⟨hlow, hhigh⟩

theorem finish_tail {owed seen value n : Nat} (bs : List UInt8) (hn : n < 0x40) :
    finish (owed + 1) 0x80 0xBF seen value (UInt8.ofNat (n + 0x80) :: bs) =
      finish owed 0x80 0xBF (seen + 1) (value * 64 + n) bs := by
  refine finish_cons bs hn ?_ ?_
  · exact Nat.le_add_left _ n
  · have hhigh : (0xBF : UInt8).toNat = 0xBF := rfl
    omega

theorem pieces_cons {b low high : UInt8} {owed value : Nat} {c : Char} {bs rest : List UInt8}
    (hlead : lead b = some (owed, low, high, value))
    (hfinish : finish owed low high 1 value bs = (.char c, rest)) :
    pieces (b :: bs) = .char c :: pieces rest := by
  rw [pieces, hlead]
  simp only [hfinish]

theorem pieces_encodeChar_append (c : Char) (rest : List UInt8) :
    pieces (String.utf8EncodeChar c ++ rest) = .char c :: pieces rest := by
  obtain ⟨v, hv⟩ : ∃ v, c.val.toNat = v := ⟨_, rfl⟩
  have hc : Char.ofNat v = c := by
    rw [← hv]
    exact Char.ofNat_toNat c
  have hvalid : v < 0xD800 ∨ 0xDFFF < v ∧ v < 0x110000 := hv ▸ c.valid
  rw [String.utf8EncodeChar]
  simp only [hv]
  split_ifs with h₁ h₂ h₃
  · rw [List.cons_append, List.nil_append]
    refine pieces_cons (lead_one v (by omega)) ?_
    rw [finish, hc]
  · have hfirst : v / 64 % 0x20 = v / 64 - 2 + 2 := by omega
    rw [hfirst, List.cons_append, List.cons_append, List.nil_append]
    refine pieces_cons (lead_two (v / 64 - 2) (by omega)) ?_
    rw [finish_tail _ (by omega), finish, ← hc]
    congr 3
    omega
  · have hfirst : v / 4096 % 0x10 = v / 4096 := by omega
    rw [hfirst, List.cons_append, List.cons_append, List.cons_append, List.nil_append]
    refine pieces_cons (lead_three (v / 4096) (by omega)) ?_
    rw [finish_cons _ (by omega) ?_ ?_, finish_tail _ (by omega), finish, ← hc]
    · congr 3
      omega
    · split_ifs with h <;> simp only [UInt8.reduceToNat] <;> omega
    · split_ifs with h <;> simp only [UInt8.reduceToNat] <;> omega
  · have hfirst : v / 262144 % 8 = v / 262144 := by omega
    rw [hfirst, List.cons_append, List.cons_append, List.cons_append, List.cons_append,
      List.nil_append]
    refine pieces_cons (lead_four (v / 262144) (by omega)) ?_
    rw [finish_cons _ (by omega) ?_ ?_, finish_tail _ (by omega), finish_tail _ (by omega), finish,
      ← hc]
    · congr 3
      omega
    · split_ifs with h <;> simp only [UInt8.reduceToNat] <;> omega
    · split_ifs with h <;> simp only [UInt8.reduceToNat] <;> omega

theorem pieces_bytes (s : String) : pieces (bytes s) = s.toList.map .char := by
  rw [bytes]
  induction s.toList with
  | nil => rw [List.flatMap_nil, pieces, List.map_nil]
  | cons c cs ih => rw [List.flatMap_cons, pieces_encodeChar_append, ih, List.map_cons]

theorem text?_bytes (s : String) : text? (bytes s) = some s := by
  have hchars : ∀ cs : List Char, (cs.map Piece.char).mapM Piece.char? = some cs := by
    intro cs
    induction cs with
    | nil => rfl
    | cons c cs ih =>
      rw [List.map_cons, List.mapM_cons, ih]
      rfl
  rw [text?, pieces_bytes, hchars, Option.map_some, String.ofList_toList]

theorem lossy_bytes (s : String) : lossy (bytes s) = s := by
  have hchars : ∀ cs : List Char,
      (cs.map Piece.char).map (fun p => p.char?.getD '\uFFFD') = cs := by
    intro cs
    induction cs with
    | nil => rfl
    | cons c cs ih => rw [List.map_cons, List.map_cons, ih]; rfl
  rw [lossy, pieces_bytes, hchars, String.ofList_toList]

theorem lossy_eq_empty_iff {bs : List UInt8} : lossy bs = "" ↔ bs = [] := by
  cases bs with
  | nil => simp [lossy, pieces]
  | cons b bs =>
    rw [lossy, pieces]
    split <;> simp

theorem finish_append_cons {b low : UInt8} (hb : b < 0x80) (hlow : 0x80 ≤ low) (owed : Nat)
    (high : UInt8) (seen value : Nat) (xs ys : List UInt8) :
    finish owed low high seen value (xs ++ b :: ys) =
      ((finish owed low high seen value xs).1, (finish owed low high seen value xs).2 ++ b :: ys) := by
  induction owed generalizing low high seen value xs with
  | zero => rfl
  | succ owed ih =>
    cases xs with
    | nil =>
      have hnot : ¬ (low ≤ b ∧ b ≤ high) := fun h =>
        UInt8.lt_irrefl b (UInt8.lt_of_lt_of_le hb (UInt8.le_trans hlow h.1))
      simp only [List.nil_append, finish, if_neg hnot]
    | cons x xs =>
      rw [List.cons_append, finish, finish]
      split
      · exact ih (UInt8.le_refl _) _ _ _ _
      · rfl

def room : Nat → Nat
  | 0 => 0x80
  | 1 => 0x800
  | 2 => 0x10000
  | _ => 0x200000

theorem lead_all : ∀ n < 256, (lead (UInt8.ofNat n)).all (fun r =>
    0x80 ≤ r.2.1 ∧ r.2.2.1 ≤ 0xBF ∧ (r.2.2.2 + 1) * 64 ^ r.1 ≤ room r.1) = true := by
  decide +kernel

theorem lead_bounds {b low high : UInt8} {owed value : Nat}
    (h : lead b = some (owed, low, high, value)) :
    0x80 ≤ low ∧ high ≤ 0xBF ∧ (value + 1) * 64 ^ owed ≤ room owed := by
  have hall := lead_all b.toNat b.toNat_lt
  rw [UInt8.ofNat_toNat, h] at hall
  simpa using hall

theorem finish_char {owed seen value : Nat} {low high : UInt8} {bs rest : List UInt8} {c : Char}
    (hhigh : high ≤ 0xBF) (h : finish owed low high seen value bs = (.char c, rest)) :
    rest.length + owed = bs.length ∧ c.toNat < (value + 1) * 64 ^ owed := by
  induction owed generalizing low high seen value bs with
  | zero =>
    obtain ⟨hc, rfl⟩ := Prod.mk.inj h
    have hle : ∀ v, (Char.ofNat v).toNat ≤ v := by
      intro v
      unfold Char.ofNat
      split
      · exact Nat.le_refl v
      · exact Nat.zero_le v
    rw [← Piece.char.inj hc]
    have hv := hle value
    omega
  | succ owed ih =>
    cases bs with
    | nil => simp [finish] at h
    | cons b bs =>
      rw [finish] at h
      split at h
      case isTrue hb =>
        obtain ⟨hlen, hlt⟩ := ih (UInt8.le_refl _) h
        have hbyte : b.toNat - 0x80 < 64 := by
          have hle := UInt8.le_iff_toNat_le.1 (UInt8.le_trans hb.2 hhigh)
          simp only [UInt8.reduceToNat] at hle
          omega
        have hpow : (value * 64 + (b.toNat - 0x80) + 1) * 64 ^ owed ≤ (value + 1) * 64 ^ (owed + 1) := by
          rw [Nat.pow_succ', ← Nat.mul_assoc]
          exact Nat.mul_le_mul_right _ (by omega)
        exact ⟨by rw [List.length_cons]; omega, Nat.lt_of_lt_of_le hlt hpow⟩
      case isFalse => simp at h

theorem length_encodeChar_le {owed : Nat} {c : Char} (h : c.toNat < room owed) :
    (String.utf8EncodeChar c).length ≤ owed + 1 := by
  have hv : c.val.toNat = c.toNat := rfl
  rw [String.utf8EncodeChar]
  simp only [hv]
  match owed, h with
  | 0, h | 1, h | 2, h =>
    simp only [room] at h
    split_ifs <;> simp only [List.length_cons, List.length_nil] <;> omega
  | n + 3, h => split_ifs <;> simp

theorem pieces_append_cons {b : UInt8} (hb : b < 0x80) (xs ys : List UInt8) :
    pieces (xs ++ b :: ys) = pieces xs ++ .char (Char.ofNat b.toNat) :: pieces ys := by
  fun_induction pieces xs with
  | case1 =>
    have hlead : lead b = some (0, 0x80, 0xBF, b.toNat) := if_pos hb
    rw [List.nil_append, pieces, hlead]
    rfl
  | case2 x xs hlead ih =>
    rw [List.cons_append, pieces, hlead]
    simp only [ih, List.cons_append]
  | case3 x xs owed low high value hlead r ih =>
    rw [List.cons_append, pieces, hlead]
    simp only [finish_append_cons hb (lead_bounds hlead).1]
    rw [ih, List.cons_append]

theorem text?_append_cons {b : UInt8} {s : String} {xs ys : List UInt8} (hb : b < 0x80)
    (h : text? (xs ++ b :: ys) = some s) :
    ∃ t u, text? xs = some t ∧ text? ys = some u ∧
      s.toList = t.toList ++ Char.ofNat b.toNat :: u.toList := by
  rw [text?, pieces_append_cons hb, Option.map_eq_some_iff] at h
  obtain ⟨cs, hcs, rfl⟩ := h
  rw [List.mapM_append, List.mapM_cons] at hcs
  cases hxs : (pieces xs).mapM Piece.char? with
  | none => simp [hxs] at hcs
  | some t =>
    cases hys : (pieces ys).mapM Piece.char? with
    | none => simp [hxs, hys, Piece.char?] at hcs
    | some u =>
      refine ⟨.ofList t, .ofList u, by rw [text?, hxs]; rfl, by rw [text?, hys]; rfl, ?_⟩
      have heq : cs = t ++ Char.ofNat b.toNat :: u := by simpa [hxs, hys, Piece.char?, eq_comm] using hcs
      simp only [String.toList_ofList, heq]

theorem length_pieces_le {bs : List UInt8} {cs : List Char}
    (h : (pieces bs).mapM Piece.char? = some cs) :
    (cs.flatMap String.utf8EncodeChar).length ≤ bs.length := by
  fun_induction pieces bs generalizing cs with
  | case1 =>
    obtain rfl : [] = cs := by simpa using h
    exact Nat.le_refl 0
  | case2 b bs hlead ih => simp [Piece.char?] at h
  | case3 b bs owed low high value hlead r =>
    rename_i ih
    obtain ⟨⟨p, rest⟩, hr⟩ : ∃ p, r = p := ⟨r, rfl⟩
    simp only [hr] at h ih
    cases p with
    | junk n => simp [Piece.char?] at h
    | char c =>
      cases hcs : (pieces rest).mapM Piece.char? with
      | none => simp [hcs, Piece.char?] at h
      | some ds =>
        obtain rfl : c :: ds = cs := by simpa [hcs, Piece.char?] using h
        obtain ⟨-, hhigh, hroom⟩ := lead_bounds hlead
        obtain ⟨hlen, hlt⟩ := finish_char hhigh hr
        have hwidth := length_encodeChar_le (Nat.lt_of_lt_of_le hlt hroom)
        have hrest := ih hcs
        rw [List.flatMap_cons, List.length_append, List.length_cons]
        omega

theorem length_bytes_le {bs : List UInt8} {s : String} (h : text? bs = some s) :
    (bytes s).length ≤ bs.length := by
  rw [text?, Option.map_eq_some_iff] at h
  obtain ⟨cs, hcs, rfl⟩ := h
  rw [bytes, String.toList_ofList]
  exact length_pieces_le hcs

end StubHttp.Utf8
