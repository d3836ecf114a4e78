import Mathlib.Data.List.Forall2
import StubHttp.Http.Query
import StubHttp.Proofs.Text.Search
import StubHttp.Proofs.Text.Utf8

/-!
# Escaped text and back

Escaped text has none of the signs that structure a query. It decodes to the text that was escaped,
whichever way its characters are written: a blank as a plus sign or by its byte, the digits of a byte in
upper or lower case. `encode` writes in one of these ways.
-/
namespace StubHttp.Query

open Text

variable {c : Char} {name value : String}

theorem isAlphanum_lt (h : c.isAlphanum = true) : c.toNat < 0x80 := by
  change (decide ('A'.val ≤ c.val ∧ c.val ≤ 'Z'.val) ||
    (decide ('a'.val ≤ c.val) && decide (c.val ≤ 'z'.val)) ||
    (decide ('0'.val ≤ c.val) && decide (c.val ≤ '9'.val))) = true at h
  simp only [Bool.or_eq_true, Bool.and_eq_true, decide_eq_true_eq, UInt32.le_iff_toNat_le] at h
  change ((65 ≤ c.toNat ∧ c.toNat ≤ 90) ∨ (97 ≤ c.toNat ∧ c.toNat ≤ 122)) ∨
    (48 ≤ c.toNat ∧ c.toNat ≤ 57) at h
  omega

theorem isUnreserved_lt (h : isUnreserved c = true) : c.toNat < 0x80 := by
  simp only [isUnreserved, Bool.or_eq_true, decide_eq_true_eq] at h
  rcases h with (((h | rfl) | rfl) | rfl) | rfl
  · exact isAlphanum_lt h
  all_goals decide

theorem encodeChar_of_lt (h : c.toNat < 0x80) : String.utf8EncodeChar c = [UInt8.ofNat c.toNat] := by
  rw [String.utf8EncodeChar]
  exact if_pos (Nat.le_of_lt_succ h)

def IsHex (n : Nat) (d : Char) : Prop := d = hexUpper n ∨ d = Nat.digitChar n

def EscapesByte (b : UInt8) (w : List Char) : Prop :=
  ∃ x y, IsHex (b.toNat / 16) x ∧ IsHex (b.toNat % 16) y ∧ w = ['%', x, y]

/-- An unreserved character may stand as it is and a blank may be a plus sign. All characters may be
written byte by byte. -/
inductive Escapes : Char → List Char → Prop
  | plain {c : Char} (h : isUnreserved c = true) : Escapes c [c]
  | plus : Escapes ' ' ['+']
  | bytes {c : Char} {ws : List (List Char)}
      (h : List.Forall₂ EscapesByte (String.utf8EncodeChar c) ws) : Escapes c ws.flatten

def Written (s : String) (w : List Char) : Prop :=
  ∃ ws, List.Forall₂ Escapes s.toList ws ∧ w = ws.flatten

theorem forall₂_map {α : Type} {R : α → List Char → Prop} {f : α → List Char} (h : ∀ a, R a (f a))
    (as : List α) : List.Forall₂ R as (as.map f) := by
  induction as with
  | nil => exact .nil
  | cons a as ih => exact .cons (h a) ih

theorem escapes_escapeChar (plus : Bool) (c : Char) : Escapes c (escapeChar plus c) := by
  rw [escapeChar]
  split_ifs with hplain hblank
  · exact .plain hplain
  · obtain ⟨-, rfl⟩ : plus = true ∧ c = ' ' := by simpa using hblank
    exact .plus
  · exact .bytes (forall₂_map (fun b => ⟨_, _, .inl rfl, .inl rfl, rfl⟩) _)

theorem written_encode (plus : Bool) (s : String) : Written s (encode plus s) :=
  ⟨_, forall₂_map (escapes_escapeChar plus) _, rfl⟩

theorem IsHex.spec {n : Nat} {d : Char} (h : IsHex n d) (hn : n < 16) :
    hexDigit? (UInt8.ofNat d.toNat) = some (UInt8.ofNat n) ∧ isUnreserved d = true := by
  have hupper : ∀ n < 16, hexDigit? (UInt8.ofNat (hexUpper n).toNat) = some (UInt8.ofNat n) ∧
    isUnreserved (hexUpper n) = true := by decide
  have hlower : ∀ n < 16, hexDigit? (UInt8.ofNat (Nat.digitChar n).toNat) = some (UInt8.ofNat n) ∧
    isUnreserved (Nat.digitChar n) = true := by decide
  rcases h with rfl | rfl
  · exact hupper n hn
  · exact hlower n hn

theorem unescape_of_ne {b : UInt8} (rest : List UInt8) (hb : b ≠ 37) :
    unescape (b :: rest) = b :: unescape rest := by
  rw [unescape]
  intro a b' rest' h
  exact absurd h hb

theorem unescape_encodeChar (rest : List UInt8) (h : c.toNat < 0x80) (hc : c ≠ '%') :
    unescape (String.utf8EncodeChar c ++ rest) = String.utf8EncodeChar c ++ unescape rest := by
  rw [encodeChar_of_lt h, List.singleton_append, List.singleton_append]
  refine unescape_of_ne rest ?_
  intro hb
  have hmod : c.toNat % 2 ^ 8 = c.toNat := Nat.mod_eq_of_lt (by omega)
  have hnat := congrArg UInt8.toNat hb
  rw [UInt8.toNat_ofNat', hmod] at hnat
  exact hc (Char.toNat_inj.1 hnat)

def spaced (cs : List Char) : List Char := cs.map fun c => if c = '+' then ' ' else c

def rawBytes (cs : List Char) : List UInt8 := (spaced cs).flatMap String.utf8EncodeChar

theorem rawBytes_cons (c : Char) (cs : List Char) : rawBytes (c :: cs) =
    String.utf8EncodeChar (if c = '+' then ' ' else c) ++ rawBytes cs := rfl

theorem rawBytes_append (a b : List Char) : rawBytes (a ++ b) = rawBytes a ++ rawBytes b := by
  simp [rawBytes, spaced]

theorem rawBytes_of_unreserved (h : isUnreserved c = true) (cs : List Char) :
    rawBytes (c :: cs) = String.utf8EncodeChar c ++ rawBytes cs := by
  have hplus : c ≠ '+' := by
    rintro rfl
    exact absurd h (by decide)
  rw [rawBytes_cons, if_neg hplus]

theorem EscapesByte.unescape {b : UInt8} {w : List Char} (h : EscapesByte b w) (rest : List UInt8) :
    unescape (rawBytes w ++ rest) = [b] ++ unescape rest := by
  obtain ⟨x, y, hx, hy, rfl⟩ := h
  have hb : b.toNat < 256 := b.toNat_lt
  obtain ⟨hhigh, hfree⟩ := hx.spec (by omega)
  obtain ⟨hlow, hfree'⟩ := hy.spec (by omega)
  have hbyte : UInt8.ofNat (b.toNat / 16) * 16 + UInt8.ofNat (b.toNat % 16) = b := by
    rw [← UInt8.toNat_inj]
    simp only [UInt8.toNat_add, UInt8.toNat_mul, UInt8.toNat_ofNat', UInt8.reduceToNat]
    omega
  have hpercent : String.utf8EncodeChar (if '%' = '+' then ' ' else '%') = [37] := by decide
  rw [rawBytes_cons, hpercent, rawBytes_of_unreserved hfree, rawBytes_of_unreserved hfree',
    encodeChar_of_lt (isUnreserved_lt hfree), encodeChar_of_lt (isUnreserved_lt hfree')]
  change Query.unescape (37 :: _ :: _ :: rest) = _
  rw [Query.unescape, hhigh, hlow]
  simp only [hbyte, List.singleton_append]

theorem unescape_flatten {α : Type} {R : α → List Char → Prop} {bytes : α → List UInt8}
    (hR : ∀ a w rest, R a w → unescape (rawBytes w ++ rest) = bytes a ++ unescape rest)
    {as : List α} {ws : List (List Char)} (h : List.Forall₂ R as ws) (rest : List UInt8) :
    unescape (rawBytes ws.flatten ++ rest) = as.flatMap bytes ++ unescape rest := by
  induction h with
  | nil => rfl
  | cons hw _ ih =>
    rw [List.flatten_cons, rawBytes_append, List.append_assoc, hR _ _ _ hw, ih, List.flatMap_cons,
      List.append_assoc]

theorem Escapes.unescape {w : List Char} (h : Escapes c w) (rest : List UInt8) :
    unescape (rawBytes w ++ rest) = String.utf8EncodeChar c ++ unescape rest := by
  cases h with
  | plain hc =>
    have hpercent : c ≠ '%' := by
      rintro rfl
      exact absurd hc (by decide)
    rw [rawBytes_of_unreserved hc, List.append_assoc]
    exact unescape_encodeChar rest (isUnreserved_lt hc) hpercent
  | plus =>
    have hblank : rawBytes ['+'] = String.utf8EncodeChar ' ' := by decide
    rw [hblank]
    exact unescape_encodeChar rest (by decide) (by decide)
  | bytes h =>
    rw [unescape_flatten (fun b w rest h => h.unescape rest) h, List.flatMap_singleton']

theorem decode_eq (cs : List Char) :
    decode cs = (Utf8.text? (unescape (rawBytes cs))).getD (String.ofList (spaced cs)) := by
  have hbytes : rawBytes cs = Utf8.bytes (String.ofList (spaced cs)) := by
    rw [rawBytes, Utf8.bytes, String.toList_ofList]
  rw [hbytes]
  rfl

theorem Written.decode {s : String} {w : List Char} (h : Written s w) : decode w = s := by
  obtain ⟨ws, hws, rfl⟩ := h
  have hbytes : unescape (rawBytes ws.flatten) = Utf8.bytes s := by
    have hrun := unescape_flatten (R := Escapes) (fun _ _ rest h => h.unescape rest) hws []
    rwa [List.append_nil, unescape, List.append_nil] at hrun
  rw [decode_eq, hbytes, Utf8.text?_bytes, Option.getD_some]

theorem EscapesByte.signs {b : UInt8} {w : List Char} (h : EscapesByte b w) :
    ∀ d ∈ w, isUnreserved d = true ∨ d = '+' ∨ d = '%' := by
  obtain ⟨x, y, hx, hy, rfl⟩ := h
  have hb : b.toNat < 256 := b.toNat_lt
  simp [(hx.spec (by omega)).2, (hy.spec (by omega)).2]

theorem forall_mem_flatten {α : Type} {R : α → List Char → Prop} {P : Char → Prop}
    (hR : ∀ a w, R a w → ∀ d ∈ w, P d) {as : List α} {ws : List (List Char)}
    (h : List.Forall₂ R as ws) : ∀ d ∈ ws.flatten, P d := by
  induction h with
  | nil => simp
  | cons hw _ ih =>
    simp only [List.flatten_cons, List.mem_append]
    rintro d (hd | hd)
    · exact hR _ _ hw d hd
    · exact ih d hd

theorem Escapes.signs {w : List Char} (h : Escapes c w) :
    ∀ d ∈ w, isUnreserved d = true ∨ d = '+' ∨ d = '%' := by
  cases h with
  | plain hc => simp [hc]
  | plus => simp
  | bytes h => exact forall_mem_flatten (fun _ _ h => h.signs) h

theorem Written.not_mem {s : String} {w : List Char} (h : Written s w) (hc : isUnreserved c = false)
    (hplus : c ≠ '+') (hpercent : c ≠ '%') : c ∉ w := by
  obtain ⟨ws, hws, rfl⟩ := h
  intro hmem
  have hsigns := forall_mem_flatten (fun _ _ h => Escapes.signs h) hws c hmem
  simp [hc, hplus, hpercent] at hsigns

theorem not_mem_encode {plus : Bool} (hc : isUnreserved c = false) (hplus : c ≠ '+')
    (hpercent : c ≠ '%') : c ∉ encode plus value :=
  (written_encode plus value).not_mem hc hplus hpercent

end StubHttp.Query
