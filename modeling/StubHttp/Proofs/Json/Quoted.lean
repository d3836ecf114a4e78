import StubHttp.Json.Quoted

/-!
# Quoted text and back

What is written between quotes is scanned as the text that was written, up to the closing quote.
-/
namespace StubHttp.Json.Quoted

open Utf8 (Piece)

def State.after (chars : List Char) : State := ⟨.plain, chars, none, false⟩

theorem scan_next {s s' : State} {p : Piece} {ps : List Piece} (h : s.step p ps = .next s') :
    scan s (p :: ps) = scan s' ps := by
  rw [scan, h]

theorem hexDigit?_hexDigit : ∀ n < 16, State.hexDigit? (hexDigit n) = some n := by decide

theorem scan_hex {chars : List Char} {left value d : Nat} (rest : List Piece) (hd : d < 16)
    (hleft : 1 < left) :
    scan ⟨.hex left value none, chars, none, false⟩ (.char (hexDigit d) :: rest) =
      scan ⟨.hex (left - 1) (value * 16 + d) none, chars, none, false⟩ rest := by
  have hdigit : (Piece.char (hexDigit d)).char? >>= State.hexDigit? = some d := hexDigit?_hexDigit d hd
  have hmore : ¬ left ≤ 1 := by omega
  refine scan_next ?_
  simp only [State.step, hdigit, if_neg hmore]

theorem scan_hex_last {chars : List Char} {value d : Nat} (rest : List Piece) (hd : d < 16)
    (hlow : value * 16 + d < 0xD800) :
    scan ⟨.hex 1 value none, chars, none, false⟩ (.char (hexDigit d) :: rest) =
      scan (.after (Char.ofNat (value * 16 + d) :: chars)) rest := by
  have hdigit : (Piece.char (hexDigit d)).char? >>= State.hexDigit? = some d := hexDigit?_hexDigit d hd
  have hsecond : ¬ (0xDC00 ≤ value * 16 + d ∧ value * 16 + d ≤ 0xDFFF) := by omega
  have hfirst : ¬ (0xD800 ≤ value * 16 + d ∧ value * 16 + d ≤ 0xDBFF) := by omega
  refine scan_next ?_
  simp only [State.step, hdigit, if_pos (Nat.le_refl 1), State.unit, if_neg hsecond, if_neg hfirst]
  rfl

theorem scan_control {c : Char} {chars : List Char} (rest : List Piece) (hc : c.toNat < 0x20) :
    scan (.after chars) (['\\', 'u', '0', '0', hexDigit (c.toNat / 16),
      hexDigit (c.toNat % 16)].map .char ++ rest) = scan (.after (c :: chars)) rest := by
  have hhigh : (0 * 16 + 0) * 16 + c.toNat / 16 = c.toNat / 16 := by omega
  have hlow : c.toNat / 16 * 16 + c.toNat % 16 = c.toNat := by omega
  have hzero : hexDigit 0 = '0' := by decide
  have hlast : scan ⟨.hex 1 (c.toNat / 16) none, chars, none, false⟩
      (.char (hexDigit (c.toNat % 16)) :: rest) = scan (.after (c :: chars)) rest := by
    rw [scan_hex_last rest (by omega) (by omega), hlow, Char.ofNat_toNat]
  calc
    _ = scan ⟨.escape, chars, none, false⟩ (.char 'u' :: .char '0' :: .char '0' ::
          .char (hexDigit (c.toNat / 16)) :: .char (hexDigit (c.toNat % 16)) :: rest) :=
      scan_next rfl
    _ = scan ⟨.hex 4 0 none, chars, none, false⟩ (.char (hexDigit 0) :: .char (hexDigit 0) ::
          .char (hexDigit (c.toNat / 16)) :: .char (hexDigit (c.toNat % 16)) :: rest) := by
      rw [hzero]
      exact scan_next rfl
    _ = scan ⟨.hex 2 0 none, chars, none, false⟩ (.char (hexDigit (c.toNat / 16)) ::
          .char (hexDigit (c.toNat % 16)) :: rest) := by
      rw [scan_hex _ (by omega) (by omega), scan_hex _ (by omega) (by omega)]
    _ = scan ⟨.hex 1 (c.toNat / 16) none, chars, none, false⟩
          (.char (hexDigit (c.toNat % 16)) :: rest) := by
      rw [scan_hex _ (by omega) (by omega), Nat.zero_mul, Nat.zero_add]
    _ = scan (.after (c :: chars)) rest := hlast

theorem scan_escaped (c : Char) (chars : List Char) (rest : List Piece) :
    scan (.after chars) ((escaped c).map .char ++ rest) = scan (.after (c :: chars)) rest := by
  rw [escaped.eq_def]
  split
  case h_8 hquote hslash _ _ _ _ _ =>
    split
    case isTrue hc => exact scan_control rest hc
    case isFalse hc =>
      have hplain : State.plain (.after chars) (.char c) =
          if c.toNat < 0x20 then .stopped (.after chars) .controlCharacter
          else State.push (.after chars) c := by
        rw [State.plain]
        · exact hquote
        · exact hslash
      exact scan_next (hplain.trans (if_neg hc))
  all_goals exact (scan_next rfl).trans (scan_next rfl)

theorem scan_encode (s : String) (rest : List Piece) :
    scan .start ((s.toList.flatMap escaped ++ ['"']).map .char ++ rest) = ⟨.ok s, none, rest⟩ := by
  have hrun : ∀ (cs chars : List Char) (rest : List Piece),
      scan (.after chars) ((cs.flatMap escaped).map .char ++ rest) =
        scan (.after (cs.reverse ++ chars)) rest := by
    intro cs
    induction cs with
    | nil => exact fun _ _ => rfl
    | cons c cs ih =>
      intro chars rest
      rw [List.flatMap_cons, List.map_append, List.append_assoc, scan_escaped, ih, List.reverse_cons,
        List.append_assoc, List.singleton_append]
  have hstart : State.start = .after [] := rfl
  have hclose : scan (.after s.toList.reverse) (.char '"' :: rest) =
      ⟨(State.after s.toList.reverse).text none, none, rest⟩ := rfl
  have htext : (State.after s.toList.reverse).text none = .ok s := by
    change Except.ok (String.ofList s.toList.reverse.reverse) = _
    rw [List.reverse_reverse, String.ofList_toList]
  rw [hstart, List.map_append, List.append_assoc, hrun, List.append_nil]
  exact hclose.trans (by rw [htext])

end StubHttp.Json.Quoted
