import StubHttp.Proofs.Json.Reader
import StubHttp.Response

/-!
# The document of a response

The document of a response is read back as the response. It gives the status as a number and the values
of a header as a list, whatever the response was read from.
-/
namespace StubHttp.Response

open Json

theorem whole_json (r : Response) : r.json.Whole := by
  have hstatus : r.status.toNat < 0x10000000000000000 := Nat.lt_trans r.status.toNat_lt (by decide)
  exact ⟨hstatus, Value.whole_multimap r.headers, trivial, trivial⟩

theorem statusReader_ofValue (s : Scope) (n : UInt16) :
    statusReader s (Doc.ofValue (.nat n.toNat)) = .ok n := by
  change (if n.toNat < 0x10000 then Except.ok n.toNat.toUInt16 else _) = _
  rw [if_pos n.toNat_lt]
  exact congrArg Except.ok n.ofNat_toNat

theorem texts?_strings (ts : List String) : texts? (ts.map .string) = some ts := by
  induction ts with
  | nil => rfl
  | cons t ts ih =>
    rw [List.map_cons, texts?, ih]
    rfl

theorem values_strings (s : Scope) (ts : List String) :
    Reader.values s (Doc.ofValues (ts.map .string)) = .ok (ts.map .string) := by
  induction ts with
  | nil => rfl
  | cons t ts ih =>
    rw [List.map_cons, Doc.ofValues, Reader.values, ih]
    rfl

theorem valuesReader_inverts : valuesReader.Inverts Value.strings 1 := by
  intro s hs ts
  obtain ⟨s', henter, -⟩ := Scope.enter_eq_ok hs
  have hvalue : Reader.value s (Doc.ofValue (.strings ts)) = .ok (.array (ts.map .string)) := by
    rw [Value.strings, Doc.ofValue, Reader.value, henter]
    change (Reader.values s' (Doc.ofValues (ts.map .string))).bind _ = _
    rw [values_strings]
    rfl
  simp only [valuesReader, hvalue, bind, Except.bind, texts?_strings]

theorem headers_inverts : (Reader.dict valuesReader).Inverts Value.multimap 2 :=
  Reader.dict_inverts valuesReader_inverts

theorem reader_inverts : reader.Inverts json 3 := by
  intro s hs r
  obtain ⟨s', henter, hs'⟩ := Scope.enter_eq_ok hs
  have hs₀ : s'.Allows 0 := fun hm => Nat.lt_trans (by decide) (hs' hm)
  have hfields : Reader.readFields fields s' (Doc.ofMembers [("statusCode", .nat r.status.toNat),
      ("headers", .multimap r.headers), ("body", .string r.body)]) [] default =
        .ok (r, ["body", "headers", "statusCode"]) := by
    simp only [Doc.ofMembers]
    rw [Reader.readFields_cons _ _ rfl rfl (Reader.field_read_of_ok (statusReader_ofValue s' _) ..),
      Reader.readFields_cons _ _ rfl rfl (Reader.field_read headers_inverts hs' ..),
      Reader.readFields_cons _ _ rfl rfl (Reader.field_read Reader.text_inverts hs₀ ..)]
    rfl
  exact Reader.record_eq_ok henter hfields rfl

end StubHttp.Response
