import StubHttp.Json.Reader
import StubHttp.Proofs.Except
import StubHttp.Proofs.Json.Written

/-!
# Readers and writers

A reader inverts a writer if it reads back what was written, as long as the document may be entered
deep enough. Readers of lists and maps invert the writers made of those of their parts. What each field
of a record keeps holds of every record that is read.
-/
namespace StubHttp.Json

namespace Value

theorem wholeItems_iff {vs : List Value} : WholeItems vs ↔ ∀ v ∈ vs, v.Whole := by
  induction vs with
  | nil => simp [WholeItems]
  | cons v vs ih => rw [WholeItems, ih, List.forall_mem_cons]

theorem wholeMembers_iff {ms : List (String × Value)} :
    WholeMembers ms ↔ ∀ e ∈ ms, e.2.Whole := by
  induction ms with
  | nil => simp [WholeMembers]
  | cons e ms ih => rw [WholeMembers, ih, List.forall_mem_cons]

theorem whole_strings (ss : List String) : (strings ss).Whole := by
  refine wholeItems_iff.2 ?_
  intro v hv
  obtain ⟨s, -, rfl⟩ := List.mem_map.1 hv
  exact trivial

theorem whole_multimap (m : Multimap) : (multimap m).Whole := by
  refine wholeMembers_iff.2 ?_
  intro e he
  obtain ⟨d, -, rfl⟩ := List.mem_map.1 he
  exact whole_strings d.2

end Value

namespace Scope

/-- A text may be entered through more than `levels` levels. -/
def Allows (s : Scope) (levels : Nat) : Prop := s.medium = .text → levels < s.depth

theorem enter_eq_ok {s : Scope} {levels : Nat} (h : s.Allows (levels + 1)) :
    ∃ s', s.enter = .ok s' ∧ s'.Allows levels := by
  obtain ⟨medium, depth⟩ := s
  cases medium with
  | text =>
    have hdepth : levels + 1 < depth := h rfl
    refine ⟨⟨.text, depth - 1⟩, ?_, ?_⟩
    · have hdeep : ¬ depth ≤ 1 := by omega
      exact if_neg hdeep
    · intro _
      change levels < depth - 1
      omega
  | value => exact ⟨⟨.value, depth⟩, rfl, fun h => nomatch h⟩

end Scope

namespace Reader

variable {α σ : Type}

/-- What the writer writes is read back where `levels` levels may be entered. -/
def Inverts (r : Reader α) (write : α → Value) (levels : Nat) : Prop :=
  ∀ s : Scope, s.Allows levels → ∀ a, r s (Doc.ofValue (write a)) = .ok a

theorem text_inverts : text.Inverts .string 0 := fun _ _ _ => rfl

theorem integer_ofValue {low high n : Int} (name : String) (s : Scope) (hlow : low ≤ n)
    (hhigh : n ≤ high) : integer low high name s (Doc.ofValue (.int n)) = .ok n := by
  cases n with
  | ofNat k => exact if_pos ⟨hlow, hhigh⟩
  | negSucc k => exact if_pos ⟨hlow, hhigh⟩

theorem list_inverts {r : Reader α} {write : α → Value} {levels : Nat}
    (h : r.Inverts write levels) :
    (list r).Inverts (fun as => .array (as.map write)) (levels + 1) := by
  intro s hs as
  obtain ⟨s', henter, hs'⟩ := Scope.enter_eq_ok hs
  have hitems : readItems r s' (Doc.ofValues (as.map write)) = .ok as := by
    induction as with
    | nil => rfl
    | cons a as ih =>
      rw [List.map_cons, Doc.ofValues, readItems, h s' hs' a, ih]
      rfl
  rw [Doc.ofValue, list, henter]
  change (readItems r s' (Doc.ofValues (as.map write))).bind _ = _
  rw [hitems]
  rfl

theorem strings_inverts : (list text).Inverts Value.strings 1 := list_inverts text_inverts

theorem dict_inverts {r : Reader α} {write : α → Value} {levels : Nat}
    (h : r.Inverts write levels) :
    (dict r).Inverts (fun m => .object (m.entries.map fun e => (e.1, write e.2))) (levels + 1) := by
  intro s hs m
  obtain ⟨s', henter, hs'⟩ := Scope.enter_eq_ok hs
  have hmembers : ∀ (es : List (String × α)) (m : Dict α),
      readMembers r s' (Doc.ofMembers (es.map fun e => (e.1, write e.2))) m =
        .ok (es.foldl (fun m e => m.insert e.1 e.2) m) := by
    intro es
    induction es with
    | nil => exact fun _ => rfl
    | cons e es ih =>
      intro m
      rw [List.map_cons, Doc.ofMembers, readMembers, h s' hs' e.2, List.foldl_cons, ← ih]
      rfl
  rw [Doc.ofValue, dict, henter]
  change (readMembers r s' (Doc.ofMembers (m.entries.map fun e => (e.1, write e.2))) {}).bind _ = _
  rw [hmembers]
  exact congrArg Except.ok m.ofList_entries

theorem readFields_cons {fields : List (Field σ)} {f : Field σ} {s : Scope} {name : String}
    {v : Value} {set : σ → σ} {seen : List String} (ms : List (Key × Doc)) (a : σ)
    (hf : fields.find? (·.name == name) = some f) (hseen : seen.contains name = false)
    (hread : f.read s (Doc.ofValue v) = .ok set) :
    readFields fields s ((⟨.ok name, none, none⟩, Doc.ofValue v) :: ms) seen a =
      readFields fields s ms (name :: seen) (set a) := by
  rw [readFields]
  simp only [fromFault, bind, Except.bind, hf, hseen, Bool.false_eq_true, if_false, stopAt, hread]

theorem readFields_cons_error {fields : List (Field σ)} {f : Field σ} {s : Scope} {name : String}
    {v : Value} {e : ReadError} {seen : List String} (ms : List (Key × Doc)) (a : σ)
    (hf : fields.find? (·.name == name) = some f) (hseen : seen.contains name = false)
    (hread : f.read s (Doc.ofValue v) = .error e) :
    readFields fields s ((⟨.ok name, none, none⟩, Doc.ofValue v) :: ms) seen a = .error e := by
  rw [readFields]
  simp only [fromFault, bind, Except.bind, hf, hseen, Bool.false_eq_true, if_false, stopAt, hread]

theorem record_eq_error {type : String} {fields : List (Field σ)} {blank : σ} {s s' : Scope}
    {ms : List (Key × Doc)} {e : ReadError} (henter : s.enter = .ok s')
    (hfields : readFields fields s' ms [] blank = .error e) :
    record type fields blank s (.object ms none) = .error e := by
  rw [record, henter]
  change (readFields fields s' ms [] blank).bind _ = _
  rw [hfields]
  rfl

theorem record_eq_ok {type : String} {fields : List (Field σ)} {blank a : σ} {s s' : Scope}
    {ms : List (Key × Doc)} {seen : List String} (henter : s.enter = .ok s')
    (hfields : readFields fields s' ms [] blank = .ok (a, seen))
    (hmissing : firstMissing fields seen = none) :
    record type fields blank s (.object ms none) = .ok a := by
  rw [record, henter]
  change (readFields fields s' ms [] blank).bind _ = _
  rw [hfields]
  simp only [Except.bind, Option.map_none, stopAt, hmissing]
  rfl

theorem field_read_of_ok {r : Reader α} {s : Scope} {d : Doc} {a : α} (h : r s d = .ok a)
    (name : String) (required : Bool) (set : α → σ → σ) :
    (field name required r set).read s d = .ok (set a) := by
  change (r s d).map set = .ok (set a)
  rw [h]
  rfl

theorem field_read_of_error {r : Reader α} {s : Scope} {d : Doc} {e : ReadError}
    (h : r s d = .error e) (name : String) (required : Bool) (set : α → σ → σ) :
    (field name required r set).read s d = .error e := by
  change (r s d).map set = .error e
  rw [h]
  rfl

theorem field_read {r : Reader α} {write : α → Value} {levels : Nat} {s : Scope}
    (h : r.Inverts write levels) (hs : s.Allows levels) (name : String) (required : Bool)
    (set : α → σ → σ) (a : α) :
    (field name required r set).read s (Doc.ofValue (write a)) = .ok (set a) :=
  field_read_of_ok (h s hs a) name required set

def Field.Keeps (f : Field σ) (P : σ → Prop) : Prop :=
  ∀ s d set, f.read s d = .ok set → ∀ a, P a → P (set a)

theorem between_of_integer {low high n : Int} {name : String} {s : Scope} {d : Doc}
    (h : integer low high name s d = .ok n) : low ≤ n ∧ n ≤ high := by
  have hcheck : ∀ m : Int, (if low ≤ m ∧ m ≤ high then Except.ok m
      else .error (ReadError.wrongValue (.integer m) name)) = Except.ok n → low ≤ n ∧ n ≤ high := by
    intro m hm
    split at hm
    case isTrue hle =>
      cases hm
      exact hle
    case isFalse => cases hm
  unfold integer at h
  split at h
  case h_1 => exact hcheck _ h
  case h_2 => exact hcheck _ h
  case h_3 => cases h

variable {fields : List (Field σ)} {P : σ → Prop} {a b : σ} {s : Scope}

theorem field_keeps {r : Reader α} {Q : α → Prop} {set : α → σ → σ}
    (hr : ∀ s d v, r s d = .ok v → Q v) (hset : ∀ v a, Q v → P a → P (set v a)) (name : String)
    (required : Bool) : (field name required r set).Keeps P := by
  intro s d g hg a ha
  obtain ⟨v, hv, rfl⟩ := map_eq_ok hg
  exact hset v a (hr s d v hv) ha

theorem readFields_keeps (hf : ∀ f ∈ fields, f.Keeps P) {ms : List (Key × Doc)}
    {seen seen' : List String} (h : readFields fields s ms seen a = .ok (b, seen')) (ha : P a) :
    P b := by
  induction ms generalizing seen a with
  | nil =>
    cases h
    exact ha
  | cons m ms ih =>
    obtain ⟨k, d⟩ := m
    rw [readFields] at h
    obtain ⟨name, -, h⟩ := bind_eq_ok h
    split at h
    case h_1 =>
      obtain ⟨-, -, h⟩ := bind_eq_ok h
      obtain ⟨-, -, h⟩ := bind_eq_ok h
      exact ih h ha
    case h_2 f hfind =>
      split at h
      case isTrue => cases h
      case isFalse =>
        obtain ⟨-, -, h⟩ := bind_eq_ok h
        obtain ⟨set, hset, h⟩ := bind_eq_ok h
        exact ih h (hf f (List.mem_of_find?_eq_some hfind) s d set hset a ha)

theorem readPlaces_keeps {expected : String} {close : Option Break} (hf : ∀ f ∈ fields, f.Keeps P)
    {count : Nat} {ds left : List Doc}
    (h : readPlaces s expected close count fields ds a = .ok (b, left)) (ha : P a) : P b := by
  induction fields generalizing count ds a with
  | nil =>
    cases ds <;> cases h <;> exact ha
  | cons f fs ih =>
    have htail : ∀ f' ∈ fs, f'.Keeps P := fun f' hf' => hf f' (List.mem_cons_of_mem _ hf')
    cases ds with
    | nil =>
      obtain ⟨-, -, h⟩ := bind_eq_ok h
      split at h
      case isTrue => cases h
      case isFalse => exact ih htail h ha
    | cons d ds =>
      obtain ⟨set, hset, h⟩ := bind_eq_ok h
      exact ih htail h (hf f List.mem_cons_self s d set hset a ha)

theorem record_keeps {type : String} {blank : σ} {d : Doc} (hblank : P blank)
    (hf : ∀ f ∈ fields, f.Keeps P) (h : record type fields blank s d = .ok b) : P b := by
  unfold record at h
  split at h
  case h_1 ms close =>
    obtain ⟨s', -, h⟩ := bind_eq_ok h
    obtain ⟨⟨a, seen⟩, hread, h⟩ := bind_eq_ok h
    obtain ⟨-, -, h⟩ := bind_eq_ok h
    split at h
    case h_1 => cases h
    case h_2 =>
      cases h
      exact readFields_keeps hf hread hblank
  case h_2 ds close =>
    obtain ⟨s', -, h⟩ := bind_eq_ok h
    obtain ⟨⟨a, left⟩, hread, h⟩ := bind_eq_ok h
    obtain ⟨-, -, h⟩ := bind_eq_ok h
    cases h
    exact readPlaces_keeps hf hread hblank
  case h_3 => cases h

theorem parse_eq {r : Reader α} {t : List Utf8.Piece} {d : Doc} (h : Doc.parse t = ⟨d, false⟩) :
    r.parse t = r .text d := by
  rw [parse, h]
  change (r .text d).bind _ = _
  cases r .text d <;> rfl

theorem read_of_parse {r : Reader α} {t : List Utf8.Piece} {x : α} (h : r.parse t = .ok x) :
    r .text (Doc.parse t).doc = .ok x := by
  obtain ⟨y, hy, h⟩ := bind_eq_ok h
  split at h
  case isTrue => cases h
  case isFalse =>
    cases h
    exact hy

variable {r : Reader α} {write : α → Value} {levels : Nat} {x : α}

theorem parseText_render (h : r.Inverts write levels) (hlevels : levels < 128)
    (hx : (write x).Whole) : r.parseText (write x).render = .ok x :=
  (parse_eq (Value.parse_render hx)).trans (h .text (fun _ => hlevels) x)

theorem parseText_renderPretty (h : r.Inverts write levels) (hlevels : levels < 128)
    (hx : (write x).Whole) : r.parseText (write x).renderPretty = .ok x :=
  (parse_eq (Value.parse_renderPretty hx)).trans (h .text (fun _ => hlevels) x)

theorem parseText_of_mem (h : r.Inverts write levels) (hlevels : levels < 128)
    (hx : (write x).Whole) :
    ∀ text ∈ [(write x).render, (write x).renderPretty], r.parseText text = .ok x := by
  simp [parseText_render h hlevels hx, parseText_renderPretty h hlevels hx]

end Reader

end StubHttp.Json
