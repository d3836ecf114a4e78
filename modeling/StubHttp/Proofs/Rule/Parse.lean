import StubHttp.Proofs.Text.Search
import StubHttp.Rule

/-!
# What a line is read as

The operator of a line is the first one whose keyword stands in it. Its field is the first one whose
test it passes, and if the field has a key, the line quotes the key and then a value.
-/
namespace StubHttp

open Text

def Operator.before (op : Operator) : List Operator := all.takeWhile (· ≠ op)

theorem Operator.all_find?_eq_some_iff {p : Operator → Bool} {op : Operator} :
    all.find? p = some op ↔ p op = true ∧ ∀ o ∈ op.before, p o = false := by
  constructor
  · intro h
    obtain ⟨hop, as, bs, hall, has⟩ := List.find?_eq_some_iff_append.1 h
    have hne : ∀ o ∈ as, decide (o ≠ op) = true := by
      intro o ho
      have hp := has o ho
      refine decide_eq_true ?_
      rintro rfl
      rw [hop] at hp
      cases hp
    have hbefore : op.before = as := by
      rw [before, hall, List.takeWhile_append_of_pos hne, List.takeWhile_cons_of_neg (by simp),
        List.append_nil]
    refine ⟨hop, ?_⟩
    intro o ho
    have hp := has o (hbefore ▸ ho)
    simpa using hp
  · rintro ⟨hop, hbefore⟩
    have hall : all = op.before ++ op :: (all.dropWhile (· ≠ op)).tail := by cases op <;> rfl
    refine List.find?_eq_some_iff_append.2 ⟨hop, op.before, _, hall, ?_⟩
    intro o ho
    rw [hbefore o ho]
    rfl

namespace Field

def marks (line : String) : Field → Bool
  | url => occurs "url".toList line.toList &&
      !"url parameters contain".toList.isPrefixOf line.toList
  | body => occurs "body".toList line.toList
  | method => occurs "httpMethod".toList line.toList
  | param _ => "url parameters contain parameter".toList.isPrefixOf line.toList
  | header _ => "headers contain entry".toList.isPrefixOf line.toList

def earlier : Field → List Field
  | url => []
  | body => [url]
  | method => [url, body]
  | param _ => [url, body, method]
  | header _ => [url, body, method, param ""]

end Field

namespace Rule

variable {f : Field} {line : String}

theorem quotedKey?_eq_some_iff {cs : List Char} {k : String} :
    quotedKey? cs = some k ↔
      ∃ (a b w : List Char) (n : Nat), '\'' ∉ a ∧ '\'' ∉ k.toList ∧ '\'' ∉ b ∧ '\'' ∉ w ∧ w ≠ [] ∧
        cs = a ++ '\'' :: (k.toList ++ '\'' :: (b ++ '\'' :: (w ++ List.replicate n '\''))) := by
  have hstretches : quotedKey? cs = some k ↔
      ∃ a b w, (split '\'' cs).rdropWhile (·.isEmpty) = [a, k.toList, b] ++ [w] := by
    have hlast : (split '\'' cs).rdropWhile (·.isEmpty) =
      ((split '\'' cs).reverse.dropWhile (·.isEmpty)).reverse := rfl
    rw [quotedKey?, hlast]
    split
    case h_1 a key b w hl =>
      rw [hl]
      constructor
      · intro h
        have hkey : String.ofList key = k := Option.some.inj h
        exact ⟨a, b, w, by rw [← hkey, String.toList_ofList]; rfl⟩
      · rintro ⟨a', b', w', h⟩
        simp only [List.cons_append, List.nil_append, List.cons.injEq] at h
        rw [h.2.1, String.ofList_toList]
    case h_2 hl =>
      constructor
      · intro h
        cases h
      · rintro ⟨a, b, w, h⟩
        exact absurd h (hl a k.toList b w)
  rw [hstretches]
  constructor
  · rintro ⟨a, b, w, hstretch⟩
    obtain ⟨hw, n, hsplit⟩ := rdropWhile_isEmpty_eq_concat_iff.1 hstretch
    obtain ⟨ha, r₁, rfl, h₁⟩ := (split_eq_cons_iff (List.cons_ne_nil _ _)).1 hsplit
    obtain ⟨hkey, r₂, rfl, h₂⟩ := (split_eq_cons_iff (List.cons_ne_nil _ _)).1 h₁
    obtain ⟨hb, r₃, rfl, h₃⟩ := (split_eq_cons_iff (List.cons_ne_nil _ _)).1 h₂
    obtain ⟨hfree, rfl⟩ := split_eq_cons_replicate_iff.1 h₃
    exact ⟨a, b, w, n, ha, hkey, hb, hfree, hw, rfl⟩
  · rintro ⟨a, b, w, n, ha, hkey, hb, hfree, hw, rfl⟩
    refine ⟨a, b, w, rdropWhile_isEmpty_eq_concat_iff.2 ⟨hw, n, ?_⟩⟩
    rw [split_append_cons, split_append_cons, split_append_cons, split_of_not_mem ha,
      split_of_not_mem hkey, split_of_not_mem hb, split_eq_cons_replicate_iff.2 ⟨hfree, rfl⟩]
    rfl

def keyed (kind : String → Field) (line : String) : Except RuleError Field :=
  match quotedKey? line.toList with
  | some k => .ok (kind k)
  | none => .error (.unquotedKey line)

theorem keyed_eq_ok_iff {kind : String → Field} :
    keyed kind line = .ok f ↔ ∃ k, quotedKey? line.toList = some k ∧ kind k = f := by
  rw [keyed]
  split
  case h_1 k hk => simp [hk]
  case h_2 hk => simp [hk]

theorem detectField_eq (line : String) :
    detectField line =
      if Field.url.marks line then .ok .url
      else if Field.body.marks line then .ok .body
      else if Field.method.marks line then .ok .method
      else if (Field.param "").marks line then keyed .param line
      else if (Field.header "").marks line then keyed .header line
      else .error (.unknownField line) := by
  have hkeyed : ∀ kind : String → Field, keyed kind line =
      (match quotedKey? line.toList with
        | some k => (.ok k : Except RuleError String)
        | none => .error (.unquotedKey line)).map kind := by
    intro kind
    rw [keyed]
    cases quotedKey? line.toList <;> rfl
  rw [hkeyed, hkeyed]
  rfl

theorem detectField_eq_ok_iff :
    detectField line = .ok f ↔ f.marks line = true ∧ (∀ g ∈ f.earlier, g.marks line = false) ∧
      ∀ k, f.key? = some k → quotedKey? line.toList = some k := by
  have hparam : ∀ k, (Field.param k).marks line = (Field.param "").marks line := fun _ => rfl
  have hheader : ∀ k, (Field.header k).marks line = (Field.header "").marks line := fun _ => rfl
  rw [detectField_eq]
  split
  case isTrue hurl => cases f <;> simp [Field.earlier, Field.key?, hurl]
  case isFalse hurl =>
    split
    case isTrue hbody => cases f <;> simp [Field.earlier, Field.key?, hurl, hbody]
    case isFalse hbody =>
      split
      case isTrue hmethod => cases f <;> simp [Field.earlier, Field.key?, hurl, hbody, hmethod]
      case isFalse hmethod =>
        split
        case isTrue hkey =>
          cases f <;>
            simp [Field.earlier, Field.key?, keyed_eq_ok_iff, hparam, hurl, hbody, hmethod, hkey]
        case isFalse hkey =>
          split
          case isTrue hentry =>
            cases f <;> simp [Field.earlier, Field.key?, keyed_eq_ok_iff, hparam, hheader, hurl,
              hbody, hmethod, hkey, hentry]
          case isFalse hentry =>
            cases f <;> simp [hparam, hheader, hurl, hbody, hmethod, hkey, hentry]

theorem parse_eq_ok_iff {r : Rule} :
    parse line = .ok r ↔ ∃ f op, detectField line = .ok f ∧ Operator.detect line.toList = some op ∧
      r = ⟨line, f, op, String.ofList (unquote (afterLast ' ' line.toList))⟩ := by
  rw [parse]
  cases detectField line with
  | error e => simp [bind, Except.bind]
  | ok f => cases Operator.detect line.toList <;> simp [bind, Except.bind, eq_comm]

end Rule

end StubHttp
