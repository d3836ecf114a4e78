import StubHttp.Failure
import StubHttp.Proofs.Rule.Line

/-!
# The quoted value and the value that is read

The key of a line is found by its quotes and the value by its last blank, so the two readings of one
line can part. A line with a key is accepted exactly if it quotes a key and then a value, with nothing
but quotes behind them. The value is read as it is quoted exactly if one quote closes it, no blank
stands in it and a blank stands right before it.
-/
namespace StubHttp

open Text

namespace Rule

variable {line : String} {a k b w : List Char} {n : Nat}

/-- The stretches of a line that quotes a key `k` and then a value `w`, which `n` quotes follow. -/
structure Quotes (line : String) (a k b w : List Char) (n : Nat) : Prop where
  before : '\'' ∉ a
  key : '\'' ∉ k
  between : '\'' ∉ b
  value : '\'' ∉ w
  value_ne_nil : w ≠ []
  toList_eq : line.toList = a ++ '\'' :: (k ++ '\'' :: (b ++ '\'' :: (w ++ List.replicate n '\'')))

/-- A line on which no field without a key is found, and which starts as one about a field with a key
and has the keyword of an operator in it. -/
structure AsksForKey (line : String) : Prop where
  not_url : "url".toList <:+: line.toList → "url parameters contain".toList <+: line.toList
  not_body : ¬ "body".toList <:+: line.toList
  not_method : ¬ "httpMethod".toList <:+: line.toList
  start : "url parameters contain parameter".toList <+: line.toList ∨
    "headers contain entry".toList <+: line.toList
  operator : ∃ op : Operator, op.keyword.toList <:+: line.toList

theorem quotedKey?_eq_some_iff_quotes {k : String} :
    quotedKey? line.toList = some k ↔ ∃ a b w n, Quotes line a k.toList b w n := by
  rw [quotedKey?_eq_some_iff]
  constructor
  · intro h
    obtain ⟨a, b, w, n, ha, hk, hb, hw, hne, hline⟩ := h
    exact ⟨a, b, w, n, ha, hk, hb, hw, hne, hline⟩
  · intro h
    obtain ⟨a, b, w, n, hq⟩ := h
    exact ⟨a, b, w, n, hq.before, hq.key, hq.between, hq.value, hq.value_ne_nil, hq.toList_eq⟩

theorem getLast?_ne_of_not_mem {q : Char} {x : List Char} (h : q ∉ x) (y : List Char)
    (hx : x ≠ []) : (y ++ x).getLast? ≠ some q := by
  rw [List.getLast?_append_of_ne_nil _ hx]
  intro hlast
  exact h (List.mem_of_getLast? hlast)

theorem append_replicate_inj {q : Char} {x y : List Char} {m n : Nat} (hx : x.getLast? ≠ some q)
    (hy : y.getLast? ≠ some q) (h : x ++ List.replicate m q = y ++ List.replicate n q) :
    x = y ∧ m = n := by
  induction m generalizing n with
  | zero =>
    cases n with
    | zero => simpa using h
    | succ n =>
      rw [List.replicate_zero, List.append_nil, List.replicate_succ', ← List.append_assoc] at h
      simp [h] at hx
  | succ m ih =>
    cases n with
    | zero =>
      rw [List.replicate_zero, List.append_nil, List.replicate_succ', ← List.append_assoc] at h
      simp [← h] at hy
    | succ n =>
      rw [List.replicate_succ', List.replicate_succ', ← List.append_assoc, ← List.append_assoc,
        List.append_cancel_right_eq] at h
      obtain ⟨hxy, hmn⟩ := ih h
      exact ⟨hxy, congrArg (· + 1) hmn⟩

theorem unquote_cases (cs : List Char) : unquote cs = cs ∨ cs = '\'' :: (unquote cs ++ ['\'']) := by
  unfold unquote
  split
  case h_1 rest =>
    split
    case isTrue h => exact .inr (by rw [List.dropLast_append_getLast? _ h])
    case isFalse => exact .inl rfl
  case h_2 => exact .inl rfl

theorem Quotes.toList_eq_append (h : Quotes line a k b w n) :
    line.toList = (a ++ '\'' :: k) ++ ['\''] ++ b ++ ['\''] ++ w ++ List.replicate n '\'' := by
  rw [h.toList_eq]
  simp only [List.append_assoc, List.cons_append, List.nil_append]

theorem Quotes.eq_of_append {x : List Char} {m : Nat} (h : Quotes line a k b w n)
    (hx : line.toList = x ++ w ++ List.replicate m '\'') :
    (a ++ '\'' :: k) ++ ['\''] ++ b ++ ['\''] = x ∧ n = m := by
  have hlast : ∀ y : List Char, (y ++ w).getLast? ≠ some '\'' :=
    fun y => getLast?_ne_of_not_mem h.value y h.value_ne_nil
  rw [h.toList_eq_append] at hx
  obtain ⟨heq, hn⟩ := append_replicate_inj (hlast _) (hlast _) hx
  exact ⟨List.append_cancel_right heq, hn⟩

theorem Quotes.eq_of_read (h : Quotes line a k b w n)
    (hread : unquote (afterLast ' ' line.toList) = w) : n = 1 ∧ ' ' ∉ w ∧ [' '] <:+ b := by
  have hblank : ' ' ∉ w := by
    rw [← hread]
    exact not_mem_unquote (not_mem_afterLast ' ' _)
  have hmem : ' ' ∈ line.toList := by
    by_contra hnone
    rw [afterLast_of_not_mem hnone] at hread
    exact h.value_ne_nil hread.symm
  obtain ⟨x, hx⟩ := exists_append_afterLast hmem
  obtain hbare | hquoted := unquote_cases (afterLast ' ' line.toList)
  · -- without quotes to take off, a blank would stand where the value is opened
    rw [← hbare, hread] at hx
    have hends : line.toList = (x ++ [' ']) ++ w ++ List.replicate 0 '\'' := by simp [hx]
    obtain ⟨heq, -⟩ := h.eq_of_append hends
    have hlast := congrArg List.getLast? heq
    rw [List.getLast?_concat, List.getLast?_concat] at hlast
    simp at hlast
  · rw [hread] at hquoted
    rw [hquoted] at hx
    have hends : line.toList = (x ++ [' '] ++ ['\'']) ++ w ++ List.replicate 1 '\'' := by simp [hx]
    obtain ⟨heq, hn⟩ := h.eq_of_append hends
    have hbefore := List.append_cancel_right heq
    refine ⟨hn, hblank, ?_⟩
    cases b using List.reverseRecOn with
    | nil =>
      have hlast := congrArg List.getLast? hbefore
      rw [List.append_nil, List.getLast?_concat, List.getLast?_concat] at hlast
      simp at hlast
    | append_singleton b c =>
      rw [← List.append_assoc] at hbefore
      have hlast := congrArg List.getLast? hbefore
      rw [List.getLast?_concat, List.getLast?_concat] at hlast
      exact ⟨b, by rw [Option.some.inj hlast]⟩

theorem Quotes.read_iff (h : Quotes line a k b w n) :
    unquote (afterLast ' ' line.toList) = w ↔ n = 1 ∧ ' ' ∉ w ∧ [' '] <:+ b := by
  constructor
  · exact h.eq_of_read
  · intro hone
    obtain ⟨rfl, hblank, b', rfl⟩ := hone
    have hline : line.toList =
        (a ++ '\'' :: (k ++ '\'' :: b')) ++ ' ' :: ('\'' :: (w ++ ['\''])) := by
      rw [h.toList_eq]
      simp
    rw [hline, afterLast_append_cons _ (by simpa using hblank), unquote_quotes]

theorem AsksForKey.url_marks (h : AsksForKey line) : Field.url.marks line = false := by
  by_cases hocc : "url".toList <:+: line.toList
  · have hstart := List.isPrefixOf_iff_prefix.2 (h.not_url hocc)
    rw [Field.marks, hstart, Bool.not_true, Bool.and_false]
  · have hnone := Bool.eq_false_iff.2 (mt occurs_iff.1 hocc)
    rw [Field.marks, hnone, Bool.false_and]

theorem AsksForKey.detectField_eq (h : AsksForKey line) :
    detectField line = keyed .param line ∨ detectField line = keyed .header line := by
  have hbody : Field.body.marks line = false := Bool.eq_false_iff.2 (mt occurs_iff.1 h.not_body)
  have hmethod : Field.method.marks line = false :=
    Bool.eq_false_iff.2 (mt occurs_iff.1 h.not_method)
  rw [Rule.detectField_eq, if_neg (by rw [h.url_marks]; decide), if_neg (by rw [hbody]; decide),
    if_neg (by rw [hmethod]; decide)]
  by_cases hparam : (Field.param "").marks line = true
  · rw [if_pos hparam]
    exact .inl rfl
  · have hheader : (Field.header "").marks line = true :=
      List.isPrefixOf_iff_prefix.2
        (h.start.resolve_left fun hp => hparam (List.isPrefixOf_iff_prefix.2 hp))
    rw [if_neg hparam, if_pos hheader]
    exact .inr rfl

theorem AsksForKey.exists_detect (h : AsksForKey line) :
    ∃ op, Operator.detect line.toList = some op := by
  obtain ⟨op, hop⟩ := h.operator
  have hall : op ∈ Operator.all := by cases op <;> decide
  exact Option.isSome_iff_exists.1 (List.find?_isSome.2 ⟨op, hall, occurs_iff.2 hop⟩)

theorem AsksForKey.parse_eq (h : AsksForKey line) :
    (quotedKey? line.toList = none → parse line = .error (.unquotedKey line)) ∧
      ∀ k, quotedKey? line.toList = some k → ∃ r, parse line = .ok r ∧ r.field.key? = some k := by
  obtain ⟨op, hop⟩ := h.exists_detect
  constructor
  · intro hnone
    have hfield : detectField line = .error (.unquotedKey line) := by
      obtain hf | hf := h.detectField_eq <;> rw [hf, keyed, hnone]
    rw [parse, hfield]
    rfl
  · intro k hk
    have hfield : ∃ f, detectField line = .ok f ∧ f.key? = some k := by
      obtain hf | hf := h.detectField_eq
      · exact ⟨.param k, by rw [hf, keyed, hk], rfl⟩
      · exact ⟨.header k, by rw [hf, keyed, hk], rfl⟩
    obtain ⟨f, hf, hkey⟩ := hfield
    exact ⟨_, parse_eq_ok_iff.2 ⟨f, op, hf, hop, rfl⟩, hkey⟩

theorem quotedKey?_of_parse {r : Rule} {k : String} (h : parse line = .ok r)
    (hk : r.field.key? = some k) : quotedKey? line.toList = some k := by
  obtain ⟨f, op, hf, -, rfl⟩ := parse_eq_ok_iff.1 h
  obtain ⟨-, -, hquoted⟩ := detectField_eq_ok_iff.1 hf
  exact hquoted k hk

theorem value_of_parse {r : Rule} (h : parse line = .ok r) :
    r.value.toList = unquote (afterLast ' ' line.toList) := by
  obtain ⟨f, op, -, -, rfl⟩ := parse_eq_ok_iff.1 h
  exact String.toList_ofList

/-- A line that is accepted with a key quotes this key and then a value, which is the value that is read
exactly if one quote closes it, no blank is in it and a blank is before it. A line that asks for a key is
accepted if it quotes a key and a value, and is an invalid definition if it does not. -/
theorem quoted_and_read (line : String) :
    (∀ r k, parse line = .ok r → r.field.key? = some k →
      ∃ a b w n, Quotes line a k.toList b w n ∧
        (r.value.toList = w ↔ n = 1 ∧ ' ' ∉ w ∧ [' '] <:+ b)) ∧
    (AsksForKey line →
      (∀ a k b w n, Quotes line a k b w n →
        ∃ r, parse line = .ok r ∧ r.field.key? = some (String.ofList k)) ∧
      ((¬ ∃ a k b w n, Quotes line a k b w n) →
        parse line = .error (.unquotedKey line) ∧
          Failure.ofRule (.unquotedKey line) = .invalidRule
            s!"rule [{line}] was invalid: expected a quoted key and value pair")) := by
  refine ⟨?_, fun hasks => ⟨?_, ?_⟩⟩
  · intro r k hparse hkey
    obtain ⟨a, b, w, n, hq⟩ := quotedKey?_eq_some_iff_quotes.1 (quotedKey?_of_parse hparse hkey)
    exact ⟨a, b, w, n, hq, by rw [value_of_parse hparse, hq.read_iff]⟩
  · intro a k b w n hq
    have hkey : quotedKey? line.toList = some (String.ofList k) := by
      rw [quotedKey?_eq_some_iff_quotes, String.toList_ofList]
      exact ⟨a, b, w, n, hq⟩
    exact hasks.parse_eq.2 _ hkey
  · intro hnone
    have hkey : quotedKey? line.toList = none := by
      rw [Option.eq_none_iff_forall_ne_some]
      intro k hk
      obtain ⟨a, b, w, n, hq⟩ := quotedKey?_eq_some_iff_quotes.1 hk
      exact hnone ⟨a, k.toList, b, w, n, hq⟩
    exact ⟨hasks.parse_eq.1 hkey, rfl⟩

theorem quoted_and_read_blank :
    ∃ r, parse "headers contain entry 'X-Trace' whose value is 'a b'" = .ok r ∧
      r.field.key? = some "X-Trace" ∧
      ∃ a b w n, Quotes "headers contain entry 'X-Trace' whose value is 'a b'" a "X-Trace".toList b w n ∧
        (r.value.toList = w ↔ n = 1 ∧ ' ' ∉ w ∧ [' '] <:+ b) := by
  have hasks : AsksForKey "headers contain entry 'X-Trace' whose value is 'a b'" :=
    ⟨by decide +kernel, by decide +kernel, by decide +kernel, by decide +kernel,
      .equals, by decide +kernel⟩
  have hquotes : Quotes "headers contain entry 'X-Trace' whose value is 'a b'"
      "headers contain entry ".toList "X-Trace".toList " whose value is ".toList "a b".toList 1 :=
    ⟨by decide, by decide, by decide, by decide, by decide, by decide⟩
  obtain ⟨r, hparse, hkey⟩ := ((quoted_and_read _).2 hasks).1 _ _ _ _ _ hquotes
  exact ⟨r, hparse, hkey, (quoted_and_read _).1 r _ hparse hkey⟩

end Rule

end StubHttp
