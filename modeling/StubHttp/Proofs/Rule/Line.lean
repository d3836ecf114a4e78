import StubHttp.Proofs.Rule.Parse

/-!
# Plain lines and what is read from them

A plain line quotes its value, and its key if it has one. What is sought in a line has no quote in it,
so it stands in the value, in the key or in the words around them, and never across a quote. Hence a
plain line is read as it was written exactly if the value and the key keep out all that is sought
earlier, the value has no blank, and the quotes of a line with a key can be told apart.
-/
namespace StubHttp

open Text

namespace Field

/-- The words of fields that are sought earlier. Lines about parameters are told from those about the
url by how they start. -/
def earlierWords : Field → List String
  | url => []
  | body => ["url"]
  | method => ["url", "body"]
  | param _ => ["body", "httpMethod"]
  | header _ => ["url", "body", "httpMethod"]

def opening : Field → List Char
  | param _ => "url parameters contain parameter ".toList
  | header _ => "headers contain entry ".toList
  | _ => []

def lead (op : Operator) : Field → List Char
  | url => "url ".toList ++ (op.keyword.toList ++ [' '])
  | body => "body ".toList ++ (op.keyword.toList ++ [' '])
  | method => "httpMethod ".toList ++ (op.keyword.toList ++ [' '])
  | param _ | header _ => " whose value ".toList ++ (op.keyword.toList ++ [' '])

theorem toList_phrase_of_key {f : Field} {k : String} (h : f.key? = some k) :
    f.phrase.toList ++ [' '] =
      f.opening ++ '\'' :: (k.toList ++ '\'' :: " whose value ".toList) := by
  have hparam : "url parameters contain parameter '".toList =
      "url parameters contain parameter ".toList ++ ['\''] := by decide
  have hheader : "headers contain entry '".toList = "headers contain entry ".toList ++ ['\''] := by
    decide
  have hclose : "' whose value".toList ++ [' '] = '\'' :: " whose value ".toList := by decide
  cases f with
  | param k' =>
    obtain rfl : k' = k := Option.some.inj h
    have hphrase : (param k').phrase =
      "url parameters contain parameter '" ++ k' ++ "' whose value" := rfl
    rw [hphrase, String.toList_append, String.toList_append, hparam, List.append_assoc, hclose,
      List.append_assoc, List.append_assoc, List.singleton_append]
    rfl
  | header k' =>
    obtain rfl : k' = k := Option.some.inj h
    have hphrase : (header k').phrase = "headers contain entry '" ++ k' ++ "' whose value" := rfl
    rw [hphrase, String.toList_append, String.toList_append, hheader, List.append_assoc, hclose,
      List.append_assoc, List.append_assoc, List.singleton_append]
    rfl
  | _ => cases h

def start (op : Operator) (f : Field) : List Char :=
  match f.key? with
  | none => f.lead op
  | some _ => f.opening

end Field

namespace Rule

variable {f : Field} {op : Operator} {value : String} {needle : List Char}

def quoted (f : Field) (value : String) : List String := value :: f.key?.toList

/-- What the quoted texts of a plain line keep out. -/
structure Plain (f : Field) (op : Operator) (value : String) : Prop where
  blank : ' ' ∉ value.toList
  operators : ∀ o ∈ op.before, ∀ s ∈ quoted f value, ¬ o.keyword.toList <:+: s.toList
  fields : ∀ w ∈ f.earlierWords, ∀ s ∈ quoted f value, ¬ w.toList <:+: s.toList
  quotes : ∀ k, f.key? = some k → '\'' ∉ k.toList ∧ ∃ (w : List Char) (n : Nat),
    w ≠ [] ∧ '\'' ∉ w ∧ value.toList = w ++ List.replicate n '\''

theorem toList_line (f : Field) (op : Operator) (value : String) :
    (line f op value).toList =
      (f.phrase.toList ++ [' ']) ++
        ((op.keyword.toList ++ [' ']) ++ '\'' :: (value.toList ++ ['\''])) := by
  have hline : line f op value = f.phrase ++ " " ++ op.keyword ++ " '" ++ value ++ "'" := rfl
  have hblank : " ".toList = [' '] := by decide
  have hopen : " '".toList = [' ', '\''] := by decide
  have hclose : "'".toList = ['\''] := by decide
  rw [hline]
  simp only [String.toList_append, hblank, hopen, hclose, List.append_assoc, List.cons_append,
    List.nil_append]

theorem toList_line_of_key {k : String} (hk : f.key? = some k) :
    (line f op value).toList =
      f.opening ++ '\'' :: (k.toList ++ '\'' :: (f.lead op ++ '\'' :: (value.toList ++ ['\'']))) := by
  have hlead : f.lead op = " whose value ".toList ++ (op.keyword.toList ++ [' ']) := by
    cases f with
    | param k' => rfl
    | header k' => rfl
    | _ => cases hk
  rw [toList_line, Field.toList_phrase_of_key hk, hlead]
  simp only [List.append_assoc, List.cons_append]

theorem toList_line_of_no_key (hk : f.key? = none) :
    (line f op value).toList = f.lead op ++ '\'' :: (value.toList ++ ['\'']) := by
  have hurl : "url".toList ++ [' '] = "url ".toList := by decide
  have hbody : "body".toList ++ [' '] = "body ".toList := by decide
  have hmethod : "httpMethod".toList ++ [' '] = "httpMethod ".toList := by decide
  have hlead : f.lead op = f.phrase.toList ++ [' '] ++ (op.keyword.toList ++ [' ']) := by
    cases f with
    | url => exact congrArg (· ++ (op.keyword.toList ++ [' '])) hurl.symm
    | body => exact congrArg (· ++ (op.keyword.toList ++ [' '])) hbody.symm
    | method => exact congrArg (· ++ (op.keyword.toList ++ [' '])) hmethod.symm
    | _ => cases hk
  rw [toList_line, hlead]
  simp only [List.append_assoc]

def frame (f : Field) (op : Operator) : List (List Char) := [f.opening, f.lead op]

theorem infix_line_iff (hne : needle ≠ []) (hquote : '\'' ∉ needle) :
    needle <:+: (line f op value).toList ↔
      (∃ s ∈ frame f op, needle <:+: s) ∨ ∃ s ∈ quoted f value, needle <:+: s.toList := by
  have hnil : ¬ needle <:+: [] := by rwa [List.infix_nil]
  cases hk : f.key? with
  | none =>
    have hopening : f.opening = [] := by
      cases f with
      | param k => cases hk
      | header k => cases hk
      | _ => rfl
    rw [toList_line_of_no_key hk, infix_append_cons_iff hquote, infix_append_cons_iff hquote]
    simp [frame, quoted, hk, hopening, hnil]
  | some k =>
    rw [toList_line_of_key hk, infix_append_cons_iff hquote, infix_append_cons_iff hquote,
      infix_append_cons_iff hquote, infix_append_cons_iff hquote]
    simp only [frame, quoted, hk, hnil, Option.toList_some, List.mem_cons, List.not_mem_nil, or_false,
      exists_eq_or_imp, exists_eq_left]
    tauto

theorem occurs_line_eq_false_iff (hne : needle ≠ []) (hquote : '\'' ∉ needle)
    (hframe : ∀ s ∈ frame f op, occurs needle s = false) :
    occurs needle (line f op value).toList = false ↔
      ∀ s ∈ quoted f value, ¬ needle <:+: s.toList := by
  rw [Bool.eq_false_iff, Ne, occurs_iff, infix_line_iff hne hquote, not_or]
  constructor
  · rintro ⟨-, hquoted⟩ s hs hinfix
    exact hquoted ⟨s, hs, hinfix⟩
  · intro hquoted
    refine ⟨?_, ?_⟩
    · rintro ⟨s, hs, hinfix⟩
      have hfalse := hframe s hs
      rw [occurs_iff.2 hinfix] at hfalse
      cases hfalse
    · rintro ⟨s, hs, hinfix⟩
      exact hquoted s hs hinfix

theorem occurs_line_of_frame {s : List Char} (hs : s ∈ frame f op) (hne : needle ≠ [])
    (hquote : '\'' ∉ needle) (h : occurs needle s = true) :
    occurs needle (line f op value).toList = true :=
  occurs_iff.2 ((infix_line_iff hne hquote).2 (.inl ⟨s, hs, occurs_iff.1 h⟩))

theorem occurs_before_frame (f : Field) (op : Operator) :
    ∀ o ∈ op.before, ∀ s ∈ frame f op, occurs o.keyword.toList s = false := by
  -- The words around a key do not depend on it.
  have hparam : ∀ o ∈ op.before, ∀ s ∈ frame (.param "") op, occurs o.keyword.toList s = false := by
    cases op <;> decide
  have hheader : ∀ o ∈ op.before, ∀ s ∈ frame (.header "") op,
      occurs o.keyword.toList s = false := by
    cases op <;> decide
  cases f with
  | param k => exact hparam
  | header k => exact hheader
  | _ => cases op <;> decide

theorem occurs_keyword_lead (f : Field) (op : Operator) :
    occurs op.keyword.toList (f.lead op) = true := by
  have h : ∀ words : List Char, occurs op.keyword.toList (words ++ (op.keyword.toList ++ [' '])) :=
    fun words => occurs_iff.2 ⟨words, [' '], List.append_assoc ..⟩
  cases f <;> exact h _

theorem keyword_ne_nil (op : Operator) : op.keyword.toList ≠ [] := by cases op <;> decide

theorem quote_not_mem_keyword (op : Operator) : '\'' ∉ op.keyword.toList := by cases op <;> decide

theorem detect_line_iff :
    Operator.detect (line f op value).toList = some op ↔
      ∀ o ∈ op.before, ∀ s ∈ quoted f value, ¬ o.keyword.toList <:+: s.toList := by
  have hop : occurs op.keyword.toList (line f op value).toList = true :=
    occurs_line_of_frame (List.mem_cons_of_mem _ List.mem_cons_self) (keyword_ne_nil op)
      (quote_not_mem_keyword op) (occurs_keyword_lead f op)
  have hbefore : ∀ o ∈ op.before, occurs o.keyword.toList (line f op value).toList = false ↔
      ∀ s ∈ quoted f value, ¬ o.keyword.toList <:+: s.toList := by
    intro o ho
    exact occurs_line_eq_false_iff (keyword_ne_nil o) (quote_not_mem_keyword o)
      (occurs_before_frame f op o ho)
  rw [Operator.detect, Operator.all_find?_eq_some_iff]
  constructor
  · rintro ⟨-, h⟩ o ho
    exact (hbefore o ho).1 (h o ho)
  · intro h
    exact ⟨hop, fun o ho => (hbefore o ho).2 (h o ho)⟩

theorem quote_not_mem_opening (f : Field) : '\'' ∉ f.opening := by
  cases f with
  | param k => exact (by decide : '\'' ∉ (Field.param "").opening)
  | header k => exact (by decide : '\'' ∉ (Field.header "").opening)
  | _ => exact List.not_mem_nil

theorem quote_not_mem_lead (f : Field) (op : Operator) : '\'' ∉ f.lead op := by
  have hkeyed : '\'' ∉ (Field.param "").lead op := by cases op <;> decide
  cases f with
  | param k => exact hkeyed
  | header k => exact hkeyed
  | _ => cases op <;> decide

theorem quotedKey?_line_iff {k : String} (hk : f.key? = some k) :
    quotedKey? (line f op value).toList = some k ↔
      '\'' ∉ k.toList ∧ ∃ (w : List Char) (n : Nat),
        w ≠ [] ∧ '\'' ∉ w ∧ value.toList = w ++ List.replicate n '\'' := by
  rw [quotedKey?_eq_some_iff, toList_line_of_key hk]
  constructor
  · rintro ⟨a, b, w, n, ha, hkey, hb, hfree, hw, heq⟩
    obtain ⟨-, heq⟩ := (append_cons_inj (quote_not_mem_opening f) ha).1 heq
    obtain ⟨-, heq⟩ := (append_cons_inj hkey hkey).1 heq
    obtain ⟨-, heq⟩ := (append_cons_inj (quote_not_mem_lead f op) hb).1 heq
    cases n with
    | zero =>
      have hmem : '\'' ∈ w ++ List.replicate 0 '\'' := heq ▸ List.mem_append_right _ List.mem_cons_self
      rw [List.replicate_zero, List.append_nil] at hmem
      exact absurd hmem hfree
    | succ n =>
      rw [List.replicate_succ', ← List.append_assoc] at heq
      exact ⟨hkey, w, n, hw, hfree, List.append_cancel_right heq⟩
  · rintro ⟨hkey, w, n, hw, hfree, hvalue⟩
    refine ⟨f.opening, f.lead op, w, n + 1, quote_not_mem_opening f, hkey, quote_not_mem_lead f op,
      hfree, hw, ?_⟩
    rw [hvalue, List.append_assoc, List.replicate_succ']

theorem occurs_earlierWords_frame (f : Field) (op : Operator) :
    ∀ w ∈ f.earlierWords, ∀ s ∈ frame f op, occurs w.toList s = false := by
  have hparam : ∀ w ∈ (Field.param "").earlierWords, ∀ s ∈ frame (.param "") op,
      occurs w.toList s = false := by
    cases op <;> decide
  have hheader : ∀ w ∈ (Field.header "").earlierWords, ∀ s ∈ frame (.header "") op,
      occurs w.toList s = false := by
    cases op <;> decide
  cases f with
  | param k => exact hparam
  | header k => exact hheader
  | _ => cases op <;> decide

theorem earlierWords_line_iff :
    (∀ w ∈ f.earlierWords, occurs w.toList (line f op value).toList = false) ↔
      ∀ w ∈ f.earlierWords, ∀ s ∈ quoted f value, ¬ w.toList <:+: s.toList := by
  have hword : ∀ w ∈ f.earlierWords, w.toList ≠ [] ∧ '\'' ∉ w.toList := by
    cases f with
    | param k => exact (by decide : ∀ w ∈ ["body", "httpMethod"], w.toList ≠ [] ∧ '\'' ∉ w.toList)
    | header k =>
      exact (by decide : ∀ w ∈ ["url", "body", "httpMethod"], w.toList ≠ [] ∧ '\'' ∉ w.toList)
    | _ => decide
  refine forall₂_congr ?_
  intro w hw
  exact occurs_line_eq_false_iff (hword w hw).1 (hword w hw).2 (occurs_earlierWords_frame f op w hw)

theorem exists_toList_line (f : Field) (op : Operator) (value : String) :
    ∃ rest, (line f op value).toList = f.start op ++ rest := by
  rw [Field.start]
  split
  case h_1 hk => exact ⟨_, toList_line_of_no_key hk⟩
  case h_2 k hk => exact ⟨_, toList_line_of_key hk⟩

theorem isPrefixOf_line (h : needle.isPrefixOf (f.start op) = true) :
    needle.isPrefixOf (line f op value).toList = true := by
  obtain ⟨rest, hline⟩ := exists_toList_line f op value
  rw [hline]
  exact isPrefixOf_append_of_isPrefixOf h

theorem isPrefixOf_line_eq_false (h : needle.isPrefixOf (f.start op) = false)
    (h' : (f.start op).isPrefixOf needle = false) :
    needle.isPrefixOf (line f op value).toList = false := by
  obtain ⟨rest, hline⟩ := exists_toList_line f op value
  rw [hline]
  exact isPrefixOf_append_eq_false h h'

theorem url_marks_eq {line : String} {b : Bool}
    (h : "url parameters contain".toList.isPrefixOf line.toList = b) :
    Field.url.marks line = (occurs "url".toList line.toList && !b) := by
  rw [Field.marks, h]

theorem marks_line (f : Field) (op : Operator) (value : String) :
    f.marks (line f op value) = true := by
  have hown : ∀ w : String, w.toList ≠ [] → '\'' ∉ w.toList → occurs w.toList (f.lead op) = true →
      occurs w.toList (line f op value).toList = true := fun w hne hquote h =>
    occurs_line_of_frame (List.mem_cons_of_mem _ List.mem_cons_self) hne hquote h
  cases f with
  | url =>
    have hstart : "url parameters contain".toList.isPrefixOf (line .url op value).toList = false :=
      isPrefixOf_line_eq_false (by cases op <;> decide) (by cases op <;> decide)
    rw [url_marks_eq hstart, hown "url" (by decide) (by decide) (by cases op <;> decide)]
    rfl
  | body => exact hown "body" (by decide) (by decide) (by cases op <;> decide)
  | method => exact hown "httpMethod" (by decide) (by decide) (by cases op <;> decide)
  | param k =>
    have hstart : "url parameters contain parameter".toList.isPrefixOf
      (Field.param "").opening = true := by decide
    exact isPrefixOf_line hstart
  | header k =>
    have hstart : "headers contain entry".toList.isPrefixOf (Field.header "").opening = true := by
      decide
    exact isPrefixOf_line hstart

theorem earlier_marks_line_iff :
    (∀ g ∈ f.earlier, g.marks (line f op value) = false) ↔
      ∀ w ∈ f.earlierWords, occurs w.toList (line f op value).toList = false := by
  have hbody : Field.body.marks (line f op value) = occurs "body".toList (line f op value).toList :=
    rfl
  have hmethod : Field.method.marks (line f op value) =
    occurs "httpMethod".toList (line f op value).toList := rfl
  have hurl : "url parameters contain".toList.isPrefixOf (f.start op) = false →
      (f.start op).isPrefixOf "url parameters contain".toList = false →
      Field.url.marks (line f op value) = occurs "url".toList (line f op value).toList := by
    intro h h'
    rw [url_marks_eq (isPrefixOf_line_eq_false h h'), Bool.not_false, Bool.and_true]
  cases f with
  | url => simp [Field.earlier, Field.earlierWords]
  | body =>
    have hurl := hurl (by cases op <;> decide) (by cases op <;> decide)
    simp only [Field.earlier, Field.earlierWords, List.forall_mem_singleton, hurl]
  | method =>
    have hurl := hurl (by cases op <;> decide) (by cases op <;> decide)
    simp only [Field.earlier, Field.earlierWords, List.forall_mem_cons, List.not_mem_nil, hurl, hbody,
      IsEmpty.forall_iff, implies_true]
  | param k =>
    have hstart : "url parameters contain".toList.isPrefixOf (Field.param "").opening = true := by
      decide
    have hline : "url parameters contain".toList.isPrefixOf (line (.param k) op value).toList = true :=
      isPrefixOf_line hstart
    have hurl := url_marks_eq hline
    simp only [Field.earlier, Field.earlierWords, List.forall_mem_cons, List.not_mem_nil, hurl, hbody,
      hmethod, Bool.not_true, Bool.and_false, true_and, IsEmpty.forall_iff, implies_true]
  | header k =>
    have happart : "url parameters contain".toList.isPrefixOf (Field.header "").opening = false ∧
        (Field.header "").opening.isPrefixOf "url parameters contain".toList = false ∧
        "url parameters contain parameter".toList.isPrefixOf (Field.header "").opening = false ∧
        (Field.header "").opening.isPrefixOf "url parameters contain parameter".toList = false := by
      decide
    obtain ⟨h₁, h₂, h₃, h₄⟩ := happart
    have hurl := hurl h₁ h₂
    have hparam : (Field.param "").marks (line (.header k) op value) = false :=
      isPrefixOf_line_eq_false h₃ h₄
    simp only [Field.earlier, Field.earlierWords, List.forall_mem_cons, List.not_mem_nil, hurl, hbody,
      hmethod, hparam, true_and, IsEmpty.forall_iff, implies_true]

theorem detectField_line_iff :
    detectField (line f op value) = .ok f ↔
      (∀ w ∈ f.earlierWords, ∀ s ∈ quoted f value, ¬ w.toList <:+: s.toList) ∧
        ∀ k, f.key? = some k → '\'' ∉ k.toList ∧ ∃ (w : List Char) (n : Nat),
          w ≠ [] ∧ '\'' ∉ w ∧ value.toList = w ++ List.replicate n '\'' := by
  have hquotes : (∀ k, f.key? = some k → quotedKey? (line f op value).toList = some k) ↔
      ∀ k, f.key? = some k → '\'' ∉ k.toList ∧ ∃ (w : List Char) (n : Nat),
        w ≠ [] ∧ '\'' ∉ w ∧ value.toList = w ++ List.replicate n '\'' :=
    forall₂_congr fun k hk => quotedKey?_line_iff hk
  rw [detectField_eq_ok_iff, earlier_marks_line_iff, earlierWords_line_iff, hquotes]
  exact and_iff_right (marks_line f op value)

theorem unquote_quotes (cs : List Char) : unquote ('\'' :: (cs ++ ['\''])) = cs := by
  rw [unquote, List.getLast?_concat, if_pos rfl, List.dropLast_concat]

theorem not_mem_unquote {c : Char} {cs : List Char} (h : c ∉ cs) : c ∉ unquote cs := by
  unfold unquote
  split
  case h_1 rest =>
    split
    case isTrue =>
      intro hc
      exact h (List.mem_cons_of_mem _ ((List.dropLast_sublist rest).subset hc))
    case isFalse => exact h
  case h_2 => exact h

theorem value_line_iff :
    String.ofList (unquote (afterLast ' ' (line f op value).toList)) = value ↔ ' ' ∉ value.toList := by
  constructor
  · intro h
    rw [← h, String.toList_ofList]
    exact not_mem_unquote (not_mem_afterLast ' ' _)
  · intro hblank
    have hquoted : ' ' ∉ '\'' :: (value.toList ++ ['\'']) := by simpa using hblank
    have hline : (line f op value).toList =
        (f.phrase.toList ++ [' '] ++ op.keyword.toList) ++ ' ' :: '\'' :: (value.toList ++ ['\'']) := by
      rw [toList_line]
      simp only [List.append_assoc, List.cons_append, List.nil_append]
    rw [hline, afterLast_append_cons _ hquoted, unquote_quotes, String.ofList_toList]

/-- A line is read as it was written exactly if it is plain. -/
theorem parse_line_iff (f : Field) (op : Operator) (value : String) :
    parse (line f op value) = .ok ⟨line f op value, f, op, value⟩ ↔ Plain f op value := by
  have hparse : parse (line f op value) = .ok ⟨line f op value, f, op, value⟩ ↔
      detectField (line f op value) = .ok f ∧ Operator.detect (line f op value).toList = some op ∧
        String.ofList (unquote (afterLast ' ' (line f op value).toList)) = value := by
    rw [parse_eq_ok_iff]
    constructor
    · rintro ⟨f', op', hfield, hop, heq⟩
      obtain ⟨-, rfl, rfl, hvalue⟩ := Rule.mk.inj heq
      exact ⟨hfield, hop, hvalue.symm⟩
    · rintro ⟨hfield, hop, hvalue⟩
      refine ⟨f, op, hfield, hop, ?_⟩
      rw [hvalue]
  rw [hparse, detectField_line_iff, detect_line_iff, value_line_iff]
  constructor
  · rintro ⟨⟨hfields, hquotes⟩, hoperators, hblank⟩
    exact ⟨hblank, hoperators, hfields, hquotes⟩
  · intro h
    exact ⟨⟨h.fields, h.quotes⟩, h.operators, h.blank⟩

end Rule

end StubHttp
