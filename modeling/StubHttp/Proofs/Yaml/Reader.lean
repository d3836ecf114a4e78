import StubHttp.Yaml.Reader

/-!
# What a record takes from a map

A record with known keys is read from the entries of a map one by one. Where each part of the record is
set under one key only, a part is what its reader makes of the value under its key, and the default if the
map does not have the key. This goes on through records within records.
-/
namespace StubHttp.Yaml

def value? (document : Node) (es : List (Node × Node)) (name : String) : Option Node :=
  (es.find? fun e => Reader.text document e.1 = some name).map (·.2)

def member? (document node : Node) (name : String) : Option Node :=
  match Reader.target? document node with
  | some (.map _ es) => value? document es name
  | _ => none

def Node.at? (document : Node) (path : List String) : Option Node :=
  path.foldl (fun node? name => node?.bind fun node => member? document node name) (some document)

namespace Reader

variable {α β σ : Type} {document node k v : Node} {es : List (Node × Node)} {seen : List String}
  {fields : List (Field σ)} {name : String} {r : Reader α} {get : σ → α} {a b blank : σ}

def Gives (document : Node) (r : Reader α) (default : α) : Option Node → α → Prop
  | none, a => a = default
  | some node, a => r document node = some a

def Field.Keeps (f : Field σ) (get : σ → α) : Prop :=
  ∀ document node g, f.read document node = some g → ∀ a, get (g a) = get a

/-- A part of a record that the field with one name sets, and no other field changes. -/
structure Sets (fields : List (Field σ)) (name : String) (r : Reader α) (get : σ → α) : Prop where
  own : ∃ set, fields.find? (·.name == name) = some (field name r set) ∧ ∀ v a, get (set v a) = v
  other : ∀ f ∈ fields, f.name ≠ name → f.Keeps get

@[simp]
theorem field_name (name : String) (r : Reader β) (set : β → σ → σ) :
    (field name r set).name = name := rfl

theorem field_read_eq_some {set : β → σ → σ} {r : Reader β} {g : σ → σ} :
    (field name r set).read document node = some g ↔ ∃ v, r document node = some v ∧ set v = g :=
  Option.map_eq_some_iff

theorem keeps_field {set : β → σ → σ} (name : String) (r : Reader β)
    (h : ∀ v a, get (set v a) = get a) : (field name r set).Keeps get := by
  intro document node g hg
  obtain ⟨v, -, rfl⟩ := field_read_eq_some.1 hg
  exact h v

theorem value?_cons (document k v : Node) (es : List (Node × Node)) (name : String) :
    value? document ((k, v) :: es) name =
      if text document k = some name then some v else value? document es name := by
  rw [value?, List.find?_cons]
  by_cases h : text document k = some name
  · simp [h]
  · simp [h, value?]

theorem entries_cons (h : entries fields document ((k, v) :: es) seen a = some b) :
    ∃ n, text document k = some n ∧
      ((fields.find? (·.name == n) = none ∧ entries fields document es seen a = some b) ∨
        ∃ f g, fields.find? (·.name == n) = some f ∧ f ∈ fields ∧ f.name = n ∧ n ∉ seen ∧
          f.read document v = some g ∧
          entries fields document es (n :: seen) (g a) = some b) := by
  rw [entries] at h
  obtain ⟨n, hn, h⟩ := Option.bind_eq_some_iff.1 h
  refine ⟨n, hn, ?_⟩
  cases hf : fields.find? (·.name == n) with
  | none =>
    rw [hf] at h
    exact .inl ⟨rfl, h⟩
  | some f =>
    rw [hf] at h
    by_cases hseen : n ∈ seen
    · simp [hseen] at h
    · obtain ⟨g, hg, h⟩ : ∃ g, f.read document v = some g ∧
          entries fields document es (n :: seen) (g a) = some b := by
        simpa [hseen, Option.bind_eq_some_iff] using h
      have hname : f.name = n := by simpa using List.find?_some hf
      exact .inr ⟨f, g, rfl, List.mem_of_find?_eq_some hf, hname, hseen, hg, h⟩

namespace Sets

theorem stays (h : Sets fields name r get) (hseen : name ∈ seen)
    (hes : entries fields document es seen a = some b) : get b = get a := by
  induction es generalizing seen a with
  | nil => rw [Option.some.inj hes]
  | cons e es ih =>
    obtain ⟨n, -, ⟨-, hrest⟩ | ⟨f, g, -, hmem, rfl, hn, hg, hrest⟩⟩ := entries_cons hes
    · exact ih hseen hrest
    · have hne : f.name ≠ name := fun heq => hn (heq ▸ hseen)
      rw [ih (List.mem_cons_of_mem _ hseen) hrest]
      exact h.other f hmem hne _ _ g hg a

theorem entries (h : Sets fields name r get) (hseen : name ∉ seen)
    (hes : entries fields document es seen a = some b) :
    Gives document r (get a) (value? document es name) (get b) := by
  induction es generalizing seen a with
  | nil => exact congrArg get (Option.some.inj hes).symm
  | cons e es ih =>
    obtain ⟨set, hown, hset⟩ := h.own
    obtain ⟨n, hn, ⟨hf, hrest⟩ | ⟨f, g, hf, hmem, rfl, -, hg, hrest⟩⟩ := entries_cons hes
    · have hne : n ≠ name := by
        rintro rfl
        cases hf.symm.trans hown
      rw [value?_cons, if_neg (by simpa [hn] using hne)]
      exact ih hseen hrest
    · by_cases hname : f.name = name
      · rw [hname] at hf hn hrest
        obtain rfl := Option.some.inj (hf.symm.trans hown)
        obtain ⟨w, hw, rfl⟩ := field_read_eq_some.1 hg
        rw [value?_cons, if_pos hn, h.stays List.mem_cons_self hrest, hset]
        exact hw
      · rw [value?_cons, if_neg (by simpa [hn] using hname), ← h.other f hmem hname _ _ g hg a]
        exact ih (by simp [Ne.symm hname, hseen]) hrest

theorem record (h : Sets fields name r get) (hnode : record fields blank document node = some a) :
    Gives document r (get blank) (member? document node name) (get a) := by
  obtain ⟨t, ht, hread⟩ := Option.bind_eq_some_iff.1 hnode
  rw [member?, ht]
  split at hread
  case h_1 p es => exact h.entries List.not_mem_nil hread
  case h_2 => exact congrArg get (Option.some.inj hread).symm
  case h_3 => cases hread

end Sets

theorem sets_only (name : String) (r : Reader α) : Sets [field name r fun v _ => v] name r id where
  own := ⟨fun v _ => v, by simp, fun _ _ => rfl⟩
  other := by simp

/-- A part of a record that is given, or left out with all of the record, is given or left out. -/
theorem Gives.part {node? : Option Node} (hrecord : Gives document (record fields blank) blank node? a)
    (h : Sets fields name r get) :
    Gives document r (get blank) (node?.bind fun node => member? document node name) (get a) := by
  cases node? with
  | none => exact congrArg get hrecord
  | some node => exact h.record hrecord

end Reader

end StubHttp.Yaml
