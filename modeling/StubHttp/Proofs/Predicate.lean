import StubHttp.Failure

/-!
# Declared predicates

A predicate comes from a rule document and is known by what the document declares.
-/
namespace StubHttp.Predicate

theorem ofDocument_eq_ok [Pattern.Engine] {d : RuleDocument} {p : Predicate}
    (h : ofDocument d = .ok p) :
    p.identity = ⟨d.declaration.lines, rank d.priority, d.lifetime, d.declaration.requestType⟩ ∧
      conditionsOf d.declaration.lines = .ok p.conditions ∧
      d.declaration.lines ≠ [] ∧ d.declaration.requestType ≠ "" := by
  unfold ofDocument at h
  split at h
  · cases h
  case isFalse hl =>
    split at h
    · cases h
    case isFalse ht =>
      cases hc : conditionsOf d.declaration.lines with
      | error e => rw [hc] at h; cases h
      | ok cs =>
        rw [hc] at h
        cases h
        exact ⟨rfl, rfl, by simpa using hl, by simpa using ht⟩

def Declared (p : Predicate) : Prop := ∃ d, ofDocument d = .ok p

theorem one_le_rank (priority : Int32) : 1 ≤ rank priority := Nat.le_max_right _ _

theorem Declared.one_le_priority {p : Predicate} (h : p.Declared) : 1 ≤ p.priority := by
  obtain ⟨d, hd⟩ := h
  rw [priority, (ofDocument_eq_ok hd).1]
  exact one_le_rank d.priority

theorem same_iff {p q : Predicate} : p.same q = true ↔ p.identity = q.identity :=
  decide_eq_true_iff

def ordersDocument (priority : Int32) (lifetime : Lifetime) : RuleDocument :=
  { RuleDocument.blank with
    declaration := ⟨"Order", ["url contains '/order'"]⟩
    priority := priority
    lifetime := lifetime }

def orders (priority : Int32) (lifetime : Lifetime) : Predicate where
  identity := ⟨["url contains '/order'"], rank priority, lifetime, "Order"⟩
  conditions := [⟨⟨"url contains '/order'", .url, .contains, "/order"⟩, .url, .contains "/order"⟩]

theorem declared_orders (priority : Int32) (lifetime : Lifetime) :
    (orders priority lifetime).Declared :=
  ⟨ordersDocument priority lifetime, rfl⟩

end StubHttp.Predicate
