import Mathlib.Data.List.Lex
import Mathlib.Data.List.Sort
import Mathlib.Data.String.Basic
import StubHttp.Presets
import StubHttp.Proofs.Files
import StubHttp.Proofs.RuleDocument
import StubHttp.Proofs.Stub.Run
import StubHttp.Proofs.Text.Utf8

/-!
# Loading rule documents

The rule documents below a directory are known by their paths, in whatever order its entries are listed,
and are registered in the order of the paths. If one of them cannot be registered, those before it stay.
-/
namespace StubHttp

namespace Node

def IsDocument (here : Node) (names : List String) : Prop :=
  ∃ n, Leads here names n ∧ ¬ n.IsDir ∧ ∃ name, names.getLast? = some name ∧
    extension? name = some "json"

variable {here here' n : Node} {es : List (String × Node)} {name : String} {names : List String}

theorem isDocument_cons : IsDocument (.dir ((name, n) :: es)) names ↔
    (¬ n.IsDir ∧ extension? name = some "json" ∧ names = [name] ∨
      ∃ below, IsDocument n below ∧ names = name :: below) ∨ IsDocument (.dir es) names := by
  constructor
  · rintro ⟨m, hleads, hm, last, hlast, hext⟩
    cases hleads with
    | entry hmem =>
      rcases List.mem_cons.1 hmem with heq | hmem
      · obtain ⟨rfl, rfl⟩ := Prod.mk.inj heq
        cases hlast
        exact .inl (.inl ⟨hm, hext, rfl⟩)
      · exact .inr ⟨m, .entry hmem, hm, last, hlast, hext⟩
    | @through name' below _ m' _ hmem hleads =>
      rcases List.mem_cons.1 hmem with heq | hmem
      · obtain ⟨rfl, rfl⟩ := Prod.mk.inj heq
        rw [List.getLast?_cons_of_ne_nil hleads.ne_nil] at hlast
        exact .inl (.inr ⟨below, ⟨m, hleads, hm, last, hlast, hext⟩, rfl⟩)
      · exact .inr ⟨m, .through hmem hleads, hm, last, hlast, hext⟩
  · rintro ((⟨hn, hext, rfl⟩ | ⟨below, ⟨m, hleads, hm, last, hlast, hext⟩, rfl⟩) |
      ⟨m, hleads, hm, last, hlast, hext⟩)
    · exact ⟨n, .entry List.mem_cons_self, hn, name, rfl, hext⟩
    · refine ⟨m, .through List.mem_cons_self hleads, hm, last, ?_, hext⟩
      rw [List.getLast?_cons, hlast, Option.getD_some]
    · refine ⟨m, ?_, hm, last, hlast, hext⟩
      cases hleads with
      | entry hmem => exact .entry (List.mem_cons_of_mem _ hmem)
      | through hmem hleads => exact .through (List.mem_cons_of_mem _ hmem) hleads

theorem not_isDocument (hn : n.entries = []) : ¬ IsDocument n names := by
  rintro ⟨m, hleads, -⟩
  cases hleads with
  | entry hmem => simp [hn] at hmem
  | through hmem _ => simp [hn] at hmem

theorem mem_documents_iff : names ∈ documents es ↔ IsDocument (.dir es) names := by
  fun_induction documents es generalizing names with
  | case1 => simp [not_isDocument (n := .dir []) rfl]
  | case2 name es rest ih ih' =>
    have hdir : (Node.dir es).IsDir := trivial
    simp [isDocument_cons, ih, ih', hdir, eq_comm]
  | case3 name n rest hn ih =>
    have hempty : n.entries = [] := by
      cases n with
      | dir es => exact absurd rfl (hn es)
      | _ => rfl
    simp [isDocument_cons, ih, not_isDir hn, not_isDocument hempty]

theorem IsDocument.exists_head (h : IsDocument (.dir es) names) :
    ∃ name ∈ es.map Prod.fst, names.head? = some name := by
  obtain ⟨n, hleads, -⟩ := h
  cases hleads with
  | entry hmem => exact ⟨_, List.mem_map_of_mem hmem, rfl⟩
  | through hmem _ => exact ⟨_, List.mem_map_of_mem hmem, rfl⟩

theorem nodup_append_documents {own : List (List String)} (hown : own.Nodup)
    (hhead : ∀ ps ∈ own, ps.head? = some name) (hname : name ∉ es.map Prod.fst)
    (hes : (documents es).Nodup) : (own ++ documents es).Nodup := by
  refine List.nodup_append.2 ⟨hown, hes, ?_⟩
  rintro ps hps _ hps' rfl
  obtain ⟨name', hmem, hhead'⟩ := (mem_documents_iff.1 hps').exists_head
  obtain rfl : name = name' := Option.some.inj ((hhead ps hps).symm.trans hhead')
  exact hname hmem

theorem documents_nodup (hs : (Node.dir es).Sound) : (documents es).Nodup := by
  fun_induction documents es with
  | case1 => exact .nil
  | case2 name es rest ih ih' =>
    obtain ⟨hname, -, hes, hrest⟩ := sound_cons_iff.1 hs
    refine nodup_append_documents ((ih hes).map List.cons_injective) ?_ hname (ih' hrest)
    simp
  | case3 name n rest hn ih =>
    obtain ⟨hname, -, -, hrest⟩ := sound_cons_iff.1 hs
    refine nodup_append_documents ?_ ?_ hname (ih hrest)
    · split <;> simp
    · split <;> simp

theorem IsDocument.relists (h : Relists here here') (hd : IsDocument here names) :
    IsDocument here' names := by
  obtain ⟨n, hleads, hn, hname⟩ := hd
  obtain ⟨n', hleads', hrelists⟩ := h.leads hleads
  exact ⟨n', hleads', hrelists.isDir.not.1 hn, hname⟩

end Node

theorem pathLE_iff {p q : List String} : pathLE p q = true ↔ p = q ∨ List.Lex (· < ·) p q := by
  fun_induction pathLE p q with
  | case1 q => cases q <;> simp
  | case2 p ps => simp
  | case3 ps q qs ih =>
    rw [ih, List.cons_lex_cons_iff]
    simp only [List.cons.injEq, true_and, lt_irrefl, false_or]
  | case4 p ps q qs hne =>
    rw [decide_eq_true_iff, List.cons_lex_cons_iff]
    simp only [List.cons.injEq, hne, false_and, false_or, or_false]

theorem pathLE_trans (p q r : List String) :
    pathLE p q = true → pathLE q r = true → pathLE p r = true := by
  simp only [pathLE_iff]
  intro hpq hqr
  rcases hpq with rfl | hpq
  · exact hqr
  · rcases hqr with rfl | hqr
    · exact .inr hpq
    · have hpr : p < r := lt_trans hpq hqr
      exact .inr hpr

theorem pathLE_total (p q : List String) : (pathLE p q || pathLE q p) = true := by
  rw [Bool.or_eq_true, pathLE_iff, pathLE_iff]
  rcases trichotomous_of (List.Lex (· < ·)) p q with hpq | heq | hqp
  · exact .inl (.inr hpq)
  · exact .inl (.inl heq)
  · exact .inr (.inr hqp)

theorem documents_sorted {es : List (String × Node)} (hs : (Node.dir es).Sound) :
    ((Node.documents es).mergeSort pathLE).Pairwise (List.Lex (· < ·)) := by
  have hle : ((Node.documents es).mergeSort pathLE).Pairwise (pathLE · · = true) :=
    List.pairwise_mergeSort pathLE_trans pathLE_total _
  have hne : ((Node.documents es).mergeSort pathLE).Pairwise (· ≠ ·) :=
    (List.mergeSort_perm _ _).nodup_iff.2 (Node.documents_nodup hs)
  exact hle.imp₂ (fun p q hpq hne => (pathLE_iff.1 hpq).resolve_left hne) hne

def Node.Loads (root : Node) (path : String) (d : RuleDocument) : Prop :=
  ∃ text, root.readText path = .ok text ∧ RuleDocument.reader.parseText text = .ok d ∧
    ∃ p, d.predicate = .ok p

theorem Node.Loads.unique {root : Node} {path : String} {d d' : RuleDocument} (h : root.Loads path d)
    (h' : root.Loads path d') : d = d' := by
  obtain ⟨text, hread, hparse, -⟩ := h
  obtain ⟨text', hread', hparse', -⟩ := h'
  cases hread.symm.trans hread'
  exact Except.ok.inj (hparse.symm.trans hparse')

theorem Node.loads_of_text {root : Node} {path text : String} {d : RuleDocument} {p : Predicate}
    (hfile : root.find path = .ok (.file (Utf8.bytes text)))
    (htext : text ∈ [d.json.render, d.json.renderPretty]) (hle : d.millis ≤ Delay.limit)
    (hp : d.predicate = .ok p) : root.Loads path d := by
  refine ⟨text, ?_, ?_, p, hp⟩
  · rw [Node.readText_of_find hfile, Utf8.text?_bytes]
  · rw [d.parseText_json text htext, if_pos hle]

/-- Either all of a list can be loaded, or there is a first that cannot. -/
theorem forall₂_or_first {α β : Type} (R : α → β → Prop) (l : List α) :
    (∃ ds, List.Forall₂ R l ds) ∨
    ∃ before x rest ds, l = before ++ x :: rest ∧ List.Forall₂ R before ds ∧ ∀ d, ¬ R x d := by
  induction l with
  | nil => exact .inl ⟨[], .nil⟩
  | cons x l ih =>
    by_cases hx : ∃ d, R x d
    · obtain ⟨d, hd⟩ := hx
      rcases ih with ⟨ds, hds⟩ | ⟨before, y, rest, ds, rfl, hds, hy⟩
      · exact .inl ⟨d :: ds, .cons hd hds⟩
      · exact .inr ⟨x :: before, y, rest, d :: ds, rfl, .cons hd hds, hy⟩
    · exact .inr ⟨[], x, l, [], rfl, .nil, not_exists.1 hx⟩

namespace Stub

variable {s : Stub} {root root' : Node} {dir path : String} {d : RuleDocument} {ds : List RuleDocument}
  {paths : List String} {es : List (String × Node)}

theorem loadPreset_of_loads (h : root.Loads path d) :
    s.loadPreset root path = (.ok (), (s.register d).2) := by
  obtain ⟨text, hread, hparse, p, hp⟩ := h
  have hregister : (s.register d).1 = .ok () := (register_of_ok hp).1
  simp only [loadPreset, readPreset, hread, hparse]
  generalize s.register d = registered at hregister ⊢
  obtain ⟨result, s'⟩ := registered
  obtain rfl : result = .ok () := hregister
  rfl

/-- The counts after a file that cannot be loaded: a document that is read and refused counts as a
registration that failed. -/
def CountsFailure (m m' : Metrics) : Prop :=
  m' = m ∨ ∃ lifetime, m' = m.addRegistration lifetime false

theorem loadPreset_of_not_loads (h : ∀ d, ¬ root.Loads path d) : ∃ reason metrics,
    s.loadPreset root path = (.error (.preset path reason), { s with metrics := metrics }) ∧
      CountsFailure s.metrics metrics := by
  cases hread : root.readText path with
  | error e =>
    refine ⟨e.message, s.metrics, ?_, .inl rfl⟩
    simp only [loadPreset, readPreset, hread]
  | ok text =>
    cases hparse : RuleDocument.reader.parseText text with
    | error e =>
      refine ⟨e.message, s.metrics, ?_, .inl rfl⟩
      simp only [loadPreset, readPreset, hread, hparse]
    | ok d =>
      cases hp : d.predicate with
      | error e =>
        refine ⟨e.message, s.metrics.addRegistration d.lifetime false, ?_, .inr ⟨_, rfl⟩⟩
        simp only [loadPreset, readPreset, hread, hparse, register, hp]
      | ok p => exact absurd ⟨text, hread, hparse, p, hp⟩ (h d)

theorem loadFiles_append (h : List.Forall₂ root.Loads paths ds) (rest : List String) :
    s.loadFiles root (paths ++ rest) = (s.after (ds.map .register)).loadFiles root rest := by
  induction h generalizing s with
  | nil => rfl
  | cons hd _ ih =>
    rw [List.cons_append, loadFiles, loadPreset_of_loads hd]
    exact ih

theorem after_register_journal (ds : List RuleDocument) :
    (s.after (ds.map .register)).journal = s.journal := by
  induction ds generalizing s with
  | nil => rfl
  | cons d ds ih => exact ih.trans (register_journal s d)

theorem presetPaths_eq (hdir : root.readDir dir = .ok es) : presetPaths root dir =
    .ok (((Node.documents es).mergeSort pathLE).map fun names => joinPath dir ("/".intercalate names)) := by
  rw [presetPaths, hdir]
  rfl

theorem loadPresets_of_loads (hpaths : presetPaths root dir = .ok paths)
    (h : List.Forall₂ root.Loads paths ds) :
    s.loadPresets root dir = (.ok paths.length, s.after (ds.map .register)) := by
  have hfiles := loadFiles_append (s := s) h []
  rw [List.append_nil, loadFiles] at hfiles
  simp only [loadPresets, hpaths, hfiles]

theorem loadPresets_of_first {rest : List String}
    (hpaths : presetPaths root dir = .ok (paths ++ path :: rest))
    (h : List.Forall₂ root.Loads paths ds) (hfirst : ∀ d, ¬ root.Loads path d) :
    ∃ reason metrics, s.loadPresets root dir = (.error (.preset path reason),
        { s.after (ds.map .register) with metrics := metrics }) ∧
      CountsFailure (s.after (ds.map .register)).metrics metrics := by
  obtain ⟨reason, metrics, hpreset, hcounts⟩ :=
    loadPreset_of_not_loads (s := s.after (ds.map .register)) hfirst
  refine ⟨reason, metrics, ?_, hcounts⟩
  have hfiles := loadFiles_append (s := s) h (path :: rest)
  rw [loadFiles, hpreset] at hfiles
  simp only [loadPresets, hpaths, hfiles]

/-- The documents that loading these files registers or fails to register: it ends at the first file
that cannot be read as a document and at the first document that is refused. -/
def tried (root : Node) : List String → List RuleDocument
  | [] => []
  | path :: paths =>
    match readPreset root path with
    | .error _ => []
    | .ok d => d :: if d.predicate.isOk then tried root paths else []

def presetDocuments (root : Node) (dir : String) : List RuleDocument :=
  match presetPaths root dir with
  | .error _ => []
  | .ok paths => tried root paths

theorem loadFiles_eq_after (s : Stub) (root : Node) (paths : List String) :
    (s.loadFiles root paths).2 = s.after ((tried root paths).map .register) := by
  induction paths generalizing s with
  | nil => rfl
  | cons path paths ih =>
    rw [loadFiles, loadPreset, tried]
    cases readPreset root path with
    | error e => rfl
    | ok d =>
      cases hp : d.predicate with
      | error e => simp [register, hp, Except.isOk, Except.toBool, after, Op.call]
      | ok p =>
        simp only [register, hp, Except.isOk, Except.toBool, if_true, List.map_cons, after, Op.call, ih]

theorem loadPresets_eq_after (s : Stub) (root : Node) (dir : String) :
    (s.loadPresets root dir).2 = s.after ((presetDocuments root dir).map .register) := by
  rw [loadPresets, presetDocuments]
  cases presetPaths root dir with
  | error e => rfl
  | ok paths =>
    dsimp only
    rw [← loadFiles_eq_after]
    rcases s.loadFiles root paths with ⟨_ | _, _⟩ <;> rfl

theorem loadFiles_same (h : Node.Same root root') (paths : List String) :
    s.loadFiles root' paths = s.loadFiles root paths := by
  induction paths generalizing s with
  | nil => rfl
  | cons path paths ih => simp only [loadFiles, loadPreset, readPreset, Node.readText_same h, ih]

theorem loadPresets_same (h : Node.Same root root') (hdir : root.readDir dir = .ok es) :
    s.loadPresets root' dir = s.loadPresets root dir := by
  obtain ⟨es', hdir', hes⟩ := Node.readDir_same h hdir
  have hsorted : (Node.documents es').mergeSort pathLE = (Node.documents es).mergeSort pathLE := by
    refine (documents_sorted (hes.relists.sound hes.sound)).eq_of_mem_iff (documents_sorted hes.sound)
      fun names => ?_
    simp only [List.mem_mergeSort, Node.mem_documents_iff]
    exact ⟨.relists hes.relists.symm, .relists hes.relists⟩
  simp only [loadPresets, presetPaths_eq hdir', presetPaths_eq hdir, hsorted, loadFiles_same h]

/-- The documents below a directory are loaded in the order of their paths, whatever the order in which
the directories of the tree list their entries. If all of them can be loaded they are all registered; if
not, the failure names the first that cannot and those before it are registered. Nothing is recorded. An
entry that is not a link is what is found at its path. -/
theorem loads_documents_in_order (hroot : root.Sound) (hdir : root.readDir dir = .ok es) :
    let path (names : List String) := joinPath dir ("/".intercalate names)
    let loads (names : List String) (d : RuleDocument) := root.Loads (path names) d
    ∃ files : List (List String), files.Pairwise (List.Lex (· < ·)) ∧
      (∀ names, names ∈ files ↔ (Node.dir es).IsDocument names) ∧
      (∀ names n, (Node.dir es).Leads names n → (∀ target, n ≠ .link target) →
        root.find (path names) = .ok n) ∧
      (∀ root', root.Relists root' → ∀ s : Stub, s.loadPresets root' dir = s.loadPresets root dir) ∧
      ∀ s : Stub, (s.loadPresets root dir).2.journal = s.journal ∧
        ((∃ ds, List.Forall₂ loads files ds ∧
            s.loadPresets root dir = (.ok files.length, s.after (ds.map .register))) ∨
          ∃ before first rest ds, files = before ++ first :: rest ∧ List.Forall₂ loads before ds ∧
            (∀ d, ¬ loads first d) ∧ ∃ reason metrics, s.loadPresets root dir =
                (.error (.preset (path first) reason),
                  { s.after (ds.map .register) with metrics := metrics }) ∧
              CountsFailure (s.after (ds.map .register)).metrics metrics) := by
  intro path loads
  have hfind := Node.readDir_eq_ok_iff.1 hdir
  have hes : (Node.dir es).Sound := Node.find_sound hroot hfind
  refine ⟨(Node.documents es).mergeSort pathLE, documents_sorted hes, fun names => ?_,
    fun names n hleads hn => hleads.find hes hfind hn,
    fun root' h s => loadPresets_same ⟨hroot, h⟩ hdir, fun s => ?_⟩
  · rw [List.mem_mergeSort, Node.mem_documents_iff]
  · have hpaths : presetPaths root dir = .ok (((Node.documents es).mergeSort pathLE).map path) :=
      presetPaths_eq hdir
    generalize (Node.documents es).mergeSort pathLE = files at hpaths ⊢
    rcases forall₂_or_first loads files with ⟨ds, hds⟩ | ⟨before, first, rest, ds, rfl, hds, hfirst⟩
    · have hload := loadPresets_of_loads (s := s) hpaths (List.forall₂_map_left_iff.2 hds)
      rw [List.length_map] at hload
      refine ⟨?_, .inl ⟨ds, hds, hload⟩⟩
      rw [hload, after_register_journal]
    · rw [List.map_append, List.map_cons] at hpaths
      obtain ⟨reason, metrics, hload, hcounts⟩ :=
        loadPresets_of_first (s := s) hpaths (List.forall₂_map_left_iff.2 hds) hfirst
      refine ⟨?_, .inr ⟨before, first, rest, ds, rfl, hds, hfirst, reason, metrics, hload, hcounts⟩⟩
      rw [hload, after_register_journal]

/-- A document in a directory, and behind it a link that leads back to the directory of both. -/
theorem loads_documents_in_order_loop :
    let d := Predicate.ordersDocument 1 .forever
    let document : Node := .dir [("orders.json", .file (Utf8.bytes d.json.render))]
    let tree : Node := .dir [("rules", .dir [("loop.json", .link "."), ("a", document)])]
    let tree' : Node := .dir [("rules", .dir [("a", document), ("loop.json", .link ".")])]
    tree.Sound ∧ tree.Relists tree' ∧ ∀ s : Stub,
      s.loadPresets tree' "rules" = s.loadPresets tree "rules" ∧
      ∃ reason metrics, s.loadPresets tree "rules" =
          (.error (.preset "rules/loop.json" reason), { (s.register d).2 with metrics := metrics }) ∧
        CountsFailure (s.register d).2.metrics metrics := by
  intro d document tree tree'
  have hdocument : document.Sound :=
    Node.sound_cons_iff.2 ⟨by simp, by decide, .file _, Node.sound_nil⟩
  have hrules : (Node.dir [("loop.json", .link "."), ("a", document)]).Sound :=
    Node.sound_cons_iff.2 ⟨by simp, by decide, .link ".",
      Node.sound_cons_iff.2 ⟨by simp, by decide, hdocument, Node.sound_nil⟩⟩
  have hsound : tree.Sound := Node.sound_cons_iff.2 ⟨by simp, by decide, hrules, Node.sound_nil⟩
  have hrelists : tree.Relists tree' := .entry [] "rules" [] (.listing (.swap _ _ _))
  have hdir : tree.readDir "rules" = .ok [("loop.json", .link "."), ("a", document)] := by
    simp [Node.readDir_eq_ok_iff, tree, Node.find, Node.parts, Text.split, Node.walk]
  obtain ⟨files, hsorted, hfiles, hfind, hsame, hload⟩ := loads_documents_in_order hsound hdir
  obtain rfl : files = [["a", "orders.json"], ["loop.json"]] := by
    refine hsorted.eq_of_mem_iff (by decide) fun names => ?_
    rw [hfiles, ← Node.mem_documents_iff]
    have hdocuments : Node.documents [("loop.json", .link "."), ("a", document)] =
      [["loop.json"], ["a", "orders.json"]] := by
        simp [Node.documents, document, show extension? "loop.json" = some "json" by decide,
          show extension? "orders.json" = some "json" by decide]
    rw [hdocuments]
    simp [or_comm]
  have hloop : ∀ x, ¬ tree.Loads "rules/loop.json" x := by
    rintro x ⟨text, hread, -⟩
    simp [Node.readText, tree, Node.find, Node.parts, Text.split, Node.walk, Node.isAbsolute, bind,
      Except.bind] at hread
  have horders : tree.Loads "rules/a/orders.json" d := by
    have hleads : (Node.dir [("loop.json", .link "."), ("a", document)]).Leads ["a", "orders.json"]
        (.file (Utf8.bytes d.json.render)) :=
      .through (List.mem_cons_of_mem _ List.mem_cons_self) (.entry List.mem_cons_self)
    exact Node.loads_of_text (hfind _ _ hleads (by simp)) List.mem_cons_self (Nat.zero_le _) rfl
  refine ⟨hsound, hrelists, fun s => ⟨hsame tree' hrelists s, ?_⟩⟩
  obtain ⟨-, ⟨ds, hds, -⟩ | ⟨before, first, rest, ds, hsplit, hds, hfirst, hresult⟩⟩ := hload s
  · obtain ⟨_, _, _, hrest, rfl⟩ := List.forall₂_cons_left_iff.1 hds
    obtain ⟨x, _, hx, _, rfl⟩ := List.forall₂_cons_left_iff.1 hrest
    exact absurd hx (hloop x)
  · cases hds with
    | nil =>
      obtain ⟨rfl, -⟩ := List.cons.inj hsplit
      exact absurd horders (hfirst d)
    | cons hx hds =>
      obtain ⟨rfl, hsplit⟩ := List.cons.inj hsplit
      cases hds with
      | nil =>
        cases hsplit
        cases horders.unique hx
        exact hresult
      | cons => simp at hsplit

end Stub

end StubHttp
