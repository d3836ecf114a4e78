import Mathlib.Data.List.Forall2
import StubHttp.Files
import StubHttp.Proofs.Text.Search

/-!
# Trees and their listings

What a path leads to does not depend on the order in which the directories of a tree list their entries.
An entry below a directory is what the names on the way to it lead to, written behind the path of the
directory.
-/
namespace StubHttp.Node

@[mk_iff]
structure IsName (name : String) : Prop where
  ne_empty : name ≠ ""
  ne_dot : name ≠ "."
  ne_dots : name ≠ ".."
  no_slash : '/' ∉ name.toList

instance (name : String) : Decidable (IsName name) := decidable_of_iff _ (isName_iff name).symm

/-- A tree in which the entries of a directory have names that tell them apart. -/
inductive Sound : Node → Prop
  | file (content : List UInt8) : Sound (.file content)
  | locked : Sound .locked
  | link (target : String) : Sound (.link target)
  | dir {es : List (String × Node)} (distinct : (es.map Prod.fst).Nodup)
      (named : ∀ e ∈ es, IsName e.1) (sound : ∀ e ∈ es, Sound e.2) : Sound (.dir es)

/-- The directories of a tree list their entries in another order. -/
inductive Relists : Node → Node → Prop
  | refl (n : Node) : Relists n n
  | trans {l m n : Node} : Relists l m → Relists m n → Relists l n
  | listing {es es' : List (String × Node)} : es.Perm es' → Relists (.dir es) (.dir es')
  | entry {n n' : Node} (before : List (String × Node)) (name : String)
      (after : List (String × Node)) : Relists n n' →
      Relists (.dir (before ++ (name, n) :: after)) (.dir (before ++ (name, n') :: after))

def IsDir : Node → Prop
  | .dir _ => True
  | _ => False

def entries : Node → List (String × Node)
  | .dir es => es
  | _ => []

/-- The names lead from entry to entry, through directories only. -/
inductive Leads : Node → List String → Node → Prop
  | entry {name : String} {here n : Node} : (name, n) ∈ here.entries → Leads here [name] n
  | through {name : String} {names : List String} {here m n : Node} : (name, m) ∈ here.entries →
      Leads m names n → Leads here (name :: names) n

variable {here here' m n n' : Node} {above above' : List Node} {es : List (String × Node)}
  {name dir p target : String} {names ps qs qs' : List String} {links : Nat} {r : Except FileError Node}

theorem Sound.distinct_entries (h : n.Sound) : (n.entries.map Prod.fst).Nodup := by
  cases h with
  | dir distinct _ _ => exact distinct
  | _ => exact .nil

theorem Sound.of_mem (h : n.Sound) (hm : (name, m) ∈ n.entries) : IsName name ∧ m.Sound := by
  cases h with
  | dir _ named sound => exact ⟨named _ hm, sound _ hm⟩
  | _ => exact absurd hm List.not_mem_nil

theorem sound_nil : (Node.dir []).Sound :=
  .dir .nil (List.forall_mem_nil _) (List.forall_mem_nil _)

theorem sound_cons_iff : (Node.dir ((name, n) :: es)).Sound ↔
    name ∉ es.map Prod.fst ∧ IsName name ∧ n.Sound ∧ (Node.dir es).Sound := by
  constructor
  · intro h
    cases h with
    | dir distinct named sound =>
      rw [List.map_cons, List.nodup_cons] at distinct
      rw [List.forall_mem_cons] at named sound
      exact ⟨distinct.1, named.1, sound.1, .dir distinct.2 named.2 sound.2⟩
  · rintro ⟨hfirst, hname, hn, hes⟩
    cases hes with
    | dir distinct named sound =>
      refine .dir (List.nodup_cons.2 ⟨hfirst, distinct⟩) ?_ ?_
      · exact List.forall_mem_cons.2 ⟨hname, named⟩
      · exact List.forall_mem_cons.2 ⟨hn, sound⟩

theorem lookup_eq_some_iff (h : (es.map Prod.fst).Nodup) :
    es.lookup name = some n ↔ (name, n) ∈ es := by
  induction es with
  | nil => simp
  | cons e es ih =>
    obtain ⟨key, m⟩ := e
    obtain ⟨hfirst, hrest⟩ := List.nodup_cons.1 h
    by_cases hname : name = key
    · subst hname
      have hnot : (name, n) ∉ es := fun hn => hfirst (List.mem_map.2 ⟨_, hn, rfl⟩)
      simp [hnot, eq_comm]
    · have hne : (name == key) = false := beq_false_of_ne hname
      simp [List.lookup_cons, hne, hname, ih hrest]

theorem Sound.lookup_iff (h : n.Sound) : n.entries.lookup name = some m ↔ (name, m) ∈ n.entries :=
  lookup_eq_some_iff h.distinct_entries

theorem isDir_of_mem (h : (name, m) ∈ n.entries) : n.IsDir := by
  cases n with
  | dir es => trivial
  | _ => exact absurd h List.not_mem_nil

theorem not_isDir (h : ∀ es, n = .dir es → False) : ¬ n.IsDir := by
  cases n with
  | dir es => exact absurd rfl (h es)
  | _ => exact id

theorem walk_stay (hp : p = "" ∨ p = ".") :
    walk links above (.dir es) (p :: ps) = walk links above (.dir es) ps := by
  cases above <;> simp only [walk, if_pos hp]

theorem walk_missing (hgo : ¬ (p = "" ∨ p = ".")) (hdots : p ≠ "..") (hnone : es.lookup p = none) :
    walk links above (.dir es) (p :: ps) = .error .notFound := by
  cases above <;> simp only [walk, if_neg hgo, if_neg hdots, hnone]

theorem walk_link (hgo : ¬ (p = "" ∨ p = ".")) (hdots : p ≠ "..")
    (hlink : es.lookup p = some (.link target)) : walk links above (.dir es) (p :: ps) =
      match links with
      | 0 => .error .tooManyLinks
      | links + 1 =>
        if isAbsolute target then walk links [] (above.getLast?.getD (.dir es)) (parts target ++ ps)
        else walk links above (.dir es) (parts target ++ ps) := by
  cases above <;> cases links <;> simp only [walk, if_neg hgo, if_neg hdots, hlink]

theorem walk_entry (hgo : ¬ (p = "" ∨ p = ".")) (hdots : p ≠ "..") (hn : es.lookup p = some n)
    (hnot : ∀ target, n ≠ .link target) :
    walk links above (.dir es) (p :: ps) = walk links (.dir es :: above) n ps := by
  cases above <;> simp only [walk, if_neg hgo, if_neg hdots, hn]

theorem walk_of_not_isDir (h : ¬ here.IsDir) :
    walk links above here (p :: ps) = .error .notDirectory := by
  refine walk.eq_4 links above here p ps ?_
  rintro es rfl
  exact h trivial

namespace Relists

theorem symm (h : Relists n n') : Relists n' n := by
  induction h with
  | refl n => exact .refl n
  | trans _ _ ih ih' => exact ih'.trans ih
  | listing hperm => exact .listing hperm.symm
  | entry before name after _ ih => exact .entry before name after ih

theorem sound (h : Relists n n') (hs : n.Sound) : n'.Sound := by
  induction h with
  | refl => exact hs
  | trans _ _ ih ih' => exact ih' (ih hs)
  | listing hperm =>
    cases hs with
    | dir distinct named sound =>
      refine .dir ((hperm.map _).nodup_iff.1 distinct) (fun e he => ?_) (fun e he => ?_)
      · exact named e (hperm.mem_iff.2 he)
      · exact sound e (hperm.mem_iff.2 he)
  | entry before name after _ ih =>
    cases hs with
    | dir distinct named sound =>
      simp only [List.forall_mem_append, List.forall_mem_cons] at named sound
      refine .dir (by simpa using distinct) ?_ ?_
      · simpa only [List.forall_mem_append, List.forall_mem_cons] using named
      · simpa only [List.forall_mem_append, List.forall_mem_cons] using
          ⟨sound.1, ih sound.2.1, sound.2.2⟩

theorem isDir (h : Relists n n') : n.IsDir ↔ n'.IsDir := by
  induction h with
  | trans _ _ ih ih' => exact ih.trans ih'
  | _ => rfl

theorem eq_of_not_isDir (h : Relists n n') (hn : ¬ n.IsDir) : n' = n := by
  induction h with
  | refl => rfl
  | trans h _ ih ih' => exact (ih' (h.isDir.not.1 hn)).trans (ih hn)
  | _ => exact absurd trivial hn

theorem exists_mem (h : Relists n n') (hm : (name, m) ∈ n.entries) :
    ∃ m', (name, m') ∈ n'.entries ∧ Relists m m' := by
  induction h generalizing m with
  | refl => exact ⟨m, hm, .refl m⟩
  | trans _ _ ih ih' =>
    obtain ⟨m', hm', h⟩ := ih hm
    obtain ⟨m'', hm'', h'⟩ := ih' hm'
    exact ⟨m'', hm'', h.trans h'⟩
  | listing hperm => exact ⟨m, hperm.mem_iff.1 hm, .refl m⟩
  | @entry x x' before key after hx _ =>
    simp only [entries, List.mem_append, List.mem_cons, Prod.mk.injEq] at hm ⊢
    rcases hm with hm | ⟨rfl, rfl⟩ | hm
    · exact ⟨m, .inl hm, .refl m⟩
    · exact ⟨x', .inr (.inl ⟨rfl, rfl⟩), hx⟩
    · exact ⟨m, .inr (.inr hm), .refl m⟩

theorem leads (h : Relists n n') (hm : Leads n names m) : ∃ m', Leads n' names m' ∧ Relists m m' := by
  induction hm generalizing n' with
  | entry hmem =>
    obtain ⟨m', hmem', hrelists⟩ := h.exists_mem hmem
    exact ⟨m', .entry hmem', hrelists⟩
  | through hmem _ ih =>
    obtain ⟨x', hmem', hrelists⟩ := h.exists_mem hmem
    obtain ⟨m', hleads, hrelists⟩ := ih hrelists
    exact ⟨m', .through hmem' hleads, hrelists⟩

end Relists

structure Same (n n' : Node) : Prop where
  sound : n.Sound
  relists : Relists n n'

inductive SameFound : Except FileError Node → Except FileError Node → Prop
  | ok {n n' : Node} : Same n n' → SameFound (.ok n) (.ok n')
  | error (e : FileError) : SameFound (.error e) (.error e)

theorem same_outermost (habove : List.Forall₂ Same above above') (h : Same here here') :
    Same (above.getLast?.getD here) (above'.getLast?.getD here') := by
  induction habove generalizing here here' with
  | nil => exact h
  | cons hup _ ih => simpa only [List.getLast?_cons, Option.getD_some] using ih hup

namespace Same

theorem symm (h : Same n n') : Same n' n := ⟨h.relists.sound h.sound, h.relists.symm⟩

theorem exists_dir (h : Same (.dir es) n') : ∃ es', n' = .dir es' := by
  have hdir : n'.IsDir := h.relists.isDir.1 trivial
  cases n' with
  | dir es' => exact ⟨es', rfl⟩
  | _ => exact hdir.elim

theorem eq_of_not_isDir (h : Same n n') (hn : ¬ n.IsDir) : n' = n := h.relists.eq_of_not_isDir hn

theorem lookup_some (h : Same n n') (hm : n.entries.lookup name = some m) :
    ∃ m', n'.entries.lookup name = some m' ∧ Same m m' := by
  have hmem := h.sound.lookup_iff.1 hm
  obtain ⟨m', hmem', hrelists⟩ := h.relists.exists_mem hmem
  exact ⟨m', h.symm.sound.lookup_iff.2 hmem', (h.sound.of_mem hmem).2, hrelists⟩

theorem lookup_none (h : Same n n') (hnone : n.entries.lookup name = none) :
    n'.entries.lookup name = none := by
  cases hlookup : n'.entries.lookup name with
  | none => rfl
  | some m' =>
    obtain ⟨m, hm, -⟩ := h.symm.lookup_some hlookup
    exact nomatch hnone.symm.trans hm

theorem lookup_link (h : Same n n') (hlink : n.entries.lookup name = some (.link target)) :
    n'.entries.lookup name = some (.link target) := by
  obtain ⟨m', hm', hsame⟩ := h.lookup_some hlink
  rw [hm', hsame.eq_of_not_isDir id]

end Same

/-- Wherever a walk goes, it stands in the same directory below the same directories. -/
theorem walk_same (habove : List.Forall₂ Same above above') (h : Same here here') :
    SameFound (walk links above here ps) (walk links above' here' ps) := by
  -- by induction on the walk in the one tree; the directories above stay the same, one by one
  fun_induction walk links above here ps generalizing above' here' with
  | case1 =>
    simp only [walk]
    exact .ok h
  | case2 links above p ps es hstay ih =>
    obtain ⟨es', rfl⟩ := h.exists_dir
    rw [walk_stay hstay]
    exact ih habove h
  | case3 links ps es hgo ih =>
    obtain ⟨es', rfl⟩ := h.exists_dir
    cases habove
    simp only [walk, if_neg hgo, if_true]
    exact ih .nil h
  | case4 links ps es up above hgo ih =>
    obtain ⟨es', rfl⟩ := h.exists_dir
    cases habove with
    | cons hup habove =>
      simp only [walk, if_neg hgo, if_true]
      exact ih habove hup
  | case5 links above p ps es hgo hdots hnone =>
    obtain ⟨es', rfl⟩ := h.exists_dir
    have hnone' : es'.lookup p = none := h.lookup_none hnone
    rw [walk_missing hgo hdots hnone']
    exact .error _
  | case6 above p ps es hgo hdots target hlink =>
    obtain ⟨es', rfl⟩ := h.exists_dir
    have hlink' : es'.lookup p = some (.link target) := h.lookup_link hlink
    rw [walk_link hgo hdots hlink']
    exact .error _
  | case7 above p ps es hgo hdots target hlink links habs ih =>
    obtain ⟨es', rfl⟩ := h.exists_dir
    have hlink' : es'.lookup p = some (.link target) := h.lookup_link hlink
    simp only [walk_link hgo hdots hlink', if_pos habs]
    exact ih .nil (same_outermost habove h)
  | case8 above p ps es hgo hdots target hlink links hrel ih =>
    obtain ⟨es', rfl⟩ := h.exists_dir
    have hlink' : es'.lookup p = some (.link target) := h.lookup_link hlink
    simp only [walk_link hgo hdots hlink', if_neg hrel]
    exact ih habove h
  | case9 links above p ps es hgo hdots next hnext hsome ih =>
    obtain ⟨es', rfl⟩ := h.exists_dir
    obtain ⟨next', hsome', hsame⟩ := h.lookup_some hsome
    change es'.lookup p = some next' at hsome'
    have hnext' : ∀ target, next' ≠ .link target := by
      rintro target rfl
      cases hsame.symm.eq_of_not_isDir id
      exact hnext target rfl
    rw [walk_entry hgo hdots hsome' hnext']
    exact ih (.cons h habove) hsame
  | case10 links above here p ps hnot =>
    rw [h.eq_of_not_isDir (not_isDir hnot), walk_of_not_isDir (not_isDir hnot)]
    exact .error _

theorem find_same (h : Same here here') (path : String) :
    SameFound (here.find path) (here'.find path) := by
  rw [find, find]
  split
  · exact .error _
  · exact walk_same .nil h

theorem find_sound {path : String} (hs : here.Sound) (hn : here.find path = .ok n) : n.Sound := by
  have hfound := find_same ⟨hs, .refl here⟩ path
  rw [hn] at hfound
  cases hfound with
  | ok hsame => exact hsame.sound

theorem readText_same (h : Same here here') (path : String) :
    here'.readText path = here.readText path := by
  rw [readText, readText]
  have hfound := find_same h path
  generalize here.find path = found, here'.find path = found' at hfound ⊢
  cases hfound with
  | error e => rfl
  | @ok n n' hn =>
    cases n with
    | dir es =>
      obtain ⟨es', rfl⟩ := hn.exists_dir
      rfl
    | _ => rw [hn.eq_of_not_isDir id]

theorem find_file {entries : List (String × Node)} {name : String} {bs : List UInt8}
    (hslash : '/' ∉ name.toList) (hname : name ∉ ["", ".", ".."])
    (h : entries.lookup name = some (.file bs)) : (Node.dir entries).find name = .ok (.file bs) := by
  simp only [List.mem_cons, List.not_mem_nil, or_false, not_or] at hname
  have hparts : parts name = [name] := by
    rw [parts, Text.split_of_not_mem hslash, List.map_singleton, String.ofList_toList]
  rw [find, if_neg hname.1, hparts]
  simp [walk, hname, h]

theorem readText_of_find {path : String} {content : List UInt8}
    (h : here.find path = .ok (.file content)) : here.readText path =
      match Utf8.text? content with
      | some s => .ok s
      | none => .error .notText := by
  rw [readText, h]
  rfl

theorem readDir_eq_ok_iff {path : String} :
    here.readDir path = .ok es ↔ here.find path = .ok (.dir es) := by
  rw [readDir]
  cases here.find path with
  | error e => simp [bind, Except.bind]
  | ok n => cases n <;> simp [bind, Except.bind]

theorem readDir_same {path : String} (h : Same here here') (hdir : here.readDir path = .ok es) :
    ∃ es', here'.readDir path = .ok es' ∧ Same (.dir es) (.dir es') := by
  simp only [readDir_eq_ok_iff] at hdir ⊢
  have hfound := find_same h path
  rw [hdir] at hfound
  generalize here'.find path = found at hfound ⊢
  cases hfound with
  | ok hn =>
    obtain ⟨es', rfl⟩ := hn.exists_dir
    exact ⟨es', rfl, hn⟩

theorem Leads.isName (h : Leads here names n) (hs : here.Sound) : ∀ name ∈ names, IsName name := by
  induction h with
  | entry hmem => exact List.forall_mem_singleton.2 (hs.of_mem hmem).1
  | through hmem _ ih =>
    obtain ⟨hname, hm⟩ := hs.of_mem hmem
    exact List.forall_mem_cons.2 ⟨hname, ih hm⟩

theorem Leads.ne_nil (h : Leads here names n) : names ≠ [] := by
  cases h <;> exact List.cons_ne_nil _ _

theorem Leads.isDir (h : Leads here names n) : here.IsDir := by
  cases h with
  | entry hmem => exact isDir_of_mem hmem
  | through hmem _ => exact isDir_of_mem hmem

theorem walk_name (hs : here.Sound) (hmem : (name, n) ∈ here.entries)
    (hn : ∀ target, n ≠ .link target) :
    walk links above here (name :: ps) = walk links (here :: above) n ps := by
  obtain ⟨hname, -⟩ := hs.of_mem hmem
  have hlookup := hs.lookup_iff.2 hmem
  cases here with
  | dir es => exact walk_entry (by simp [hname.ne_empty, hname.ne_dot]) hname.ne_dots hlookup hn
  | _ => exact absurd hmem List.not_mem_nil

theorem Leads.walk (h : Leads here names n) (hs : here.Sound) (hn : ∀ target, n ≠ .link target) :
    walk links above here names = .ok n := by
  induction h generalizing above with
  | entry hmem => rw [walk_name hs hmem hn, Node.walk]
  | @through _ _ _ m _ hmem hleads ih =>
    have hm : ∀ target, m ≠ .link target := by
      rintro target rfl
      exact hleads.isDir
    rw [walk_name hs hmem hm, ih (hs.of_mem hmem).2 hn]

/-- The end of a path can be replaced by names that lead to `r` from wherever it leads to `n`. -/
theorem walk_append_of (h : ∀ links above here, walk links above here qs = .ok n →
      walk links above here qs' = r) (hn : walk links above here (ps ++ qs) = .ok n) :
    walk links above here (ps ++ qs') = r := by
  fun_induction walk links above here ps with
  | case1 links above here => exact h links above here hn
  | case2 links above p ps es hstay ih =>
    rw [List.cons_append, walk_stay hstay] at hn ⊢
    exact ih hn
  | case3 links ps es hgo ih =>
    simp only [List.cons_append, walk, if_neg hgo, if_true] at hn ⊢
    exact ih hn
  | case4 links ps es up above hgo ih =>
    simp only [List.cons_append, walk, if_neg hgo, if_true] at hn ⊢
    exact ih hn
  | case5 links above p ps es hgo hdots hnone =>
    rw [List.cons_append, walk_missing hgo hdots hnone] at hn
    cases hn
  | case6 above p ps es hgo hdots target hlink =>
    rw [List.cons_append, walk_link hgo hdots hlink] at hn
    cases hn
  | case7 above p ps es hgo hdots target hlink links habs ih =>
    simp only [List.cons_append, walk_link hgo hdots hlink, if_pos habs] at hn ⊢
    rw [← List.append_assoc] at hn ⊢
    exact ih hn
  | case8 above p ps es hgo hdots target hlink links hrel ih =>
    simp only [List.cons_append, walk_link hgo hdots hlink, if_neg hrel] at hn ⊢
    rw [← List.append_assoc] at hn ⊢
    exact ih hn
  | case9 links above p ps es hgo hdots next hnext hsome ih =>
    rw [List.cons_append, walk_entry hgo hdots hsome hnext] at hn ⊢
    exact ih hn
  | case10 links above here p ps hnot =>
    rw [List.cons_append, walk_of_not_isDir (not_isDir hnot)] at hn
    cases hn

theorem parts_append_slash (s t : String) : parts (s ++ "/" ++ t) = parts s ++ parts t := by
  have hchars : (s ++ "/" ++ t).toList = s.toList ++ '/' :: t.toList := by simp
  rw [parts, hchars, Text.split_append_cons, List.map_append, parts, parts]

theorem parts_intercalate (hnames : ∀ name ∈ names, IsName name) (hne : names ≠ []) :
    parts ("/".intercalate names) = names := by
  have hfree : ∀ cs ∈ names.map String.toList, '/' ∉ cs := by
    simpa using fun name hname => (hnames name hname).no_slash
  have hsplit := List.splitOn_intercalate '/' hfree (by simpa using hne)
  have hchars : ("/".intercalate names).toList = ['/'].intercalate (names.map String.toList) :=
    String.toList_intercalate
  rw [parts, Text.split_eq_splitOn, hchars, hsplit, List.map_map]
  simp [Function.comp_def]

theorem joinPath_ne_empty (hdir : dir ≠ "") (rest : String) : joinPath dir rest ≠ "" := by
  rw [joinPath]
  split
  · simp [hdir]
  · change dir ++ "/" ++ rest ≠ ""
    simp

theorem parts_joinPath (hdir : dir ≠ "") : ∃ ps, (parts dir = ps ∨ parts dir = ps ++ [""]) ∧
    ∀ rest, parts (joinPath dir rest) = ps ++ parts rest := by
  by_cases hslash : dir.toList.getLast? = some '/'
  · obtain ⟨s, hs⟩ := List.getLast?_eq_some_iff.1 hslash
    obtain rfl : dir = String.ofList s ++ "/" := by
      rw [← String.toList_inj, hs]
      simp
    refine ⟨parts (String.ofList s), .inr ?_, fun rest => ?_⟩
    · have hempty : parts "" = [""] := by simp [parts, Text.split]
      rw [← hempty, ← parts_append_slash, String.append_empty]
    · rw [joinPath, if_pos (.inr hslash), parts_append_slash]
  · refine ⟨parts dir, .inl rfl, fun rest => ?_⟩
    rw [joinPath, if_neg (by simp [hdir, hslash])]
    exact parts_append_slash dir rest

theorem find_joinPath (hdir : here.find dir = .ok n) (hn : n.IsDir)
    (hnames : ∀ name ∈ names, IsName name) (hne : names ≠ [])
    (hr : ∀ links above, walk links above n names = r) :
    here.find (joinPath dir ("/".intercalate names)) = r := by
  have hdir_ne : dir ≠ "" := by
    rintro rfl
    cases hdir
  obtain ⟨ps, hps, hjoin⟩ := parts_joinPath hdir_ne
  rw [find, if_neg hdir_ne] at hdir
  rw [find, if_neg (joinPath_ne_empty hdir_ne _), hjoin, parts_intercalate hnames hne]
  rcases hps with hps | hps
  · have hend : walk 40 [] here (ps ++ []) = .ok n := by rw [List.append_nil, ← hps, hdir]
    refine walk_append_of (fun links above m hm => ?_) hend
    rw [walk] at hm
    cases hm
    exact hr links above
  · have hend : walk 40 [] here (ps ++ [""]) = .ok n := by rw [← hps, hdir]
    refine walk_append_of (fun links above m hm => ?_) hend
    cases m with
    | dir es =>
      rw [walk_stay (.inl rfl), walk] at hm
      cases hm
      exact hr links above
    | _ =>
      rw [walk_of_not_isDir id] at hm
      cases hm

theorem Leads.find (h : Leads n names m) (hn : n.Sound) (hdir : here.find dir = .ok n)
    (hm : ∀ target, m ≠ .link target) : here.find (joinPath dir ("/".intercalate names)) = .ok m := by
  exact find_joinPath hdir h.isDir (h.isName hn) h.ne_nil fun _ _ => h.walk hn hm

end StubHttp.Node
