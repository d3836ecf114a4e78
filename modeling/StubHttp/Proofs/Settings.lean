import Mathlib.Logic.Unique
import Mathlib.Tactic.MkIffOfInductiveProp
import StubHttp.Proofs.Except
import StubHttp.Proofs.Files
import StubHttp.Proofs.Text.Utf8
import StubHttp.Settings.Options

/-!
# Settings that pass the check

The check passes settings exactly if they are valid. Settings from a file are checked twice: as they
stand in the file, and again when options have overridden some of them. So an option takes the place of
a setting of the file, but it does not save a file that is not valid by itself.
-/
namespace StubHttp

namespace Settings

@[mk_iff]
structure Valid (root : Node) (s : Settings) : Prop where
  host : ∃ ip, IpAddress.parse? s.listen.host = some ip
  ports : s.metricsPort = 0 ∨ s.metricsPort ≠ s.listen.port
  capacity : s.capacity ≠ 0
  header : Header.isName s.overrideHeader = true
  presets : ∀ dir, s.presets = some dir → root.isDir dir = true

variable {root : Node} {s : Settings}

theorem checkPorts_eq_ok_iff :
    s.checkPorts = .ok () ↔ s.metricsPort = 0 ∨ s.metricsPort ≠ s.listen.port := by
  by_cases h : s.metricsPort ≠ 0 ∧ s.metricsPort = s.listen.port
  · simp [checkPorts, h.2]
  · simp only [checkPorts, if_neg h, true_iff]
    by_cases hzero : s.metricsPort = 0
    · exact .inl hzero
    · exact .inr fun heq => h ⟨hzero, heq⟩

theorem checkPresets_eq_ok_iff :
    s.checkPresets root = .ok () ↔ ∀ dir, s.presets = some dir → root.isDir dir = true := by
  cases h : s.presets with
  | none => simp [checkPresets, h]
  | some dir => by_cases hdir : root.isDir dir = true <;> simp [checkPresets, h, hdir]

theorem endpointOn_eq_ok_iff {port : UInt16} {e : Endpoint} : s.endpointOn port = .ok e ↔
    ∃ ip, IpAddress.parse? s.listen.host = some ip ∧ ⟨ip, port⟩ = e := by
  cases h : IpAddress.parse? s.listen.host with
  | none => simp [endpointOn, h]
  | some ip => simp [endpointOn, h]

theorem check_eq_ok_iff : s.check root = .ok () ↔ s.Valid root := by
  rw [valid_iff, ← checkPorts_eq_ok_iff, ← checkPresets_eq_ok_iff]
  simp [check, endpoint, bind_eq_ok_iff, error_bind, ite_error_eq_ok, endpointOn_eq_ok_iff,
    Unique.exists_iff]

theorem check_bind_eq_ok_iff {s' : Settings} :
    (s.check root >>= fun _ => pure s) = .ok s' ↔ s.Valid root ∧ s' = s := by
  rw [bind_eq_ok_iff, ← check_eq_ok_iff, Unique.exists_iff]
  constructor
  · rintro ⟨hcheck, hs⟩
    exact ⟨hcheck, (Except.ok.inj hs).symm⟩
  · rintro ⟨hcheck, rfl⟩
    exact ⟨hcheck, rfl⟩

theorem load_eq_ok_iff {path : String} :
    load root path = .ok s ↔ File.read root path = .ok s ∧ s.Valid root := by
  rw [load, bind_eq_ok_iff]
  simp only [check_bind_eq_ok_iff]
  constructor
  · rintro ⟨base, hread, hvalid, rfl⟩
    exact ⟨hread, hvalid⟩
  · rintro ⟨hread, hvalid⟩
    exact ⟨s, hread, hvalid, rfl⟩

theorem File.read_of_parse {path text : String}
    (hfile : root.find path = .ok (.file (Utf8.bytes text))) (hparse : File.parse? text = some s) :
    File.read root path = .ok s := by
  have htext : root.readText path = .ok text := by
    rw [Node.readText_of_find hfile, Utf8.text?_bytes]
  simp only [File.read, htext, hparse]

theorem File.read_of_entry {entries : List (String × Node)} {name text : String}
    (hslash : '/' ∉ name.toList) (hname : name ∉ ["", ".", ".."])
    (hentry : entries.lookup name = some (.file (Utf8.bytes text)))
    (hparse : File.parse? text = some s) : File.read (.dir entries) name = .ok s :=
  File.read_of_parse (Node.find_file hslash hname hentry) hparse

def onPort (port : UInt16) : Settings := { default with listen := ⟨"0.0.0.0", port⟩ }

theorem parse?_host : IpAddress.parse? "0.0.0.0" = some (.v4 #v[0, 0, 0, 0]) := by decide +kernel

theorem valid_onPort {port : UInt16} (h : port ≠ 9090) : (onPort port).Valid root := by
  have hheader : Header.isName default.overrideHeader = true := by decide
  exact ⟨⟨_, parse?_host⟩, .inr (Ne.symm h), Nat.succ_ne_zero 99, hheader,
    by intro dir hdir; cases hdir⟩

end Settings

namespace Options

open Settings (Valid)

/-- The settings that options make of others: what an option gives is taken from it, and all else is
kept. -/
@[mk_iff]
structure Merges (o : Options) (base s : Settings) : Prop where
  host : s.listen.host = o.host.getD base.listen.host
  port : s.listen.port = o.port.getD base.listen.port
  metricsPort : s.metricsPort = o.metricsPort.getD base.metricsPort
  presets : s.presets = if o.presets.isSome then o.presets else base.presets
  capacity : s.capacity = o.capacity.getD base.capacity
  overrideHeader : s.overrideHeader = base.overrideHeader

structure Hides (o : Options) (base base' : Settings) : Prop where
  host : o.host = .none → base.listen.host = base'.listen.host
  port : o.port = .none → base.listen.port = base'.listen.port
  metricsPort : o.metricsPort = .none → base.metricsPort = base'.metricsPort
  presets : o.presets = .none → base.presets = base'.presets
  capacity : o.capacity = .none → base.capacity = base'.capacity
  overrideHeader : base.overrideHeader = base'.overrideHeader

variable {root : Node} {o : Options} {path : String} {base base' s : Settings}

theorem merges_iff_eq : o.Merges base s ↔ s = o.override base := by
  obtain ⟨⟨host, port⟩, metricsPort, presets, capacity, header⟩ := s
  have hpresets : o.presets.or base.presets =
      if o.presets.isSome then o.presets else base.presets := by
    cases o.presets <;> rfl
  simp only [merges_iff, override, hpresets, Settings.mk.injEq, Listener.mk.injEq, and_assoc]

theorem Hides.override_eq (h : o.Hides base base') : o.override base = o.override base' := by
  have hgetD : ∀ {α : Type} (v : Option α) (a b : α), (v = .none → a = b) → v.getD a = v.getD b := by
    intro α v a b hab
    cases v with
    | none => exact hab rfl
    | some x => rfl
  have hpresets : o.presets.or base.presets = o.presets.or base'.presets := by
    cases hp : o.presets with
    | none => rw [h.presets hp]
    | some dir => rfl
  rw [override, override, hgetD _ _ _ h.host, hgetD _ _ _ h.port, hgetD _ _ _ h.metricsPort, hpresets,
    hgetD _ _ _ h.capacity, h.overrideHeader]

theorem settings_eq (hfile : o.config = some path) :
    o.settings root = Settings.load root path >>= fun base =>
      (o.override base).check root >>= fun _ => pure (o.override base) := by
  rw [settings, hfile]

theorem settings_eq_ok_iff (hfile : o.config = some path) :
    o.settings root = .ok s ↔ ∃ base, Settings.File.read root path = .ok base ∧ base.Valid root ∧
      o.Merges base s ∧ s.Valid root := by
  rw [settings_eq hfile, bind_eq_ok_iff]
  simp only [Settings.load_eq_ok_iff, Settings.check_bind_eq_ok_iff, merges_iff_eq]
  constructor
  · rintro ⟨base, ⟨hread, hvalid⟩, hmerged, rfl⟩
    exact ⟨base, hread, hvalid, rfl, hmerged⟩
  · rintro ⟨base, hread, hvalid, rfl, hmerged⟩
    exact ⟨base, ⟨hread, hvalid⟩, hmerged, rfl⟩

/-- With a file that can be read as settings, a stub gets settings exactly if those of the file are
valid and those that the options make of them are valid, and then it gets the latter. So two files that
are valid do the same if they differ only in what the options override. -/
theorem settings_of_file (hfile : o.config = some path)
    (hread : Settings.File.read root path = .ok base) :
    (∀ s, o.settings root = .ok s ↔ base.Valid root ∧ o.Merges base s ∧ s.Valid root) ∧
      ∀ path' base', Settings.File.read root path' = .ok base' → base.Valid root →
        base'.Valid root → o.Hides base base' →
        ({ o with config := some path' } : Options).settings root = o.settings root := by
  constructor
  · intro s
    rw [settings_eq_ok_iff hfile, hread]
    constructor
    · intro h
      obtain ⟨base', hbase, h⟩ := h
      exact Except.ok.inj hbase ▸ h
    · intro h
      exact ⟨base, rfl, h⟩
  · intro path' base' hread' hvalid hvalid' hhides
    have hload := Settings.load_eq_ok_iff.2 ⟨hread, hvalid⟩
    have hload' := Settings.load_eq_ok_iff.2 ⟨hread', hvalid'⟩
    have hsame : ∀ b, ({ o with config := some path' } : Options).override b = o.override b :=
      fun _ => rfl
    rw [settings_eq hfile, settings_eq rfl, hload, hload']
    simp only [bind, Except.bind, hsame, hhides.override_eq]

theorem settings_of_file_ports :
    let root : Node := .dir [("a.yaml", .file (Utf8.bytes "listen:\n  port: 9091\n")),
      ("b.yaml", .file (Utf8.bytes "listen:\n  port: 9092\n"))]
    let a : Options := ⟨some "a.yaml", .none, some 8081, .none, .none, .none⟩
    let b : Options := ⟨some "b.yaml", .none, some 8081, .none, .none, .none⟩
    a.settings root = .ok (.onPort 8081) ∧ b.settings root = a.settings root := by
  intro root a b
  have hreadA : Settings.File.read root "a.yaml" = .ok (.onPort 9091) :=
    Settings.File.read_of_entry (by decide) (by decide) rfl (by decide +kernel)
  have hreadB : Settings.File.read root "b.yaml" = .ok (.onPort 9092) :=
    Settings.File.read_of_entry (by decide) (by decide) rfl (by decide +kernel)
  have hvalidA : (Settings.onPort 9091).Valid root := Settings.valid_onPort (by decide)
  have hvalidB : (Settings.onPort 9092).Valid root := Settings.valid_onPort (by decide)
  have hmerges : a.Merges (.onPort 9091) (.onPort 8081) := ⟨rfl, rfl, rfl, rfl, rfl, rfl⟩
  have hhides : a.Hides (.onPort 9091) (.onPort 9092) :=
    ⟨fun _ => rfl, by simp [a], fun _ => rfl, fun _ => rfl, fun _ => rfl, rfl⟩
  obtain ⟨hok, hsame⟩ := settings_of_file (o := a) rfl hreadA
  exact ⟨(hok _).2 ⟨hvalidA, hmerges, Settings.valid_onPort (by decide)⟩,
    hsame "b.yaml" _ hreadB hvalidA hvalidB hhides⟩

/-- A file whose port is that of the metrics is refused, though an option overrides the port and the
settings with that option are valid. -/
theorem settings_of_file_refused :
    let root : Node := .dir [("a.yaml", .file (Utf8.bytes "listen:\n  port: 9090\n"))]
    let o : Options := ⟨some "a.yaml", .none, some 8081, .none, .none, .none⟩
    ∃ base s, Settings.File.read root "a.yaml" = .ok base ∧ o.Merges base s ∧ s.Valid root ∧
      o.settings root = .error (.samePort 9090) := by
  intro root o
  have hread : Settings.File.read root "a.yaml" = .ok (.onPort 9090) :=
    Settings.File.read_of_entry (by decide) (by decide) rfl (by decide +kernel)
  have hcheck : (Settings.onPort 9090).check root = .error (.samePort 9090) := by
    simp [Settings.check, Settings.endpoint, Settings.endpointOn, Settings.parse?_host,
      Settings.checkPorts, Settings.onPort, Settings.default, bind, Except.bind]
  refine ⟨.onPort 9090, .onPort 8081, hread, ⟨rfl, rfl, rfl, rfl, rfl, rfl⟩,
    Settings.valid_onPort (by decide), ?_⟩
  rw [settings_eq rfl, Settings.load, hread]
  simp only [bind, Except.bind, hcheck]

end Options

end StubHttp
