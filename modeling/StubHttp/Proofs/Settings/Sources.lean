import StubHttp.Proofs.Settings
import StubHttp.Proofs.Yaml.Values

/-!
# Where settings come from

Each setting is what an option gives, or else what the node of the settings file stands for that is found
under the keys of the setting, or else the default. The file may leave out a setting, the part that the
setting belongs to, or all.
-/
namespace StubHttp

namespace Settings.File

open Yaml.Reader (Sets keeps_field)

def document? (root : Node) (config : Option String) : Option Yaml.Node := do
  let path ← config
  let text ← (root.readText path).toOption
  Yaml.parse? text

theorem sets_listen : Sets fields "listen" (.record listen default.listen) Settings.listen where
  own := ⟨_, rfl, fun _ _ => rfl⟩
  other := by simp [fields, keeps_field]

theorem sets_metrics :
    Sets fields "metrics" (.record metrics default.metricsPort) Settings.metricsPort where
  own := ⟨_, rfl, fun _ _ => rfl⟩
  other := by simp [fields, keeps_field]

theorem sets_presets : Sets fields "presets" (.record presets default.presets) Settings.presets where
  own := ⟨_, rfl, fun _ _ => rfl⟩
  other := by simp [fields, keeps_field]

theorem sets_history : Sets fields "history" (.record history default.capacity) Settings.capacity where
  own := ⟨_, rfl, fun _ _ => rfl⟩
  other := by simp [fields, keeps_field]

theorem sets_overrideHeader :
    Sets fields "uri_override_header" Yaml.Reader.text Settings.overrideHeader where
  own := ⟨_, rfl, fun _ _ => rfl⟩
  other := by simp [fields, keeps_field]

theorem sets_host : Sets listen "host" Yaml.Reader.text Listener.host where
  own := ⟨_, rfl, fun _ _ => rfl⟩
  other := by simp [listen, keeps_field]

theorem sets_port : Sets listen "port" port Listener.port where
  own := ⟨_, rfl, fun _ _ => rfl⟩
  other := by simp [listen, keeps_field]

theorem document_of_read {root : Node} {path : String} {base : Settings}
    (h : read root path = .ok base) : ∃ document, document? root (some path) = some document ∧
      Yaml.Reader.record fields default document document = some base := by
  rw [read] at h
  split at h
  case h_1 => cases h
  case h_2 text htext =>
    split at h
    case h_1 s hparse =>
      obtain rfl := Except.ok.inj h
      obtain ⟨document, hdocument, hrecord⟩ := Option.bind_eq_some_iff.1 hparse
      exact ⟨document, by simpa [document?, htext, Except.toOption] using hdocument, hrecord⟩
    case h_2 => cases h

end Settings.File

namespace Options

open Settings (default)
open Yaml.Reader (Gives sets_only)
open Yaml.Node (IsText IsNumber IsOptionalText)

/-- A setting is what an option gives, else what the node of a document at the end of a path of keys stands
for, else the default. -/
def Draws {α : Type} (option : Option α) (document? : Option Yaml.Node) (keys : List String)
    (Is : Yaml.Node → Yaml.Node → α → Prop) (default a : α) : Prop :=
  match option, document? with
  | some v, _ => a = v
  | .none, some document => (∃ node, document.Under keys node ∧ Is document node a) ∨
      (∀ node, ¬ document.Under keys node) ∧ a = default
  | .none, .none => a = default

def IsPort (document node : Yaml.Node) (port : UInt16) : Prop := IsNumber document node port.toNat

/-- Where each of the settings comes from. The override header has no option. -/
structure Sources (o : Options) (document? : Option Yaml.Node) (s : Settings) : Prop where
  host : Draws o.host document? ["listen", "host"] IsText default.listen.host s.listen.host
  port : Draws o.port document? ["listen", "port"] IsPort default.listen.port s.listen.port
  metricsPort : Draws o.metricsPort document? ["metrics", "port"] IsPort default.metricsPort
    s.metricsPort
  presets : Draws (o.presets.map some) document? ["presets", "directory"] IsOptionalText
    default.presets s.presets
  capacity : Draws o.capacity document? ["history", "capacity"] IsNumber default.capacity s.capacity
  overrideHeader : Draws .none document? ["uri_override_header"] IsText default.overrideHeader
    s.overrideHeader

variable {root : Node} {o : Options} {document? : Option Yaml.Node} {base s : Settings}

theorem draws_of_gives {α : Type} {document : Yaml.Node} {keys : List String} {r : Yaml.Reader α}
    {Is : Yaml.Node → Yaml.Node → α → Prop} {default a : α}
    (h : Gives document r default (document.at? keys) a)
    (hr : ∀ {node a}, r document node = some a → Is document node a) :
    Draws .none (some document) keys Is default a := by
  cases hnode : document.at? keys with
  | none =>
    rw [hnode] at h
    refine .inr ⟨fun node hunder => ?_, h⟩
    rw [Yaml.Reader.under_iff, hnode] at hunder
    cases hunder
  | some node =>
    rw [hnode] at h
    exact .inl ⟨node, Yaml.Reader.under_iff.2 hnode, hr h⟩

theorem isPort_of_port {document node : Yaml.Node} {port : UInt16}
    (h : Settings.File.port document node = some port) : IsPort document node port := by
  obtain ⟨n, hn, rfl⟩ := Option.map_eq_some_iff.1 h
  obtain ⟨hnumber, hlt⟩ := Yaml.Reader.isNumber_of_natural hn
  rw [IsPort, Nat.toUInt16_eq, UInt16.toNat_ofNat_of_lt' hlt]
  exact hnumber

theorem Draws.getD {α : Type} {keys : List String} {Is : Yaml.Node → Yaml.Node → α → Prop}
    {default a : α} (h : Draws .none document? keys Is default a) (option : Option α) :
    Draws option document? keys Is default (option.getD a) := by
  cases option with
  | none => exact h
  | some v => rfl

theorem Sources.merge (h : Options.none.Sources document? base) (hmerges : o.Merges base s) :
    o.Sources document? s where
  host := hmerges.host ▸ h.host.getD o.host
  port := hmerges.port ▸ h.port.getD o.port
  metricsPort := hmerges.metricsPort ▸ h.metricsPort.getD o.metricsPort
  presets := by
    have hpresets : s.presets = (o.presets.map some).getD base.presets := by
      rw [hmerges.presets]
      cases o.presets <;> rfl
    exact hpresets ▸ h.presets.getD (o.presets.map some)
  capacity := hmerges.capacity ▸ h.capacity.getD o.capacity
  overrideHeader := hmerges.overrideHeader ▸ h.overrideHeader

theorem sources_of_record {document : Yaml.Node}
    (h : Yaml.Reader.record Settings.File.fields default document document = some base) :
    Options.none.Sources (some document) base := by
  have hbase : Gives document (.record Settings.File.fields default) default (some document) base := h
  have hlisten := hbase.part Settings.File.sets_listen
  exact
    { host := draws_of_gives (hlisten.part Settings.File.sets_host) Yaml.Reader.text_eq_some_iff.1
      port := draws_of_gives (hlisten.part Settings.File.sets_port) isPort_of_port
      metricsPort := draws_of_gives
        ((hbase.part Settings.File.sets_metrics).part (sets_only "port" _)) isPort_of_port
      presets := draws_of_gives
        ((hbase.part Settings.File.sets_presets).part (sets_only "directory" _))
        Yaml.Reader.isOptionalText_of_option
      capacity := draws_of_gives
        ((hbase.part Settings.File.sets_history).part (sets_only "capacity" _))
        fun h => (Yaml.Reader.isNumber_of_natural h).1
      overrideHeader := draws_of_gives (hbase.part Settings.File.sets_overrideHeader)
        Yaml.Reader.text_eq_some_iff.1 }

theorem sources_default : Options.none.Sources .none default := ⟨rfl, rfl, rfl, rfl, rfl, rfl⟩

/-- The settings that a stub starts with pass the check, and there is a source for each. A settings file
that is named is one of them. -/
theorem sources_of_settings (h : o.settings root = .ok s) :
    (Settings.File.document? root o.config).isSome = o.config.isSome ∧
      o.Sources (Settings.File.document? root o.config) s ∧ s.Valid root := by
  cases hfile : o.config with
  | none =>
    have hsettings : o.settings root =
        (o.override default).check root >>= fun _ => pure (o.override default) := by
      rw [settings, hfile]
      rfl
    rw [hsettings, Settings.check_bind_eq_ok_iff] at h
    obtain ⟨hvalid, rfl⟩ := h
    exact ⟨rfl, sources_default.merge (merges_iff_eq.2 rfl), hvalid⟩
  | some path =>
    obtain ⟨base, hread, -, hmerges, hvalid⟩ := (settings_eq_ok_iff hfile).1 h
    obtain ⟨document, hdocument, hrecord⟩ := Settings.File.document_of_read hread
    rw [hdocument]
    exact ⟨rfl, (sources_of_record hrecord).merge hmerges, hvalid⟩

end Options

end StubHttp
