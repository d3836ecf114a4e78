import StubHttp.Settings
import StubHttp.Yaml.Reader

/-!
# Settings files

A settings file is a YAML text. What it leaves out has its default, what it holds beyond the known
keys is passed over. The settings in it are checked by themselves before anything overrides them.
-/
namespace StubHttp.Settings

namespace File

open Yaml (Reader)
open Yaml.Reader (field)

abbrev Key (σ : Type) := Yaml.Reader.Field σ

def port : Reader UInt16 := (Reader.natural 0x10000).map Nat.toUInt16

def listen : List (Key Listener) := [
  field "host" Reader.text fun v l => { l with host := v },
  field "port" port fun v l => { l with port := v }]

def metrics : List (Key UInt16) := [field "port" port fun v _ => v]

def presets : List (Key (Option String)) := [
  field "directory" (Reader.option Reader.text) fun v _ => v]

def history : List (Key Nat) := [field "capacity" (Reader.natural 0x10000000000000000) fun v _ => v]

def fields : List (Key Settings) := [
  field "listen" (.record listen default.listen) fun v s => { s with listen := v },
  field "metrics" (.record metrics default.metricsPort) fun v s => { s with metricsPort := v },
  field "presets" (.record presets default.presets) fun v s => { s with presets := v },
  field "history" (.record history default.capacity) fun v s => { s with capacity := v },
  field "uri_override_header" Reader.text fun v s => { s with overrideHeader := v }]

def parse? (text : String) : Option Settings := (Reader.record fields default).parse text

def read (root : Node) (path : String) : Except SettingsError Settings :=
  match root.readText path with
  | .error why => .error (.unreadable path why)
  | .ok text =>
    match parse? text with
    | some s => .ok s
    | none => .error (.malformed path)

end File

def load (root : Node) (path : String) : Except SettingsError Settings := do
  let s ← File.read root path
  s.check root
  return s

end StubHttp.Settings
