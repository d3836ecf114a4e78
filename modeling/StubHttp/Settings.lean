import StubHttp.Files
import StubHttp.Http.Message
import StubHttp.Json.Reader
import StubHttp.Net.Address

/-!
# Settings

Where the stub listens, what it loads at the start and how much it keeps. Settings are checked
before the stub starts: the first thing wrong with them is told.
-/
namespace StubHttp

structure Listener where
  host : String
  port : UInt16
  deriving DecidableEq

structure Settings where
  listen : Listener
  /-- The port of the monitoring surface, on the host of the main one. -/
  metricsPort : UInt16
  presets : Option String
  capacity : Nat
  /-- The header that replaces the target of a request. -/
  overrideHeader : String
  deriving DecidableEq

inductive SettingsError
  | unreadable (path : String) (why : FileError)
  | malformed (path : String)
  | badHost (host : String)
  | samePort (port : UInt16)
  | noCapacity
  | badHeader (name : String)
  | noPresets (path : String)
  deriving DecidableEq

def SettingsError.message : SettingsError → String
  | unreadable path _ => s!"Failed to read config file {path}"
  | malformed path => s!"Failed to parse config file {path}"
  | badHost host => s!"Invalid listen host '{host}': invalid IP address syntax"
  | samePort port => s!"metrics.port {port.toNat} must differ from listen.port"
  | noCapacity => "history.capacity must be at least 1"
  | badHeader name => s!"uri_override_header '{name}' is not a valid HTTP header name"
  | noPresets path => s!"presets.directory '{path}' does not exist or is not a directory"

def SettingsError.cause? : SettingsError → Option String
  | unreadable _ why => some why.message
  | _ => none

namespace Settings

def default : Settings := ⟨⟨"0.0.0.0", 8080⟩, 9090, none, 100, "X-Request-URI-Override"⟩

def endpointOn (s : Settings) (port : UInt16) : Except SettingsError Endpoint :=
  match IpAddress.parse? s.listen.host with
  | some ip => .ok ⟨ip, port⟩
  | none => .error (.badHost s.listen.host)

def endpoint (s : Settings) : Except SettingsError Endpoint := s.endpointOn s.listen.port

def metricsEndpoint (s : Settings) : Except SettingsError Endpoint := s.endpointOn s.metricsPort

def checkPorts (s : Settings) : Except SettingsError Unit :=
  if s.metricsPort ≠ 0 ∧ s.metricsPort = s.listen.port then .error (.samePort s.metricsPort)
  else .ok ()

def checkPresets (root : Node) (s : Settings) : Except SettingsError Unit :=
  match s.presets with
  | some dir => if root.isDir dir then .ok () else .error (.noPresets dir)
  | none => .ok ()

def check (root : Node) (s : Settings) : Except SettingsError Unit := do
  let _ ← s.endpoint
  s.checkPorts
  if s.capacity = 0 then .error .noCapacity
  if !Header.isName s.overrideHeader then .error (.badHeader s.overrideHeader)
  s.checkPresets root

open Json

def json (s : Settings) : Value :=
  .object [("listen", .object [("host", .string s.listen.host),
      ("port", .nat s.listen.port.toNat)]),
    ("metrics", .object [("port", .nat s.metricsPort.toNat)]),
    ("presets", .object (s.presets.map fun dir => ("directory", Value.string dir)).toList),
    ("history", .object [("capacity", .nat s.capacity)]),
    ("uri_override_header", .string s.overrideHeader)]

def portReader : Reader UInt16 :=
  (Reader.integer 0 0xffff "u16").map fun n => n.toNat.toUInt16

def listenFields : List (Reader.Field Listener) := [
  Reader.field "host" false .text fun v l => { l with host := v },
  Reader.field "port" false portReader fun v l => { l with port := v }]

def metricsFields : List (Reader.Field UInt16) := [
  Reader.field "port" false portReader fun v _ => v]

def presetsFields : List (Reader.Field (Option String)) := [
  Reader.field "directory" false (.option (.textFor "path string")) fun v _ => v]

def historyFields : List (Reader.Field Nat) := [
  Reader.field "capacity" false ((Reader.integer 0 0xffffffffffffffff "usize").map Int.toNat)
    fun v _ => v]

def fields : List (Reader.Field Settings) := [
  Reader.field "listen" false (.record "ListenConfig" listenFields default.listen) fun v s =>
    { s with listen := v },
  Reader.field "metrics" false (.record "MetricsConfig" metricsFields default.metricsPort)
    fun v s => { s with metricsPort := v },
  Reader.field "presets" false (.record "PresetsConfig" presetsFields default.presets) fun v s =>
    { s with presets := v },
  Reader.field "history" false (.record "HistoryConfig" historyFields default.capacity) fun v s =>
    { s with capacity := v },
  Reader.field "uri_override_header" false .text fun v s => { s with overrideHeader := v }]

def reader : Reader Settings := .record "Config" fields default

end Settings

end StubHttp
