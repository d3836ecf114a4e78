import StubHttp.Presets
import StubHttp.Server
import StubHttp.Settings.Options

/-!
# Launching

A stub starts from its options in a fixed order: settings, preset rules, the main listener, the
monitoring listener. The first step that fails is told, with its cause.
-/
namespace StubHttp

inductive LaunchError
  | settings (e : SettingsError)
  | presets (e : Failure)
  | bind (surface : Surface) (e : BindError)

namespace LaunchError

def message : LaunchError → String
  | settings e => e.message
  | presets _ => "Failed to load preset responses"
  | bind .main _ => "Failed to bind listener"
  | bind .monitoring _ => "Failed to bind metrics listener"

def cause? : LaunchError → Option String
  | settings e => e.cause?
  | presets e => some e.message
  | bind _ e => some e.message

def indented (s : String) : String :=
  "\n".intercalate ((Text.split '\n' s.toList).map fun line => "    " ++ String.ofList line)

def report (e : LaunchError) : String :=
  let head := s!"Error: {e.message}"
  match e.cause? with
  | some why => head ++ "\n\nCaused by:\n" ++ indented why
  | none => head

end LaunchError

structure Loaded where
  count : Nat
  dir : String
  deriving DecidableEq

def Loaded.message (l : Loaded) : String :=
  s!"Loaded {l.count} preset responses from {l.dir}"

structure Launched where
  server : Server
  listen : Endpoint
  metrics : Endpoint
  loaded : Option Loaded

namespace Launched

def loadPresets (root : Node) (s : Stub) :
    Option String → Except LaunchError (Option Loaded × Stub)
  | none => .ok (none, s)
  | some dir =>
    match s.loadPresets root dir with
    | (.ok n, s) => .ok (some ⟨n, dir⟩, s)
    | (.error e, _) => .error (.presets e)

def ofSettings (n : Network) (root : Node) (s : Settings) : Except LaunchError Launched := do
  let (loaded, stub) ← loadPresets root (.new s.capacity .blank) s.presets
  let listen ← s.endpoint.mapError .settings
  (n.bind listen).mapError (.bind .main)
  let metrics ← s.metricsEndpoint.mapError .settings
  (n.bind metrics).mapError (.bind .monitoring)
  return ⟨(Server.new stub s.overrideHeader).run, listen, metrics, loaded⟩

def ofOptions (n : Network) (root : Node) (o : Options) : Except LaunchError Launched := do
  let s ← (o.settings root).mapError .settings
  ofSettings n root s

end Launched

end StubHttp
