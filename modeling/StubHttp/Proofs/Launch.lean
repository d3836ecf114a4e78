import StubHttp.Launch
import StubHttp.Proofs.Except
import StubHttp.Proofs.Http.Headers
import StubHttp.Proofs.Http.Override
import StubHttp.Proofs.Journal
import StubHttp.Proofs.Presets
import StubHttp.Proofs.Settings.Sources

/-!
# Starting with settings that pass the check

Once the settings are checked, a stub takes them as they are. Both its endpoints can be made of them, its
journal has room for as many requests as they say, and its override header is one that requests can have.
So a launch never fails for its settings, and no request with a value in that header keeps its own target.
-/
namespace StubHttp

open Text

theorem Stub.loadPresets_journal (s : Stub) (root : Node) (dir : String) :
    (s.loadPresets root dir).2.journal = s.journal := by
  rw [loadPresets_eq_after, after_register_journal]

namespace Launched

variable {n : Network} {root : Node} {s : Settings} {l : Launched}

structure RunsWith (l : Launched) (s : Settings) : Prop where
  listen : s.endpoint = .ok l.listen
  metrics : s.metricsEndpoint = .ok l.metrics
  journal : l.server.stub.journal = .ofCapacity s.capacity
  overrideHeader : l.server.overrideHeader = s.overrideHeader

theorem loadPresets_journal {stub stub' : Stub} {dir? : Option String} {loaded : Option Loaded}
    (h : loadPresets root stub dir? = .ok (loaded, stub')) : stub'.journal = stub.journal := by
  cases dir? with
  | none =>
    cases h
    rfl
  | some dir =>
    have hjournal := stub.loadPresets_journal root dir
    rw [loadPresets] at h
    split at h
    case h_1 hload =>
      cases h
      rw [← hjournal, hload]
    case h_2 => cases h

theorem loadPresets_error {stub : Stub} {dir? : Option String} {e : LaunchError}
    (h : loadPresets root stub dir? = .error e) : ∃ why, e = .presets why := by
  cases dir? with
  | none => cases h
  | some dir =>
    rw [loadPresets] at h
    split at h
    case h_1 => cases h
    case h_2 why _ _ => exact ⟨why, (Except.error.inj h).symm⟩

theorem runsWith_of_ok (h : ofSettings n root s = .ok l) : l.RunsWith s := by
  rw [ofSettings] at h
  obtain ⟨⟨loaded, stub⟩, hload, h⟩ := bind_eq_ok h
  obtain ⟨listen, hlisten, h⟩ := bind_eq_ok h
  obtain ⟨-, -, h⟩ := bind_eq_ok h
  obtain ⟨metrics, hmetrics, h⟩ := bind_eq_ok h
  obtain ⟨-, -, h⟩ := bind_eq_ok h
  obtain rfl := Except.ok.inj h
  exact ⟨mapError_eq_ok hlisten, mapError_eq_ok hmetrics, loadPresets_journal hload, rfl⟩

end Launched

namespace Settings

variable {root : Node} {s : Settings}

/-- What a stub relies on when it runs with settings, and does not check again. -/
structure Usable (root : Node) (s : Settings) : Prop where
  endpoints : ∃ ip, s.endpoint = .ok ⟨ip, s.listen.port⟩ ∧ s.metricsEndpoint = .ok ⟨ip, s.metricsPort⟩
  apart : s.endpoint = s.metricsEndpoint ↔ s.listen.port = 0 ∧ s.metricsPort = 0
  launches : ∀ n e, Launched.ofSettings n root s ≠ .error (.settings e)
  runs : ∀ n l, Launched.ofSettings n root s = .ok l → l.RunsWith s
  room : ∀ m, (Stub.new s.capacity m).journal = ⟨s.capacity, {}⟩
  keeps : ∀ type (qs : List Request) j, (Journal.ofCapacity s.capacity).recordAll type qs = some j →
    j.held type = qs.reverse.take s.capacity
  fits : s.capacity ≤ Journal.maxCapacity → ∀ type (qs : List Request),
    ((Journal.ofCapacity s.capacity).recordAll type qs).isSome = true
  header : Header.isName s.overrideHeader = true
  overrides : ∀ (r : HttpRequest) (wire : List (String × List UInt8)), r.Carries wire →
    ∀ h, wire.find? (fun h => sameIgnoringCase h.1 s.overrideHeader) = some h → h.2 ≠ [] →
      ∀ body, (r.capture s.overrideHeader body).url = (Target.ofReference (Utf8.lossy h.2)).path ∧
        (r.capture s.overrideHeader body).params = (Target.ofReference (Utf8.lossy h.2)).params

namespace Valid

theorem endpoints (h : s.Valid root) :
    ∃ ip, s.endpoint = .ok ⟨ip, s.listen.port⟩ ∧ s.metricsEndpoint = .ok ⟨ip, s.metricsPort⟩ := by
  obtain ⟨ip, hip⟩ := h.host
  exact ⟨ip, endpointOn_eq_ok_iff.2 ⟨ip, hip, rfl⟩, endpointOn_eq_ok_iff.2 ⟨ip, hip, rfl⟩⟩

theorem apart (h : s.Valid root) :
    s.endpoint = s.metricsEndpoint ↔ s.listen.port = 0 ∧ s.metricsPort = 0 := by
  obtain ⟨ip, hlisten, hmetrics⟩ := h.endpoints
  rw [hlisten, hmetrics, Except.ok.injEq, Endpoint.mk.injEq]
  constructor
  · rintro ⟨-, hsame⟩
    rcases h.ports with hzero | hne
    · exact ⟨hsame.trans hzero, hzero⟩
    · exact absurd hsame.symm hne
  · rintro ⟨hlisten, hmetrics⟩
    exact ⟨rfl, hlisten.trans hmetrics.symm⟩

theorem launches (h : s.Valid root) (n : Network) (e : SettingsError) :
    Launched.ofSettings n root s ≠ .error (.settings e) := by
  obtain ⟨ip, hlisten, hmetrics⟩ := h.endpoints
  intro hfail
  rw [Launched.ofSettings] at hfail
  obtain hfail | ⟨⟨loaded, stub⟩, -, hfail⟩ := bind_eq_error hfail
  · obtain ⟨why, hwhy⟩ := Launched.loadPresets_error hfail
    cases hwhy
  obtain hfail | ⟨listen, -, hfail⟩ := bind_eq_error hfail
  · obtain ⟨e', he', -⟩ := mapError_eq_error hfail
    cases hlisten.symm.trans he'
  obtain hfail | ⟨-, -, hfail⟩ := bind_eq_error hfail
  · obtain ⟨why, -, hwhy⟩ := mapError_eq_error hfail
    cases hwhy
  obtain hfail | ⟨metrics, -, hfail⟩ := bind_eq_error hfail
  · obtain ⟨e', he', -⟩ := mapError_eq_error hfail
    cases hmetrics.symm.trans he'
  obtain hfail | ⟨-, -, hfail⟩ := bind_eq_error hfail
  · obtain ⟨why, -, hwhy⟩ := mapError_eq_error hfail
    cases hwhy
  cases hfail

theorem keeps (h : s.Valid root) {type : String} {qs : List Request} {j : Journal}
    (hj : (Journal.ofCapacity s.capacity).recordAll type qs = some j) :
    j.held type = qs.reverse.take s.capacity := by
  have hnone : (Journal.ofCapacity s.capacity).held type = [] := rfl
  rw [Journal.held_recordAll (.ofCapacity _) hj, hnone, List.append_nil,
    Journal.ofCapacity_of_ne_zero h.capacity]

theorem fits (h : s.Valid root) (hcapacity : s.capacity ≤ Journal.maxCapacity) (type : String)
    (qs : List Request) : ((Journal.ofCapacity s.capacity).recordAll type qs).isSome = true := by
  rw [Journal.ofCapacity_of_ne_zero h.capacity]
  exact Journal.isSome_recordAll hcapacity type qs

/-- A request with a value in the override header is captured with what the first one refers to. -/
theorem overrides (h : s.Valid root) {r : HttpRequest} {wire : List (String × List UInt8)}
    (hr : r.Carries wire) {x : String × List UInt8}
    (hx : wire.find? (fun h => sameIgnoringCase h.1 s.overrideHeader) = some x) (hvalue : x.2 ≠ [])
    (body : List UInt8) :
    (r.capture s.overrideHeader body).url = (Target.ofReference (Utf8.lossy x.2)).path ∧
      (r.capture s.overrideHeader body).params = (Target.ofReference (Utf8.lossy x.2)).params := by
  have hheader : r.header? s.overrideHeader = some x.2 := by
    rw [hr.header?_eq h.header, hx, Option.map_some]
  exact HttpRequest.capture_of_lossy hheader (mt Utf8.lossy_eq_empty_iff.1 hvalue) body

theorem usable (h : s.Valid root) : s.Usable root where
  endpoints := h.endpoints
  apart := h.apart
  launches := h.launches
  runs _ _ := Launched.runsWith_of_ok
  room _ := Journal.ofCapacity_of_ne_zero h.capacity
  keeps _ _ _ := h.keeps
  fits := h.fits
  header := h.header
  overrides _ _ hr _ := h.overrides hr

end Valid

end Settings

/-- Settings that a stub gets from its options are usable. Each is what an option gives, or else what the
settings file holds, or else the default. -/
theorem Options.settings_usable {root : Node} {o : Options} {s : Settings}
    (h : o.settings root = .ok s) :
    (Settings.File.document? root o.config).isSome = o.config.isSome ∧
      o.Sources (Settings.File.document? root o.config) s ∧ s.Usable root := by
  obtain ⟨hdocument, hsources, hvalid⟩ := sources_of_settings h
  exact ⟨hdocument, hsources, hvalid.usable⟩

/-- A file gives a port for each surface, one of them by a reference. Where an option gives the main port,
only the monitoring one is used; without the option both are. The journal has room for two requests of a
type, and the header of a request is written in another case. -/
theorem Options.settings_usable_merged :
    let text := "base: &base 9191\nlisten:\n  host: 127.0.0.1\n  port: 8081\nmetrics:\n  port: *base\n" ++
      "history:\n  capacity: 2\nuri_override_header: X-Target\n"
    let root : Node := .dir [("a.yaml", .file (Utf8.bytes text))]
    let o (port : Option UInt16) : Options := ⟨some "a.yaml", .none, port, .none, .none, .none⟩
    let s (port : UInt16) : Settings := ⟨⟨"127.0.0.1", port⟩, 9191, .none, 2, "X-Target"⟩
    let order (url : String) : Request := { Request.blank with url := url }
    let wire := [("Accept", Utf8.bytes "*"), ("X-TARGET", Utf8.bytes "/b?c=d"), ("x-target", [])]
    let r : HttpRequest := ⟨"GET", ⟨"/own", .none⟩, wire.map fun h => (lowerCase h.1, h.2), .ok []⟩
    (o .none).settings root = .ok (s 8081) ∧ (o (some 0)).settings root = .ok (s 0) ∧
      (∃ document, Settings.File.document? root (some "a.yaml") = some document ∧
        (∃ node, document.Under ["listen", "port"] node ∧ document.IsNumber node 8081) ∧
        (∃ node, document.Under ["metrics", "port"] node ∧ document.IsNumber node 9191)) ∧
      (s 0).endpoint ≠ (s 0).metricsEndpoint ∧
      (Stub.new (s 0).capacity .blank).journal.capacity = 2 ∧
      (∃ j, (Journal.ofCapacity (s 0).capacity).recordAll "Order"
        [order "/1", order "/2", order "/3"] = some j ∧ j.held "Order" = [order "/3", order "/2"]) ∧
      (r.capture (s 0).overrideHeader []).url = "/b" := by
  intro text root o s order wire r
  have hread : Settings.File.read root "a.yaml" = .ok (s 8081) :=
    Settings.File.read_of_entry (by decide) (by decide) rfl (by decide +kernel)
  have hip : IpAddress.parse? "127.0.0.1" = some (.v4 #v[127, 0, 0, 1]) := by decide +kernel
  have hheader : Header.isName "X-Target" = true := by decide
  have hvalid (port : UInt16) (hport : 9191 ≠ port) : (s port).Valid root :=
    ⟨⟨_, hip⟩, .inr hport, Nat.succ_ne_zero 1, hheader, by intro dir hdir; cases hdir⟩
  have hfile : (o .none).settings root = .ok (s 8081) := (settings_eq_ok_iff rfl).2
    ⟨_, hread, hvalid 8081 (by decide), ⟨rfl, rfl, rfl, rfl, rfl, rfl⟩, hvalid 8081 (by decide)⟩
  have hoption : (o (some 0)).settings root = .ok (s 0) := (settings_eq_ok_iff rfl).2
    ⟨_, hread, hvalid 8081 (by decide), ⟨rfl, rfl, rfl, rfl, rfl, rfl⟩, hvalid 0 (by decide)⟩
  obtain ⟨hdocument, hsources, -⟩ := settings_usable hfile
  obtain ⟨-, -, husable⟩ := settings_usable hoption
  refine ⟨hfile, hoption, ?_, fun h => absurd (husable.apart.1 h).2 (by decide), by rw [husable.room],
    ?_, ?_⟩
  · obtain ⟨document, hdocument⟩ := Option.isSome_iff_exists.1 hdocument
    rw [show (o .none).config = some "a.yaml" from rfl] at hdocument hsources
    rw [hdocument] at hsources
    exact ⟨document, hdocument, hsources.port.resolve_right fun h => absurd h.2 (by decide),
      hsources.metricsPort.resolve_right fun h => absurd h.2 (by decide)⟩
  · obtain ⟨j, hj⟩ := Option.isSome_iff_exists.1
      (husable.fits (by decide) "Order" [order "/1", order "/2", order "/3"])
    exact ⟨j, hj, husable.keeps "Order" _ j hj⟩
  · have hvalue : Utf8.lossy (Utf8.bytes "/b?c=d") = "/b?c=d" := Utf8.lossy_bytes _
    have hfirst : wire.find? (fun h => sameIgnoringCase h.1 (s 0).overrideHeader) =
        some ("X-TARGET", Utf8.bytes "/b?c=d") := by decide +kernel
    have hurl := (husable.overrides r wire (HttpRequest.carries_map _ _ _ _) _ hfirst (by decide) []).1
    rw [hurl, hvalue]
    decide +kernel

end StubHttp
