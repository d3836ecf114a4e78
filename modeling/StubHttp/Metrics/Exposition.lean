import StubHttp.Metrics

/-!
# The text of metrics

Metrics are written family by family in the order of their names, each with its help text and its
kind, and one line for each series. Its labels stand in the order of their names, and the series in that
of the values of these labels.
-/
namespace StubHttp

namespace Exposition

structure Sample where
  suffix : String
  labels : List (String × String)
  value : String

structure Family where
  name : String
  help : String
  kind : String
  samples : List Sample

def escapeChar (c : Char) : List Char :=
  match c with
  | '\\' => ['\\', '\\']
  | '\n' => ['\\', 'n']
  | '"' => ['\\', '"']
  | c => [c]

def escape (s : String) : String := String.ofList (s.toList.flatMap escapeChar)

def renderLabels (ls : List (String × String)) : String :=
  if ls.isEmpty then ""
  else "\x7b" ++ ",".intercalate (ls.map fun l => l.1 ++ "=\"" ++ escape l.2 ++ "\"") ++ "\x7d"

def Sample.render (name : String) (s : Sample) : String :=
  name ++ s.suffix ++ renderLabels s.labels ++ " " ++ s.value ++ "\n"

def Family.render (f : Family) : String :=
  if f.samples.isEmpty then ""
  else
    "# HELP " ++ f.name ++ " " ++ f.help ++ "\n# TYPE " ++ f.name ++ " " ++ f.kind ++ "\n" ++
      String.join (f.samples.map (Sample.render f.name))

def named {β : Type} (names : List String) (l : Labelled β) : List (List (String × String) × β) :=
  let pairs := l.map fun s =>
    ((names.zip s.labels).mergeSort fun x y => !decide (y.1 < x.1), s.value)
  pairs.mergeSort fun a b => !(b.1.map (·.2)).lex (a.1.map (·.2)) fun x y => decide (x < y)

def counts (names : List String) (l : Labelled Nat) : List Sample :=
  (named names l).map fun (labels, n) => ⟨"", labels, toString n⟩

def single (n : Option Nat) : List Sample := n.toList.map fun n => ⟨"", [], toString n⟩

def wholeDouble (n : Nat) : String :=
  let (c, e) := Decimal.shortest (Float.ofNat n).toBits.toNat
  toString (c * Nat.pow 10 e.toNat)

def histograms (names : List String) (l : Labelled Histogram) : List Sample :=
  (named names l).flatMap fun (labels, h) =>
    (Histogram.bounds.zip h.within).map (fun (b, n) =>
      ⟨"_bucket", labels ++ [("le", toString b)], toString n⟩) ++
    [⟨"_bucket", labels ++ [("le", "+Inf")], toString h.count⟩,
      ⟨"_sum", labels, wholeDouble h.sum⟩,
      ⟨"_count", labels, toString h.count⟩]

def families (m : Metrics) : List Family := [
  ⟨"mirage_active_rules", "Number of rules currently registered", "gauge", single m.active⟩,
  ⟨"mirage_history_lookups_total", "Total number of recorded request lookups", "counter",
    counts ["result"] m.lookups⟩,
  ⟨"mirage_requests_served_total",
    "Total number of application requests answered by a registered rule", "counter",
    counts ["request_type", "status"] m.served⟩,
  ⟨"mirage_requests_unmatched_total", "Total number of application requests that matched no rule",
    "counter", counts ["method"] m.unmatched⟩,
  ⟨"mirage_resets_total", "Total number of reset operations", "counter", single m.resets⟩,
  ⟨"mirage_response_delay_ms", "Histogram of configured response delays in milliseconds",
    "histogram", histograms ["request_type"] m.delays⟩,
  ⟨"mirage_rules_registered_total", "Total number of rule registrations", "counter",
    counts ["time_to_live", "result"] m.registered⟩]

end Exposition

def Metrics.render (m : Metrics) : String :=
  String.join ((Exposition.families m).map Exposition.Family.render)

end StubHttp
