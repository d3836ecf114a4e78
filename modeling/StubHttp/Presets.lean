import StubHttp.Stub
import StubHttp.Files

/-!
# Preset rules

The rule documents in a directory and the directories below it are registered in the order of their
paths, compared part by part. Links to directories are not followed. The first document that cannot
be registered ends the loading.
-/
namespace StubHttp

def Node.documents : List (String × Node) → List (List String)
  | [] => []
  | (name, .dir entries) :: rest =>
    (documents entries).map (name :: ·) ++ documents rest
  | (name, _) :: rest =>
    (if extension? name = some "json" then [[name]] else []) ++ documents rest

/-- Paths in the order of their parts. -/
def pathLE : List String → List String → Bool
  | [], _ => true
  | _ :: _, [] => false
  | p :: ps, q :: qs => if p = q then pathLE ps qs else decide (p < q)

namespace Stub

def presetPaths (root : Node) (dir : String) : Except FileError (List String) :=
  (root.readDir dir).map fun entries =>
    ((Node.documents entries).mergeSort pathLE).map fun ps => joinPath dir ("/".intercalate ps)

def readPreset (root : Node) (path : String) : Except Failure RuleDocument :=
  match root.readText path with
  | .error e => .error (.preset path e.message)
  | .ok text =>
    match RuleDocument.reader.parseText text with
    | .error e => .error (.preset path e.message)
    | .ok d => .ok d

def loadPreset (s : Stub) (root : Node) (path : String) : Except Failure Unit × Stub :=
  match readPreset root path with
  | .error e => (.error e, s)
  | .ok d =>
    match s.register d with
    | (.ok (), s) => (.ok (), s)
    | (.error e, s) => (.error (.preset path e.message), s)

def loadFiles (s : Stub) (root : Node) : List String → Except Failure Unit × Stub
  | [] => (.ok (), s)
  | p :: ps =>
    match s.loadPreset root p with
    | (.ok (), s) => s.loadFiles root ps
    | (.error e, s) => (.error e, s)

def loadPresets (s : Stub) (root : Node) (dir : String) : Except Failure Nat × Stub :=
  match presetPaths root dir with
  | .error e => (.error (.preset dir e.message), s)
  | .ok paths =>
    match s.loadFiles root paths with
    | (.ok (), s) => (.ok paths.length, s)
    | (.error e, s) => (.error e, s)

end Stub

end StubHttp
