import StubHttp.Http.Document
import StubHttp.Launch

/-!
# The program

The program starts a stub with the options of its command line and its environment. The first line
of its input is a document with the files that it may read, every further line a request to the
stub; the response to each is written as one line.
-/
open StubHttp StubHttp.Json

def readEnvironment : IO (List (String × String)) :=
  Flag.all.filterMapM fun f => do
    return (← IO.getEnv f.envName).map fun value => (f.envName, value)

def readFiles (input : IO.FS.Stream) : IO Node := do
  match Node.reader.parseText (← input.getLine) with
  | .ok root => return root
  | .error e => throw (.userError e.message)

def respond (n : Network) (s : Server) (c : Call) : IO (Value × Server) := do
  if c.surface = .main then
    IO.sleep (s.stub.wait s.overrideHeader c.request).toUInt32
  match s.request n c.surface c.request with
  | (some r, s) => return (r.json, s)
  | (none, s) => return (.null, s)

partial def serve (input output : IO.FS.Stream) (n : Network) (s : Server) : IO Unit := do
  let line ← input.getLine
  if line.isEmpty then return
  let (answer, s) ← match Call.reader.parseText line with
    | .ok c => respond n s c
    | .error e => pure (.string e.message, s)
  output.putStrLn answer.render
  output.flush
  serve input output n s

def main (args : List String) : IO UInt32 := do
  match Options.parse args (← readEnvironment) with
  | .error stop =>
    IO.eprintln stop.message
    return stop.exitCode.toUInt32
  | .ok o =>
    let input ← IO.getStdin
    let n : Network := ⟨[], true⟩
    match Launched.ofOptions n (← readFiles input) o with
    | .error e =>
      IO.eprintln e.report
      return 1
    | .ok l =>
      if let some loaded := l.loaded then IO.eprintln loaded.message
      IO.eprintln s!"Listening on {l.listen.render}"
      serve input (← IO.getStdout) n l.server
      return 0
