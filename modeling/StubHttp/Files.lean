import StubHttp.Text.Utf8
import StubHttp.Text.Search

/-!
# Directory trees

A tree of files, directories and symbolic links. The root is also the directory that paths are
resolved from. A link on the way is resolved by the path that it holds, from the directory that it
stands in, or from the root if that path starts with a slash.
-/
namespace StubHttp

inductive FileError
  | notFound
  | notDirectory
  | isDirectory
  | tooManyLinks
  | denied
  | notText
  deriving DecidableEq, Repr

def FileError.message : FileError → String
  | notFound => "No such file or directory (os error 2)"
  | notDirectory => "Not a directory (os error 20)"
  | isDirectory => "Is a directory (os error 21)"
  | tooManyLinks => "Too many levels of symbolic links (os error 40)"
  | denied => "Permission denied (os error 13)"
  | notText => "stream did not contain valid UTF-8"

inductive Node
  | file (content : List UInt8)
  /-- A file that may not be read. -/
  | locked
  | dir (entries : List (String × Node))
  | link (target : String)

instance : Inhabited Node := ⟨.dir []⟩

namespace Node

def parts (path : String) : List String := (Text.split '/' path.toList).map String.ofList

def isAbsolute (path : String) : Bool := path.toList.head? = some '/'

/-- The node that the parts of a path lead to. `above` holds the directories above the current one,
the nearest first; `links` counts the links that may still be followed. -/
def walk (links : Nat) (above : List Node) (here : Node) (ps : List String) :
    Except FileError Node :=
  match ps with
  | [] => .ok here
  | p :: ps =>
    match here with
    | .dir entries =>
      if p = "" ∨ p = "." then walk links above here ps
      else if p = ".." then
        match above with
        | [] => walk links [] here ps
        | up :: above => walk links above up ps
      else
        match entries.lookup p with
        | none => .error .notFound
        | some (.link target) =>
          match links with
          | 0 => .error .tooManyLinks
          | links + 1 =>
            if isAbsolute target then walk links [] (above.getLast?.getD here) (parts target ++ ps)
            else walk links above here (parts target ++ ps)
        | some next => walk links (here :: above) next ps
    | _ => .error .notDirectory
termination_by (links, ps.length)

def find (root : Node) (path : String) : Except FileError Node :=
  if path = "" then .error .notFound else walk 40 [] root (parts path)

def insert (leaf : Node) : List String → Node → Node
  | [], _ => leaf
  | p :: ps, .dir entries =>
    if p = "" ∨ p = "." then insert leaf ps (.dir entries)
    else if entries.any (·.1 = p) then
      .dir (entries.map fun e => if e.1 = p then (p, insert leaf ps e.2) else e)
    else .dir (entries ++ [(p, insert leaf ps (.dir []))])
  | _, n => n

def ofPaths (leaves : List (String × Node)) : Node :=
  leaves.foldl (fun n l => insert l.2 (parts l.1) n) (.dir [])

def isDir (root : Node) (path : String) : Bool :=
  match root.find path with
  | .ok (.dir _) => true
  | _ => false

def readText (root : Node) (path : String) : Except FileError String := do
  match ← root.find path with
  | .file content =>
    match Utf8.text? content with
    | some s => .ok s
    | none => .error .notText
  | .locked => .error .denied
  | _ => .error .isDirectory

def readDir (root : Node) (path : String) : Except FileError (List (String × Node)) := do
  match ← root.find path with
  | .dir entries => .ok entries
  | _ => .error .notDirectory

end Node

def joinPath (dir name : String) : String :=
  if dir = "" ∨ dir.toList.getLast? = some '/' then dir ++ name else s!"{dir}/{name}"

def extension? (name : String) : Option String :=
  if '.' ∈ name.toList ∧ name ≠ ".." then
    let ext := Text.afterLast '.' name.toList
    if ext.length + 1 = name.toList.length then none else some (String.ofList ext)
  else none

end StubHttp
