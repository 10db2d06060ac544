import NodeEditor.Inspector.Commands

/-!
Folders in memory: a host whose files are a list, for running the inspector without touching anything
outside. The failures are worded as a file system words them.
-/

namespace NodeEditor.Inspector

structure Folder where
  files : List (String × String)

namespace Folder

def parts (path : String) : List (List Char) :=
  (Text.splitWhere (· = '/') path.toList).filter fun part => part ≠ [] && part ≠ ['.']

def endsInSlash (path : String) : Bool :=
  path.toList.getLast? = some '/'

def file? (d : Folder) (path : String) : Option String :=
  (d.files.find? fun f => parts f.1 = parts path).map (·.2)

-- Whether the parts lead to a directory: the folder itself, or one on the way to a file.
def isDirectory (d : Folder) (path : List (List Char)) : Bool :=
  path.isEmpty || d.files.any fun f =>
    path.isPrefixOf (parts f.1) && path.length < (parts f.1).length

-- Whether a path leads through a file as if it were a directory.
def goesThroughFile (d : Folder) (path : String) : Bool :=
  let here := parts path
  let depth := if endsInSlash path then here.length + 1 else here.length
  d.files.any fun f => (parts f.1).isPrefixOf here && (parts f.1).length < depth

def missing : String := "No such file or directory (os error 2)"

def notDirectory : String := "Not a directory (os error 20)"

-- The path leads to a directory where a file is wanted.
def directory : String := "Is a directory (os error 21)"

-- Why the path is of no use, whatever is done at its end.
def obstacle? (d : Folder) (path : String) : Option String :=
  if path = "" then some missing
  else if d.isDirectory (parts path) then some directory
  else if d.goesThroughFile path then some notDirectory
  else none

def text (d : Folder) (path : String) : Except String String :=
  match d.obstacle? path, d.file? path with
  | some reason, _ => .error reason
  | none, some text => .ok text
  | none, none => .error missing

-- Writes a file, over an earlier one, into a directory that is there.
def put (d : Folder) (path text : String) : Except String Folder :=
  match d.obstacle? path with
  | some reason => .error reason
  | none =>
    if !d.isDirectory (parts path).dropLast then .error missing
    else if endsInSlash path then .error directory
    else .ok { files := (path, text) :: d.files.filter fun f => parts f.1 ≠ parts path }

-- The host with the files of a folder, at a moment, and without a backend: calls to one fail for a
-- reason. New names are made from the given number.
def host (reason : String → String) (settings : Settings) (now : Time.Moment) (next : Nat) :
    Host (StateM Folder) where
  readFile path := return (← get).text path
  writeFile path text := do
    match (← get).put path text with
    | .ok d =>
      set d
      return .ok ()
    | .error reason => return .error reason
  fetchCatalog := return .error (settings.unreachable reason .fetchCatalog)
  timerCommand node command :=
    return .error (settings.unreachable reason (.timerCommand node command))
  timerStatus node := return .error (settings.unreachable reason (.timerStatus node))
  now := return now
  nextName := return next

end Folder

end NodeEditor.Inspector
