import NodeEditor.Inspector.Exit
import NodeEditor.Pattern.Estimate

/-!
The inspector as a program.
-/

namespace NodeEditor.Inspector

def fileReason : IO.Error → String
  | .noFileOrDirectory _ code _ => s!"No such file or directory (os error {code})"
  | .permissionDenied _ code _ => s!"Permission denied (os error {code})"
  | .inappropriateType _ code details => s!"{details} (os error {code})"
  | e => toString e

def attempt {α : Type} (act : IO α) : IO (Except String α) := do
  try
    return .ok (← act)
  catch e =>
    return .error (fileReason e)

def noConnection : String → String :=
  fun _ => "builder error"

-- The host of the program. It has no connection, so every call to the backend fails.
def systemHost (settings : Settings) : Host IO where
  readFile path := attempt (IO.FS.readFile path)
  writeFile path text := attempt (IO.FS.writeFile path text)
  fetchCatalog := return .error (settings.unreachable noConnection .fetchCatalog)
  timerCommand node command :=
    return .error (settings.unreachable noConnection (.timerCommand node command))
  timerStatus node := return .error (settings.unreachable noConnection (.timerStatus node))
  now := pure { day := 0, second := 0, nano := 0 }
  nextName := IO.monoNanosNow

def environment : IO (List (String × String)) := do
  let found ← Config.variableNames.mapM fun name => do
    return (← IO.getEnv name).map fun value => (name, value)
  return found.filterMap id

end NodeEditor.Inspector

open NodeEditor.Inspector

def main (args : List String) : IO UInt32 := do
  let _ : NodeEditor.Pattern.Capacity := { fits := NodeEditor.Pattern.isSmall }
  let exit ← runProgram systemHost (← environment) args
  IO.print exit.printed
  IO.eprint exit.complaint
  return exit.code.toUInt32
