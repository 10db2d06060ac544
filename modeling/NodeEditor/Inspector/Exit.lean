import NodeEditor.Inspector.Commands

/-!
How a run of the inspector ends: its exit code, what it prints, and what it complains about. Only a
command that succeeds, and a request for help or the version, exit with zero.
-/

namespace NodeEditor.Inspector

open Arguments

structure Exit where
  code : Nat
  printed : String
  complaint : String
deriving DecidableEq, Repr

namespace Exit

def success (printed : String) : Exit :=
  { code := 0, printed := printed, complaint := "" }

def failure (complaint : String) : Exit :=
  { code := 1, printed := "", complaint := complaint ++ "\n" }

def ofUsageError : UsageError → Exit
  | .help text => success text
  | .version text => success text
  | _ => { code := 2, printed := "", complaint := program.help }

end Exit

-- Runs the inspector with the variables of its environment and its arguments.
def runProgram {m : Type → Type} [Monad m] [Pattern.Capacity] (host : Settings → Host m)
    (given : List (String × String)) (args : List String) : m Exit := do
  match readCommandLine args with
  | .error e => return .ofUsageError e
  | .ok i =>
    match Config.ofVariables given with
    | .error e => return .failure e.message
    | .ok config =>
      match ← (run (host config.settings) config i).run with
      | .ok text => return .success (text ++ "\n")
      | .error e => return .failure e.message

end NodeEditor.Inspector
