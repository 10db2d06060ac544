import NodeEditor.Inspector.Arguments
import NodeEditor.Live.Timer

/-!
The command line of the inspector.
-/

namespace NodeEditor.Inspector

open Arguments

inductive Command where
  | palette
  | render (graph : String)
  | form (type : String) (values : Option String)
  | copy (graph : String) (nodes : List String)
  | paste (graph fragment : String) (output : Option String)
  | timer (command : Option TimerCommand) (node : String)
deriving DecidableEq, Repr

structure Invocation where
  catalog : Option String
  command : Command
deriving DecidableEq, Repr

-- The commands of a timer by name; asking for the status is none.
def timerActions : List (String × Option TimerCommand) :=
  ("status", none) :: TimerCommand.all.map fun c => (c.name, some c)

def graphFile (help : String) : Positional :=
  { name := "GRAPH", rule := .path, many := false, help := help }

def program : Program where
  name := "flowcanvas-inspect"
  version := "0.1.0"
  about := "Command line inspector for flowcanvas catalogs, graphs and forms"
  options := [⟨"catalog", "CATALOG", "Read the node catalog from this file instead of the backend"⟩]
  commands := [
    ⟨"palette", "List node kinds grouped by palette category", [], []⟩,
    ⟨"render", "Render every node of a graph file as JSON view models",
      [graphFile "Path to a `\x7bnodes, edges\x7d` graph file"], []⟩,
    ⟨"form", "Render the configuration form of a node kind",
      [⟨"NODE_TYPE", .anyText, false, "Node kind, e.g. `webhook-trigger`"⟩],
      [⟨"values", "VALUES", "JSON file holding the node's current values"⟩]⟩,
    ⟨"copy", "Copy nodes of a graph to clipboard text",
      [graphFile "", ⟨"NODES", .anyText, true, "IDs of the nodes to copy"⟩], []⟩,
    ⟨"paste", "Paste clipboard text into a graph",
      [graphFile "", ⟨"FRAGMENT", .path, false, "File holding the clipboard text"⟩],
      [⟨"output", "OUTPUT", "Write the resulting graph here instead of standard output"⟩]⟩,
    ⟨"timer", "Query or drive a timer node on the backend",
      [⟨"ACTION", .oneOf (timerActions.map Prod.fst), false, ""⟩,
        ⟨"NODE_ID", .anyText, false, ""⟩], []⟩]

def commandOf (name : String) (r : Progress) : Command :=
  let text (key : String) : String := (r.value? key).getD ""
  match name with
  | "render" => .render (text "GRAPH")
  | "form" => .form (text "NODE_TYPE") (r.value? "--values")
  | "copy" => .copy (text "GRAPH") (r.values "NODES")
  | "paste" => .paste (text "GRAPH") (text "FRAGMENT") (r.value? "--output")
  | "timer" => .timer ((timerActions.lookup (text "ACTION")).getD none) (text "NODE_ID")
  | _ => .palette

def readCommandLine (args : List String) : Except UsageError Invocation :=
  (program.read args).map fun (c, r) =>
    { catalog := r.value? "--catalog", command := commandOf c.name r }

end NodeEditor.Inspector
