import NodeEditor.Id
import NodeEditor.Json.Basic

/-!
Messages for the user.
-/

namespace NodeEditor

inductive Level where
  | info
  | success
  | warning
  | error
deriving DecidableEq, Repr

def Level.name : Level → String
  | .info => "info"
  | .success => "success"
  | .warning => "warning"
  | .error => "error"

structure Notification where
  level : Level
  message : String
  node : Option NodeId
deriving DecidableEq, Repr

def Notification.toJson (n : Notification) : Json :=
  .obj [
    ("level", .str n.level.name),
    ("message", .str n.message),
    ("nodeId", .ofOption (fun id : NodeId => .str id.text) n.node)]

end NodeEditor
