import NodeEditor.Catalog.NodeType

/-!
The actions that a node offers while the workflow runs, by the capabilities of its kind and by what
is going on.
-/

namespace NodeEditor

structure Activity where
  timerActive : Bool
  listening : Bool
  scraping : Bool
deriving DecidableEq, Repr

def Activity.idle : Activity := { timerActive := false, listening := false, scraping := false }

def Activity.toJson (a : Activity) : Json :=
  .obj [
    ("timerActive", .bool a.timerActive),
    ("listening", .bool a.listening),
    ("scraping", .bool a.scraping)]

inductive Action where
  | startTimer
  | stopTimer
  | triggerTimer
  | startListening
  | stopListening
  | startScrape
  | copyCurl
deriving DecidableEq, Repr

def Action.name : Action → String
  | .startTimer => "start_timer"
  | .stopTimer => "stop_timer"
  | .triggerTimer => "trigger_timer"
  | .startListening => "start_listening"
  | .stopListening => "stop_listening"
  | .startScrape => "start_scrape"
  | .copyCurl => "copy_curl"

structure Affordance where
  action : Action
  enabled : Bool
deriving DecidableEq, Repr

def Affordance.toJson (a : Affordance) : Json :=
  .obj [("action", .str a.action.name), ("enabled", .bool a.enabled)]

-- The actions that a node offers. Of a pair that starts and stops, the one that makes sense is
-- offered.
def affordances (c : Capabilities) (now : Activity) : List Affordance :=
  (if c.timer then
    [⟨if now.timerActive then .stopTimer else .startTimer, true⟩, ⟨.triggerTimer, true⟩] else []) ++
  (if c.webhook then [⟨if now.listening then .stopListening else .startListening, true⟩] else []) ++
  (if c.scrape then [⟨.startScrape, !now.scraping⟩] else []) ++
  (if c.curl then [⟨.copyCurl, true⟩] else [])

end NodeEditor
