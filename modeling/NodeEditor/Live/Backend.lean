import NodeEditor.Catalog.Catalog
import NodeEditor.Live.Scrape
import NodeEditor.Live.Timer

/-!
The backend: what can be asked of it, at which address, what it answers, and what can go wrong on the
way.
-/

namespace NodeEditor

inductive Call where
  | fetchCatalog
  | timerStatus (node : NodeId)
  | timerCommand (node : NodeId) (command : TimerCommand)
  | startListening (node : NodeId)
  | stopListening (node : NodeId)
  | scrape (node : NodeId) (request : ScrapeRequest)
  | credentialSecret (credential : CredentialId)

inductive TransportError where
  | clientBuild (reason : String)
  | requestFailed (endpoint reason : String)
  | timeout (endpoint : String)
  | status (endpoint : String) (code : Nat) (body : String)
  | decode (endpoint reason : String)
deriving DecidableEq, Repr

def TransportError.message : TransportError → String
  | .clientBuild reason => s!"failed to build HTTP client: {reason}"
  | .requestFailed endpoint reason => s!"request to {endpoint} failed: {reason}"
  | .timeout endpoint => s!"request to {endpoint} timed out"
  | .status endpoint code body =>
    s!"{endpoint} returned status {code}" ++ (if body = "" then "" else s!": {body}")
  | .decode endpoint reason => s!"failed to decode response from {endpoint}: {reason}"

namespace Call

def Reply : Call → Type
  | .fetchCatalog => Catalog
  | .timerStatus _ => TimerStatus
  | .timerCommand _ _ => Unit
  | .startListening _ => Unit
  | .stopListening _ => Unit
  | .scrape _ _ => ScrapeResponse
  | .credentialSecret _ => Dict Json

def name : Call → String
  | .fetchCatalog => "fetch_catalog"
  | .timerStatus _ => "timer_status"
  | .timerCommand _ _ => "timer_command"
  | .startListening _ => "start_listening"
  | .stopListening _ => "stop_listening"
  | .scrape _ _ => "scrape"
  | .credentialSecret _ => "credential_secret"

def details : Call → List (String × Json)
  | .fetchCatalog => []
  | .timerStatus node => [("node", .str node.text)]
  | .timerCommand node command => [("node", .str node.text), ("command", .str command.name)]
  | .startListening node => [("node", .str node.text)]
  | .stopListening node => [("node", .str node.text)]
  | .scrape node request => [("node", .str node.text), ("request", request.toJson)]
  | .credentialSecret credential => [("credential", .str credential.text)]

def toJson (c : Call) : Json :=
  .obj (("call", .str c.name) :: c.details)

-- The path of a call. Names are put in as they are.
def path : Call → String
  | .fetchCatalog => "/nodes"
  | .timerStatus node => s!"/timers/{node.text}/status"
  | .timerCommand node command => s!"/timers/{node.text}/{command.name}"
  | .startListening node => s!"/webhooks/{node.text}/start-listening"
  | .stopListening node => s!"/webhooks/{node.text}/stop-listening"
  | .scrape node _ => s!"/web-scraper/{node.text}/scrape"
  | .credentialSecret credential => s!"/credentials/{credential.text}/secret"

end Call

-- The base of all addresses: the one of the settings, without slashes at its end.
def Settings.baseAddress (s : Settings) : String :=
  Text.trimEndOf '/' s.apiBaseUrl

def Settings.endpoint (s : Settings) (call : Call) : String :=
  s.baseAddress ++ call.path

-- The failure of a call that the transport gives up before there is an answer, for the reason that it
-- has for an address.
def Settings.unreachable (s : Settings) (reason : String → String) (call : Call) : TransportError :=
  let endpoint := s.endpoint call
  .requestFailed endpoint (reason endpoint)

end NodeEditor
