import NodeEditor.Canvas.Graph
import NodeEditor.Live.Settings

/-!
Scrapes: what is asked of the backend for a node, and what comes back. The addresses come from the
nodes before it or, if these have none, from the node itself.
-/

namespace NodeEditor

structure ScrapeRequest where
  urls : List String
  inputUrls : List String
  userAgent : String
  removeSelectors : List String
  minContentLength : Nat
  maxConcurrent : Nat
  timeoutSeconds : Nat
  retryAttempts : Nat
deriving DecidableEq, Repr

namespace ScrapeRequest

def blank : ScrapeRequest where
  urls := []
  inputUrls := []
  userAgent := ""
  removeSelectors := []
  minContentLength := 0
  maxConcurrent := 0
  timeoutSeconds := 0
  retryAttempts := 0

def shape : RecordShape ScrapeRequest where
  name := "ScrapeRequest"
  blank := blank
  fields := [
    .required "urls" (Shape.list Shape.text) fun v r => { r with urls := v },
    .required "input_urls" (Shape.list Shape.text) fun v r => { r with inputUrls := v },
    .required "user_agent" Shape.text fun v r => { r with userAgent := v },
    .required "remove_selectors" (Shape.list Shape.text)
      fun v r => { r with removeSelectors := v },
    .required "min_content_length" Shape.long fun v r => { r with minContentLength := v },
    .required "max_concurrent" Shape.long fun v r => { r with maxConcurrent := v },
    .required "timeout_seconds" Shape.long fun v r => { r with timeoutSeconds := v },
    .required "retry_attempts" Shape.long fun v r => { r with retryAttempts := v }]

def toJson (r : ScrapeRequest) : Json :=
  .obj [
    ("urls", .ofTexts r.urls),
    ("input_urls", .ofTexts r.inputUrls),
    ("user_agent", .str r.userAgent),
    ("remove_selectors", .ofTexts r.removeSelectors),
    ("min_content_length", .ofNat r.minContentLength),
    ("max_concurrent", .ofNat r.maxConcurrent),
    ("timeout_seconds", .ofNat r.timeoutSeconds),
    ("retry_attempts", .ofNat r.retryAttempts)]

def hasNoUrls (r : ScrapeRequest) : Bool :=
  r.urls.isEmpty && r.inputUrls.isEmpty

-- The texts of a list without blanks around them, those that are left.
def filled (texts : List String) : List String :=
  (texts.map Text.trim).filter (· ≠ "")

-- The texts that a value lists: the texts of an array, or the parts of a text between commas and
-- line breaks.
def listed : Json → List String
  | .arr items => filled (items.filterMap Json.text?)
  | .str s =>
    filled ((Text.splitWhere (fun c => c = '\n' || c = ',') s.toList).map String.ofList)
  | _ => []

def listUnder (values : ValueBag) (name : String) : List String :=
  ((values.get? name).map listed).getD []

-- The addresses that a node offers: its list, then its single one.
def urlsIn (values : ValueBag) : List String :=
  listUnder values "urls" ++ filled (values.text? "url").toList

-- The number that a property holds, without its fraction, if it is one and not negative.
def countUnder (values : ValueBag) (name : String) (fallback : Nat) : Nat :=
  match ((values.get? name).bind Json.float?).filter fun f => f ≥ 0.0 with
  | some f => f.toUInt64.toNat
  | none => fallback

-- The request for the values of a node, given the addresses of the nodes before it.
def ofValues (values : ValueBag) (given : List String) (d : ScrapeDefaults) :
    ScrapeRequest where
  urls := if given.isEmpty then urlsIn values else []
  inputUrls := given
  userAgent := (filled (values.text? "userAgent").toList).headD d.userAgent
  removeSelectors := listUnder values "removeSelectors"
  minContentLength := countUnder values "minContentLength" d.minContentLength
  maxConcurrent := countUnder values "maxConcurrent" d.maxConcurrent
  timeoutSeconds := countUnder values "timeoutSeconds" d.timeoutSeconds
  retryAttempts := countUnder values "retryAttempts" d.retryAttempts

def ofNode (g : Graph) (node : NodeId) (d : ScrapeDefaults) : ScrapeRequest :=
  let given := (g.predecessors node).flatMap fun n => urlsIn n.data.values
  let values : ValueBag := ((g.node? node).map (·.data.values)).getD {}
  ofValues values given d

end ScrapeRequest

structure ScrapedDocument where
  url : String
  title : Option String
  content : String
  metadata : Dict Json

namespace ScrapedDocument

def shape : RecordShape ScrapedDocument where
  name := "ScrapedDocument"
  blank := { url := "", title := none, content := "", metadata := {} }
  fields := [
    .required "url" Shape.text fun v d => { d with url := v },
    .optional "title" (Shape.optional Shape.text) fun v d => { d with title := v },
    .optional "content" Shape.text fun v d => { d with content := v },
    .optional "metadata" Shape.dict fun v d => { d with metadata := v }]

def toJson (d : ScrapedDocument) : Json :=
  .obj [
    ("url", .str d.url),
    ("title", .ofOption .str d.title),
    ("content", .str d.content),
    ("metadata", .obj d.metadata.entries)]

end ScrapedDocument

structure ScrapeProgress where
  total : Nat
  completed : Nat
  failed : Nat
deriving DecidableEq, Repr

namespace ScrapeProgress

def shape : RecordShape ScrapeProgress where
  name := "ScrapeProgress"
  blank := { total := 0, completed := 0, failed := 0 }
  fields := [
    .optional "total" Shape.long fun v p => { p with total := v },
    .optional "completed" Shape.long fun v p => { p with completed := v },
    .optional "failed" Shape.long fun v p => { p with failed := v }]

def toJson (p : ScrapeProgress) : Json :=
  .obj [
    ("total", .ofNat p.total),
    ("completed", .ofNat p.completed),
    ("failed", .ofNat p.failed)]

end ScrapeProgress

structure ScrapeResponse where
  documents : List ScrapedDocument
  progress : ScrapeProgress

namespace ScrapeResponse

def empty : ScrapeResponse :=
  { documents := [], progress := { total := 0, completed := 0, failed := 0 } }

def shape : RecordShape ScrapeResponse where
  name := "ScrapeResponse"
  blank := empty
  fields := [
    .optional "documents" (Shape.list ScrapedDocument.shape.read)
      fun v r => { r with documents := v },
    .optional "progress" ScrapeProgress.shape.read fun v r => { r with progress := v }]

def toJson (r : ScrapeResponse) : Json :=
  .obj [
    ("documents", .arr (r.documents.map ScrapedDocument.toJson)),
    ("progress", r.progress.toJson)]

end ScrapeResponse

end NodeEditor
