import NodeEditor.Json.Shape

/-!
Settings of the editor. Everything has a default, so that no settings at all are settings too.
-/

namespace NodeEditor

structure ScrapeDefaults where
  userAgent : String
  minContentLength : Nat
  maxConcurrent : Nat
  timeoutSeconds : Nat
  retryAttempts : Nat
deriving DecidableEq, Repr

namespace ScrapeDefaults

def standard : ScrapeDefaults where
  userAgent := "Mozilla/5.0 (compatible; flowcanvas-scraper/1.0)"
  minContentLength := 100
  maxConcurrent := 5
  timeoutSeconds := 30
  retryAttempts := 2

def shape : RecordShape ScrapeDefaults where
  name := "ScrapeDefaults"
  blank := standard
  fields := [
    .optional "user_agent" Shape.text fun v d => { d with userAgent := v },
    .optional "min_content_length" Shape.long fun v d => { d with minContentLength := v },
    .optional "max_concurrent" Shape.long fun v d => { d with maxConcurrent := v },
    .optional "timeout_seconds" Shape.long fun v d => { d with timeoutSeconds := v },
    .optional "retry_attempts" Shape.long fun v d => { d with retryAttempts := v }]

end ScrapeDefaults

-- The settings: where the backend is and how long it may take, where images are, and where webhooks
-- are reached from outside.
structure Settings where
  apiBaseUrl : String
  requestTimeoutSeconds : Nat
  assetBasePath : String
  webhookBaseUrl : String
  scrape : ScrapeDefaults
deriving DecidableEq, Repr

namespace Settings

def standard : Settings where
  apiBaseUrl := "http://localhost:8000/api"
  requestTimeoutSeconds := 10
  assetBasePath := "/static/icons"
  webhookBaseUrl := "http://localhost:8000"
  scrape := .standard

def shape : RecordShape Settings where
  name := "RuntimeConfig"
  blank := standard
  fields := [
    .optional "api_base_url" Shape.text fun v s => { s with apiBaseUrl := v },
    .optional "request_timeout_seconds" Shape.long
      fun v s => { s with requestTimeoutSeconds := v },
    .optional "asset_base_path" Shape.text fun v s => { s with assetBasePath := v },
    .optional "webhook_base_url" Shape.text fun v s => { s with webhookBaseUrl := v },
    .optional "scrape" ScrapeDefaults.shape.read fun v s => { s with scrape := v }]

end Settings

end NodeEditor
