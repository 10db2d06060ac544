import NodeEditor.Json.Shape
import NodeEditor.Time.Reading

/-!
Timers of nodes, as the backend describes them.
-/

namespace NodeEditor

inductive TimerState where
  | initialized
  | running
  | stopped
  | error
  | completed
deriving DecidableEq, Repr

namespace TimerState

def named : List (String × TimerState) := [
  ("initialized", .initialized), ("running", .running), ("stopped", .stopped), ("error", .error),
  ("completed", .completed)]

def name : TimerState → String
  | .initialized => "initialized"
  | .running => "running"
  | .stopped => "stopped"
  | .error => "error"
  | .completed => "completed"

end TimerState

def readTimeStamp : Json → Except ShapeError Time.Moment
  | .str s =>
    match Time.relaxed s.toList with
    | .ok m => .ok m
    | .error e => .error (.unreadable e.message)
  | j => .error (.invalidType j "an RFC 3339 formatted date and time string")

structure TimerStatus where
  timerId : String
  state : TimerState
  nextExecution : Option Time.Moment
  lastExecution : Option Time.Moment
  executionCount : Nat
  isActive : Bool
deriving DecidableEq, Repr

namespace TimerStatus

def initial : TimerStatus where
  timerId := ""
  state := .initialized
  nextExecution := none
  lastExecution := none
  executionCount := 0
  isActive := false

def shape : RecordShape TimerStatus where
  name := "TimerStatus"
  blank := initial
  fields := [
    .optional "timer_id" Shape.text fun v t => { t with timerId := v },
    .optional "status" (Shape.choice TimerState.named) fun v t => { t with state := v },
    .optional "next_execution" (Shape.optional readTimeStamp)
      fun v t => { t with nextExecution := v },
    .optional "last_execution" (Shape.optional readTimeStamp)
      fun v t => { t with lastExecution := v },
    .optional "execution_count" Shape.long fun v t => { t with executionCount := v },
    .optional "is_active" Shape.bool fun v t => { t with isActive := v }]

def toJson (t : TimerStatus) : Json :=
  let stamp (m : Time.Moment) : Json := .str m.utcText
  .obj [
    ("timer_id", .str t.timerId),
    ("status", .str t.state.name),
    ("next_execution", .ofOption stamp t.nextExecution),
    ("last_execution", .ofOption stamp t.lastExecution),
    ("execution_count", .ofNat t.executionCount),
    ("is_active", .bool t.isActive)]

end TimerStatus

inductive TimerCommand where
  | start
  | stop
  | trigger
deriving DecidableEq, Repr

namespace TimerCommand

def all : List TimerCommand := [.start, .stop, .trigger]

def name : TimerCommand → String
  | .start => "start"
  | .stop => "stop"
  | .trigger => "trigger"

-- The status that is assumed once a command was accepted, until the next one is known.
def assume (c : TimerCommand) (t : TimerStatus) : TimerStatus :=
  match c with
  | .start => { t with isActive := true }
  | .stop => { t with isActive := false }
  | .trigger => t

end TimerCommand

end NodeEditor
