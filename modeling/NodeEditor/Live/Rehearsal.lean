import NodeEditor.Live.Session

/-!
Rehearsals: a session played against a script instead of a backend. The script has the answers to
calls, in the order in which the calls of one name are made. A cue with a gate holds its answer back
until the gate is opened; meanwhile anything else may happen to the session.
-/

namespace NodeEditor

-- The answer to the next call of a name: a failure, a body, or nothing in particular.
structure Cue where
  call : String
  fails : Bool
  body : Option Json
  gate : Option String

namespace Cue

-- The cue for a call that the script does not foresee.
def plain (call : String) : Cue :=
  { call := call, fails := false, body := none, gate := none }

-- Reads the answer of a cue. A body that cannot be read is a failure too.
def read {α : Type} (cue : Cue) (absent : α) (body : Json → Except String α) :
    Except TransportError α :=
  if cue.fails then .error (.timeout cue.call)
  else
    match cue.body with
    | none => .ok absent
    | some j =>
      match body j with
      | .ok a => .ok a
      | .error reason => .error (.decode cue.call reason)

def answer (cue : Cue) (w : Wait) : Except TransportError w.Reply :=
  cue.read w.plainReply fun j =>
    match w.readReply j with
    | .ok reply => .ok reply
    | .error e => .error e.message

-- The catalog that the backend has, if its answer is the given one by default.
def catalog (cue : Cue) (absent : Catalog) : Except TransportError Catalog :=
  cue.read absent fun j =>
    match Catalog.ofJson j with
    | .ok c => .ok c
    | .error e => .error e.message

end Cue

structure HeldAction where
  gate : String
  place : Nat
  wait : Wait
  cue : Cue
  task : Option String

-- A session under rehearsal. `endings` are those of the actions that were started as tasks;
-- `opened` are gates that were opened while nothing waited at them.
structure Rehearsal where
  session : Session
  now : Time.Moment
  script : List Cue
  calls : List Call
  posted : List Notification
  held : List HeldAction
  opened : List String
  endings : List (String × Ending)

namespace Rehearsal

def start (session : Session) (now : Time.Moment) (script : List Cue) : Rehearsal where
  session := session
  now := now
  script := script
  calls := []
  posted := []
  held := []
  opened := []
  endings := []

-- Takes the first cue for a call out of the script.
def takeCue (r : Rehearsal) (call : String) : Cue × Rehearsal :=
  match r.script.find? (·.call = call) with
  | some cue => (cue, { r with script := r.script.eraseP (·.call = call) })
  | none => (.plain call, r)

-- Goes through the gate of a cue, if there is none or it was opened; then it closes again.
def pass? (r : Rehearsal) (cue : Cue) : Option Rehearsal :=
  match cue.gate with
  | none => some r
  | some gate =>
    if r.opened.contains gate then some { r with opened := r.opened.erase gate } else none

def absorb (r : Rehearsal) (place : Nat) (s : Stretch) : Rehearsal :=
  { r with session := r.session.put place s.controller, posted := r.posted ++ s.posted }

def arrival (r : Rehearsal) (c : Controller) (w : Wait) (cue : Cue) : Stretch :=
  c.resume (r.session.surroundings r.now) w (cue.answer w)

-- The calls that an action makes at most: a command, and the status after it.
def callLimit : Nat := 2

-- Carries an action on from a stretch until it ends or is held back.
def carryOn (place : Nat) (task : Option String) :
    Nat → Rehearsal → Stretch → Option Ending × Rehearsal
  | fuel, r, s =>
    let r := r.absorb place s
    match s.progress with
    | .ended e => (some e, r)
    | .waiting w =>
      let call := w.call s.controller.node
      let (cue, r) := r.takeCue call.name
      let r := { r with calls := r.calls ++ [call] }
      match r.pass? cue, fuel with
      | some r, fuel + 1 => carryOn place task fuel r (r.arrival s.controller w cue)
      | _, _ =>
        let held : HeldAction :=
          { gate := cue.gate.getD "", place := place, wait := w, cue := cue, task := task }
        (none, { r with held := r.held ++ [held] })

-- Plays an action from its first stretch. A task leaves its ending behind.
def play (r : Rehearsal) (place : Nat) (task : Option String) (s : Stretch) :
    Option Ending × Rehearsal :=
  let (ending, r) := carryOn place task callLimit r s
  match task, ending with
  | some name, some e =>
    (ending, { r with endings := (name, e) :: r.endings.filter (·.1 ≠ name) })
  | _, _ => (ending, r)

-- Opens a gate: the first action that is held back at it goes on.
def release (r : Rehearsal) (gate : String) : Rehearsal :=
  match r.held.find? (·.gate = gate) with
  | none => { r with opened := gate :: r.opened }
  | some h =>
    let r := { r with held := r.held.eraseP (·.gate = gate) }
    match r.session.handed[h.place]? with
    | none => r
    | some c => (r.play h.place h.task (r.arrival c h.wait h.cue)).2

end Rehearsal

end NodeEditor
