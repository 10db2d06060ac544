import NodeEditor.Time.Moment

/-!
Clocks: a countdown to a moment and a ticker with a fixed period. Times of the clock are nanoseconds
since it was started.
-/

namespace NodeEditor

def nanosPerMilli : Nat := 1000000

structure Countdown where
  deadline : Nat
deriving DecidableEq, Repr

namespace Countdown

-- The countdown to a moment, which is as far away as from `now`; a moment in the past is now.
def towards (next now : Time.Moment) (clock : Nat) : Countdown :=
  { deadline := clock + (next.nanosSince now).toNat }

-- The seconds left, to the nearest; what is left is counted in whole milliseconds.
def remaining (c : Countdown) (clock : Nat) : Nat :=
  ((c.deadline - clock) / nanosPerMilli + 500) / 1000

end Countdown

-- A ticker: when it ticks next, and how long it then waits. A finished one ticks no more.
structure Ticker where
  next : Nat
  period : Nat
  finished : Bool
deriving DecidableEq, Repr

namespace Ticker

def start (period clock : Nat) : Ticker :=
  { next := clock + period, period := period, finished := false }

def due (t : Ticker) (clock : Nat) : List Nat :=
  if t.finished || clock < t.next then []
  else (List.range ((clock - t.next) / t.period + 1)).map fun i => t.next + i * t.period

variable {σ : Type}

def tick (f : Nat → σ → Bool × σ) (state : Ticker × σ) (time : Nat) : Ticker × σ :=
  let (t, s) := state
  if t.finished then (t, s)
  else
    let (goOn, s) := f time s
    ({ t with next := time + t.period, finished := !goOn }, s)

def run (f : Nat → σ → Bool × σ) (t : Ticker) (s : σ) (clock : Nat) : Ticker × σ :=
  (t.due clock).foldl (tick f) (t, s)

end Ticker

end NodeEditor
