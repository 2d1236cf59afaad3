import NodeCoverage.Host.Companion

/-!
# Supervision

The run of a server next to its companion, as far as it depends on neither clock nor network.
Events come in any order; as soon as one of the two ways to end is open the run may take it, and
whichever it takes, no companion is left behind. Serving ends when a shutdown has been requested
and no connection is open any more; the companion ends a run by exiting.
-/

namespace NodeCoverage.Host

/-- The companion as its host sees it. -/
inductive Companion where
  /-- There is none. -/
  | absent
  | running
  /-- It has exited and nobody has taken its status yet. -/
  | exited (status : ExitStatus)
  /-- It is gone and its status has been taken. -/
  | reaped
  deriving DecidableEq, Repr

/-- What can happen during a run. -/
inductive RunEvent where
  | connected
  | disconnected
  | shutdownRequested
  | companionExited (status : ExitStatus)
  deriving DecidableEq, Repr

/-- A run that has not ended. -/
structure Running where
  companion : Companion
  /-- Whether a shutdown has been requested. -/
  stopping : Bool := false
  /-- The connections that are open. -/
  connections : Nat := 0
  /-- The connections there have been. -/
  served : Nat := 0
  deriving DecidableEq, Repr

/-- A way to end a run. -/
inductive Branch where
  /-- Serving is over. -/
  | served
  /-- The companion has exited. -/
  | companionExited (status : ExitStatus)
  deriving DecidableEq, Repr

/-- How a run ended, and the companion as it is then. -/
structure Ended where
  result : Except CompanionError Unit
  companion : Companion

namespace Running

/-- A run at its start. -/
def start (companion : Companion) : Running where
  companion := companion

/-- The run after an event, or nothing if the event cannot happen: once a shutdown is requested
nobody connects any more, and only a companion that runs can exit. -/
def after? (r : Running) : RunEvent → Option Running
  | .connected =>
    if r.stopping then none
    else some { r with connections := r.connections + 1, served := r.served + 1 }
  | .disconnected =>
    if r.connections = 0 then none else some { r with connections := r.connections - 1 }
  | .shutdownRequested => some { r with stopping := true }
  | .companionExited status =>
    match r.companion with
    | .running => some { r with companion := .exited status }
    | _ => none

/-- Whether serving is over. -/
def drained (r : Running) : Bool :=
  r.stopping && r.connections == 0

/-- The ways to end that are open. -/
def ready (r : Running) : List Branch :=
  (if r.drained then [.served] else []) ++
    match r.companion with
    | .exited status => [.companionExited status]
    | _ => []

/-- Ends the run one way. A companion that still runs is killed, and its status is taken. -/
def finish (r : Running) (b : Branch) : Ended where
  result :=
    match b with
    | .served => .ok ()
    | .companionExited status => .error (.exited status)
  companion :=
    match r.companion with
    | .absent => .absent
    | _ => .reaped

/-- Goes through events until a way to end is open, and takes the first. -/
def play (r : Running) (events : List RunEvent) : Option Ended :=
  match r.ready, events with
  | b :: _, _ => some (r.finish b)
  | [], [] => none
  | [], e :: rest => (r.after? e).bind (·.play rest)
termination_by events.length

end Running

end NodeCoverage.Host
