import NodeCoverage.Simulator.Shell.State

/-!
# Jobs

Commands in the background. A job has a state of its own and a time that it has got to; it goes on
command by command, while the shell waits or when the time of the shell has passed it.
-/

namespace NodeCoverage.Simulator.Shell

namespace State

/-- The number for a new job. That of one that has ended and been waited for is free again. -/
def claimNumber (st : State) : State × Nat :=
  let isFree := fun (n : Nat) => (st.jobs.find? fun j => j.number = n).all fun j => j.waited
  let n := ((List.range (st.jobs.length + 1)).map (· + 1)).find? isFree
  let n := n.getD (st.jobs.length + 1)
  ({ st with jobs := st.jobs.filter fun j => j.number ≠ n }, n)

/-- Puts a command into the background. It reads nothing. -/
def putBack (st : State) (c : Command) : State :=
  let (st, n) := st.claimNumber
  let inner := { st.split.connect 0 0 with deaf := [2, 3] ++ st.deaf }
  let rest :=
    match c with
    | .subshell body | .group body => body
    | c => [c]
  let stages :=
    match c with
    | .pipeline stages => stages.length
    | _ => 1
  let job : Job := {
    number := n
    process := inner.current
    interior := inner.toInterior
    working := st.files.working
    time := st.files.now
    rest := rest
    stages := stages }
  { st with
    processes := inner.processes
    jobs := st.jobs ++ [job]
    background := some inner.current
    status := 0 }

/-- Takes note of the jobs that have ended, as a shell that waits does. Their processes are gone
then. -/
def collect (st : State) : State :=
  { st with jobs := st.jobs.map fun j => { j with gone := j.gone || j.status.isSome } }

/-- The state in which a job goes on. -/
def enterJob (st : State) (j : Job) : State :=
  { st with
    toInterior := j.interior
    files := { st.files with working := j.working, now := j.time }
    jobs := []
    asleep := none
    killed := none
    flow := .next }

/-- Goes on after a step of a job. -/
def leaveJob (st : State) (j : Job) (after : State) (rest : List Command) : State :=
  let ended := rest.isEmpty || !after.goesOn
  let job : Job := { j with
    interior := after.toInterior
    working := after.files.working
    time := after.files.now
    rest := if ended then [] else rest
    status := if ended then some (after.status % 256) else none
    signal := after.killed
    gone := ended }
  let children := (after.jobs.filter fun k => k.status.isNone).map fun k => { k with number := 0 }
  let st : State := { st with
    files := { after.files with working := st.files.working, now := st.files.now }
    streams := after.streams
    processes := after.processes
    signals := after.signals
    jobs := (st.jobs.map fun k => if k.process = j.process then job else k) ++ children
    flow := if after.flow = .endless then .endless else st.flow }
  (if ended then st.childEnded else st).takeSignals

/-- Lets the time of a shell go on to that of a job. -/
def reach (st : State) (time : Nat) : State :=
  { st with files := { st.files with now := max st.files.now time } }

/-- Whether a job still runs. -/
def isRunning (st : State) (process : Nat) : Bool :=
  st.jobs.any fun j => j.process = process && j.status.isNone

end State

end NodeCoverage.Simulator.Shell
