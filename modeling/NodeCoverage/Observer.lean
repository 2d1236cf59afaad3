import NodeCoverage.Progress

/-!
# Observers

An observer is told of progress and answers each time: it accepts, refuses with a reason, or
panics. What it answers may depend on everything it was told before, so an observer is a rule from
that history to a reply, and a stateful sink is one of these.
-/

namespace NodeCoverage

/-- What an observer makes of one notification. -/
inductive Reply where
  /-- The notification was taken; `logged` is what the observer logged about it. -/
  | accepted (logged : List Event)
  /-- The sink could not take the notification. -/
  | refused (reason : String)
  /-- The observer gave up without an answer. -/
  | panicked (message : String)

/-- A sink for progress, with the name it has in log events. -/
structure Observer where
  name : String
  /-- The reply to a notification, given the earlier ones, latest first. -/
  reply : List Progress → Progress → Reply

namespace Observer

/-- Discards every notification. -/
def silent : Observer where
  name := "NoOpObserver"
  reply _ _ := .accepted []

/-- Logs every notification as an event. -/
def logging : Observer where
  name := "LogObserver"
  reply _ p := .accepted [p.event]

/-- Takes every notification; what it was told is the tracker's history. -/
def recording : Observer where
  name := "RecordingObserver"
  reply _ _ := .accepted []

/-- Refuses every notification. -/
def failing : Observer where
  name := "FailingObserver"
  reply _ _ := .refused "sink unavailable"

/-- Panics on every notification. -/
def panicking : Observer where
  name := "PanickingObserver"
  reply _ _ := .panicked "sink blew up"

/-- An observer that answers every notification, whatever came before. -/
def NeverPanics (o : Observer) : Prop :=
  ∀ earlier p message, o.reply earlier p ≠ .panicked message

end Observer

end NodeCoverage
