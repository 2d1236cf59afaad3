import NodeCoverage.Tracker

/-!
# Settings

What the host runs with: where the service listens, and how the companion proxy is launched, if
there is one.
-/

namespace NodeCoverage

/-- The settings of the service. -/
structure ServiceSettings where
  listenAddr : String := "[::1]:2573"
  workers : Nat := 4
  primaryId : UInt64 := defaultPrimaryId
  deriving DecidableEq, Repr, Inhabited

/-- How to launch the companion proxy: its command line, the address it listens on, and the
directory it runs in. -/
structure ProxySettings where
  command : List String := ["target/release/observer_proxy"]
  listenAddr : String := "[::1]:2501"
  workingDir : Option String := none
  deriving DecidableEq, Repr, Inhabited

/-- All settings. Without a proxy the service runs alone. -/
structure Settings where
  service : ServiceSettings := {}
  proxy : Option ProxySettings := none
  deriving DecidableEq, Repr, Inhabited

/-- Why the host cannot run with some settings. -/
inductive SettingsError where
  | noWorkers
  | noExecutable
  deriving DecidableEq, Repr

/-- The text of the error. -/
def SettingsError.message : SettingsError → String
  | .noWorkers => "service.workers must be at least 1"
  | .noExecutable => "proxy.command must name an executable"

namespace Settings

/-- The settings of a host that is given none. -/
def builtIn : Settings where
  proxy := some {}

/-- Checks that the host can run with the settings. -/
def validate (s : Settings) : Except SettingsError Unit :=
  if s.service.workers = 0 then .error .noWorkers
  else if s.proxy.any (·.command.isEmpty) then .error .noExecutable
  else .ok ()

end Settings

end NodeCoverage
