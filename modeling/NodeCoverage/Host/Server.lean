import NodeCoverage.Config.Settings
import NodeCoverage.Host.Supervision
import NodeCoverage.Http.Router

/-!
# The server

Binding the address of the service, and a whole run: the companion is launched, requests are
answered one after another, and the run ends by a shutdown or because of the companion. The order
of events in a run is fixed here; that they can come in any order is told by the step relation of
which these runs are some.

What the server writes into its log about its own run is left out, and so are errors of accepting
connections, after which serving goes on.
-/

namespace NodeCoverage.Host

/-- Why a server could not be bound. -/
inductive BindError where
  | settings (e : SettingsError)
  | address (text : String) (why : ListenFailure)
  deriving DecidableEq, Repr

/-- The text of the error. -/
def BindError.message : BindError → String
  | .settings e => e.message
  | .address text (.refused why) => s!"Failed to bind observer service to {text}: {why.message}"
  | .address _ (.unaddressed why) => why.message

/-- A server that is bound to its address. -/
structure Server where
  address : Address
  service : Service
  proxy : Option ProxySettings

namespace Server

/-- The URL of the service, which the companion forwards to. -/
def url (s : Server) : String :=
  "http://" ++ s.address.render

/-- Binds a server. -/
def bind (env : Environment) (s : Settings) (observer : Observer) : Except BindError Server :=
  match s.validate with
  | .error e => .error (.settings e)
  | .ok () =>
    match env.listen s.service.listenAddr with
    | .error why => .error (.address s.service.listenAddr why)
    | .ok address =>
      .ok {
        address := address
        service := .ofTracker { primaryId := s.service.primaryId, observer := observer }
        proxy := s.proxy }

/-- Launches the companion, if there is one. -/
def launch (s : Server) (env : Environment) : Except CompanionError (Option Launch) :=
  match s.proxy with
  | none => .ok none
  | some p => (Host.launch env.start p s.url).map some

/-- Answers requests one after another, and gives the service after them. -/
def answer (service : Service) : List Http.RawRequest → List (Answer Http.Response) × Service
  | [] => ([], service)
  | r :: rest =>
    let first := Http.handleRaw service r
    let (answers, service) := answer first.state rest
    (first.answer :: answers, service)

end Server

/-- What a whole run leaves behind. -/
structure Session where
  responses : List (Answer Http.Response)
  /-- The companion that was launched. -/
  launched : Option Launch
  /-- How the run ended, or nothing if it goes on. -/
  result : Option (Except CompanionError Unit)
  /-- The companion as it is then. -/
  companion : Companion
  service : Service

/-- The events of a run: the requests, and then a shutdown if one is `requested`, or what the
companion does by itself. -/
def sessionEvents (requests : Nat) (requested : Bool) (launched : Option Launch) :
    List RunEvent :=
  (List.replicate requests [RunEvent.connected, .disconnected]).flatten ++
    if requested then [.shutdownRequested]
    else
      match launched.bind (·.ending) with
      | none => []
      | some status => [.companionExited status]

/-- Runs a server through requests. -/
def Server.run (s : Server) (env : Environment) (requests : List Http.RawRequest)
    (requested : Bool) : Session :=
  match s.launch env with
  | .error e => ⟨[], none, some (.error e), .absent, s.service⟩
  | .ok launched =>
    let (responses, service) := Server.answer s.service requests
    let companion := if launched.isSome then Companion.running else .absent
    let ended := (Running.start companion).play
      (sessionEvents requests.length requested launched)
    ⟨responses, launched, ended.map (·.result), (ended.map (·.companion)).getD companion, service⟩

end NodeCoverage.Host
