import NodeCoverage.CommandLine.Invocation
import NodeCoverage.Proofs.Files
import NodeCoverage.Proofs.Lifetime
import NodeCoverage.Proofs.Overrides

/-!
# What the host launches

The way from a command line to a companion: the settings are chosen, overridden and checked, a
runtime is made, the address is bound, and the run of the server launches the companion. What the
system does on the way is whatever its environment says: which files there are, whether there is a
runtime, what comes of listening and what comes of starting a process. Several refusals that come
late can never come, since something earlier has refused already.

Results:
* `Server.launching`: what the launch of a bound server comes to, with a proxy or without one;
* `Server.run_follows`, `Runs.follows`: a server that is run, and any of its runs that has begun,
  has launched what the launch gives, or has ended with its error;
* `Settings.choose_eq_ok_iff`: which file the settings come from;
* `CommandLine.invoke_of_not_effective`, `CommandLine.invoke_reaches`: how far the host gets with a
  command line;
* `CommandLine.Reaches.exists_bind_eq`: where it gets as far as a run, which server is run;
* **`what_the_host_launches`**.
-/

namespace NodeCoverage

namespace Host

/-! ## Launching -/

/-- The order is for a proxy that forwards to a URL: the command of the proxy with the two addresses
behind it, in the directory of the proxy. -/
structure Order.IsFor (o : Order) (p : ProxySettings) (url : String) : Prop where
  words : o.words = p.command ++ ["--listen_addr", p.listenAddr, "--observer_url", url]
  directory : o.directory = p.workingDir

/-- **What launching comes to** with a proxy, or without one, if the service is at a URL. -/
inductive Launching (env : Environment) (url : String) :
    Option ProxySettings → Except CompanionError (Option Launch) → Prop
  /-- Without a proxy nothing is launched. -/
  | alone : Launching env url none (.ok none)
  /-- The system starts what it is asked to start. -/
  | started {p : ProxySettings} {o : Order} {ending : Option ExitStatus} :
      o.IsFor p url → env.start o = .ok ending →
      Launching env url (some p) (.ok (some ⟨o, ending⟩))
  /-- The system refuses to start it. -/
  | refused {p : ProxySettings} {o : Order} {why : Refusal} :
      o.IsFor p url → env.start o = .error why →
      Launching env url (some p) (.error (.spawn p.command why))

/-- What a session shows of the launch at its start: it is the one that was launched, and what is
an error after that is the exit of the companion by itself; or it failed, which ended the run. -/
inductive Session.Follows (session : Session) : Except CompanionError (Option Launch) → Prop
  | launched {l : Option Launch} :
      session.launched = l →
      (∀ e, session.result = some (.error e) →
        ∃ status, l.bind (·.ending) = some status ∧ e = .exited status) →
      session.Follows (.ok l)
  | refused {e : CompanionError} :
      session.launched = none → session.result = some (.error e) → session.Follows (.error e)

/-- What a run has done about the launch at its start: just that was launched, or nothing was and
the run has returned the error. -/
inductive Hosting.Follows (h : Hosting) (acts : List Act) :
    Except CompanionError (Option Launch) → Prop
  | launched {l : Option Launch} : (∀ l', .launched l' ∈ acts ↔ l' = l) → h.Follows acts (.ok l)
  | refused {e : CompanionError} :
      (∀ l, .launched l ∉ acts) → h.phase = .returned (.error e) → h.Follows acts (.error e)

section Bound

variable {env : Environment} {s : Settings} {observer : Observer} {server : Server}
  {outcome : Except CompanionError (Option Launch)} {session : Session} {url : String}
  {proxy : Option ProxySettings}

/-- **To launch a proxy** that has an executable is to give the system an order for it. -/
theorem launching_of_launch {p : ProxySettings} (hcommand : p.command ≠ []) :
    Launching env url (some p) ((launch env.start p url).map some) := by
  unfold launch
  cases hp : p.command with
  | nil => exact absurd hp hcommand
  | cons executable rest =>
    dsimp only
    have hfor : Order.IsFor ⟨executable, arguments p url, p.workingDir⟩ p url :=
      ⟨by rw [Order.words, arguments, hp]; rfl, rfl⟩
    cases hstart : env.start ⟨executable, arguments p url, p.workingDir⟩ with
    | error why => exact hp ▸ .refused hfor hstart
    | ok ending => exact .started hfor hstart

theorem Server.bind_eq_ok_iff :
    Server.bind env s observer = .ok server ↔
      s.validate = .ok () ∧ ∃ address, env.listen s.service.listenAddr = .ok address ∧
        server = ⟨address, .ofTracker { primaryId := s.service.primaryId, observer := observer },
          s.proxy⟩ := by
  unfold Server.bind
  cases s.validate with
  | error e => simp
  | ok _ => cases env.listen s.service.listenAddr <;> simp [eq_comm]

/-- **What launching the companion of a bound server comes to**: that the settings were sound
leaves no way for its command to be empty. -/
theorem Server.launching (hbind : Server.bind env s observer = .ok server) :
    Launching env server.url s.proxy (server.launch env) := by
  obtain ⟨hvalid, address, -, rfl⟩ := Server.bind_eq_ok_iff.mp hbind
  unfold Server.launch
  cases hp : s.proxy with
  | none => exact .alone
  | some p => exact launching_of_launch ((Settings.validate_eq_ok_iff.mp hvalid).2 p hp)

/-! ## What follows a launch -/

/-- **A server that is run** has launched what its launch gives, or has ended with its error. -/
theorem Server.run_follows (server : Server) (env : Environment)
    (requests : List Http.RawRequest) (requested : Bool) :
    (server.run env requests requested).Follows (server.launch env) := by
  cases hlaunch : server.launch env with
  | error e =>
    rw [run_of_refused hlaunch]
    exact .refused rfl rfl
  | ok l =>
    cases requested with
    | true =>
      rw [run_of_requested hlaunch]
      exact .launched rfl nofun
    | false =>
      cases hending : l.bind (·.ending) with
      | none =>
        rw [run_of_endless hlaunch hending]
        exact .launched rfl nofun
      | some status =>
        obtain ⟨launch, rfl, hstatus⟩ := Option.bind_eq_some_iff.mp hending
        rw [run_of_exit hlaunch hstatus]
        exact .launched rfl fun e he =>
          ⟨status, hending, (Except.error.inj (Option.some.inj he)).symm⟩

/-- **A run that has begun** has launched what the launch gives, or has returned its error. -/
theorem Runs.follows {acts : List Act} {t : Hosting} (hruns : Runs server env acts t)
    (hbegun : t.phase ≠ .starting) : t.Follows acts (server.launch env) := by
  have attended (hattended : Attended server env acts t) :
      t.Follows acts (server.launch env) := by
    obtain ⟨l, hlaunch, -⟩ := id hattended
    rw [hlaunch]
    exact .launched (hruns.launched_mem_iff hattended hlaunch)
  have haccounts := hruns.accounted.phase
  cases hphase : t.phase with
  | starting => exact absurd hphase hbegun
  | returned result =>
    rcases hruns.returned hphase with ⟨hattended, -⟩ | ⟨hfresh, e, rfl, hlaunch⟩
    · exact attended hattended
    · rw [hlaunch]
      exact .refused hfresh.launched hphase
  | _ => rw [hphase] at haccounts; exact attended haccounts.1

theorem Launching.ne_emptyCommand (hlaunching : Launching env url proxy outcome) :
    outcome ≠ .error .emptyCommand := by
  cases hlaunching <;> nofun

theorem Session.Follows.ne_emptyCommand (hfollows : session.Follows outcome)
    (hlaunching : Launching env url proxy outcome) :
    session.result ≠ some (.error .emptyCommand) := by
  intro hresult
  cases hfollows with
  | launched hlaunched hexited =>
    obtain ⟨status, -, hstatus⟩ := hexited _ hresult
    cases hstatus
  | refused hnone hrefused =>
    cases hrefused.symm.trans hresult
    exact hlaunching.ne_emptyCommand rfl

/-- **The system is asked to start a companion** just if there is a proxy: it starts one, or the run
ends because it could not. -/
theorem Session.Follows.asked_iff (hfollows : session.Follows outcome)
    (hlaunching : Launching env url proxy outcome) :
    ((∃ l, session.launched = some l) ∨
        ∃ command why, session.result = some (.error (.spawn command why))) ↔
      proxy ≠ none := by
  cases hlaunching with
  | alone =>
    cases hfollows with
    | launched hlaunched hexited =>
      refine iff_of_false ?_ (not_not_intro rfl)
      rintro (⟨l, hl⟩ | ⟨command, why, hspawn⟩)
      · cases hlaunched.symm.trans hl
      · obtain ⟨status, -, hstatus⟩ := hexited _ hspawn
        cases hstatus
  | started =>
    cases hfollows with
    | launched hlaunched hexited => exact iff_of_true (.inl ⟨_, hlaunched⟩) nofun
  | refused =>
    cases hfollows with
    | refused hnone hspawn => exact iff_of_true (.inr ⟨_, _, hspawn⟩) nofun

/-- **A run of a bound server** never finds the command of the companion empty. -/
theorem Runs.ne_emptyCommand (hbind : Server.bind env s observer = .ok server)
    {acts : List Act} {t : Hosting} (hruns : Runs server env acts t) :
    t.phase ≠ .returned (.error .emptyCommand) := by
  intro hphase
  rcases hruns.returned hphase with ⟨-, hjustified, -⟩ | ⟨-, e, heq, hlaunch⟩
  · exact hjustified
  · cases heq
    exact (Server.launching hbind).ne_emptyCommand hlaunch

end Bound

end Host

/-! ## The settings -/

namespace Settings

/-- Where settings come from, before the command line has its say. -/
inductive Chosen (files : Host.Files) : Option String → Settings → Prop
  /-- The file that is named. -/
  | named {path text : String} {c : Settings} :
      readTextFile files path = .ok text → ofToml text = .ok c → Chosen files (some path) c
  /-- The usual file, which is there. -/
  | usual {text : String} {c : Settings} :
      files.contains "covwatch.toml" = true → readTextFile files "covwatch.toml" = .ok text →
      ofToml text = .ok c → Chosen files none c
  /-- Nowhere: no file is named and the usual one is not there. -/
  | builtIn : files.contains "covwatch.toml" = false → Chosen files none builtIn

variable {files : Host.Files} {configFile : Option String} {c : Settings}

theorem load_eq_ok_iff {path : String} :
    load files path = .ok c ↔ ∃ text, readTextFile files path = .ok text ∧ ofToml text = .ok c := by
  unfold load
  cases readTextFile files path with
  | error e => simp
  | ok text => cases hparse : ofToml text <;> simp [hparse, Except.mapError]

theorem choose_eq_ok_iff : choose files configFile = .ok c ↔ Chosen files configFile c := by
  unfold choose
  cases configFile with
  | some path =>
    rw [load_eq_ok_iff]
    constructor
    · rintro ⟨text, hread, hparse⟩
      exact .named hread hparse
    · rintro (⟨hread, hparse⟩)
      exact ⟨_, hread, hparse⟩
  | none =>
    by_cases hthere : files.contains usualFile = true
    · rw [if_pos hthere, load_eq_ok_iff]
      constructor
      · rintro ⟨text, hread, hparse⟩
        exact .usual hthere hread hparse
      · intro hchosen
        cases hchosen with
        | usual _ hread hparse => exact ⟨_, hread, hparse⟩
        | builtIn hnone => exact absurd hthere (Bool.eq_false_iff.mp hnone)
    · rw [if_neg hthere, Except.ok.injEq]
      constructor
      · rintro rfl
        exact .builtIn (Bool.eq_false_iff.mpr hthere)
      · intro hchosen
        cases hchosen with
        | usual hsome _ _ => exact absurd hsome hthere
        | builtIn _ => rfl

end Settings

/-! ## The whole way -/

namespace CommandLine

open Host

variable {env : Environment} {requests : List Http.RawRequest} {requested : Bool}
  {arguments : List String} {s : Settings} {n : Nat}

/-- The settings that a command line leads to: those chosen, with what it says. -/
def Effective (files : Files) (arguments : List String) (s : Settings) : Prop :=
  ∃ given c, parse arguments = .ok given ∧ Settings.Chosen files given.configFile c ∧
    s = c.override given

theorem effective_eq_ok_iff {files : Files} {given : Arguments} :
    Settings.effective files given = .ok s ↔
      ∃ c, Settings.Chosen files given.configFile c ∧ s = c.override given := by
  unfold Settings.effective
  simp only [← Settings.choose_eq_ok_iff]
  cases Settings.choose files given.configFile with
  | error e => simp [Except.map]
  | ok c => simp [Except.map, eq_comm]

/-- **Without effective settings that are sound** the host ends, and what comes of making a runtime,
of listening and of starting a process does not matter. -/
theorem invoke_of_not_effective
    (h : ∀ s, Effective env.files arguments s → s.validate ≠ .ok ()) :
    ∃ e, ∀ env' : Environment, env'.files = env.files → ∀ requests requested,
      invoke env' requests requested arguments = .ended e := by
  cases hparse : parse arguments with
  | error stop =>
    cases stop <;> exact ⟨_, fun env' _ _ _ => by unfold invoke; rw [hparse]⟩
  | ok given =>
    cases heffective : Settings.effective env.files given with
    | error e =>
      refine ⟨.failing e.message, fun env' hfiles _ _ => ?_⟩
      simp only [invoke, hparse, hfiles, heffective]
    | ok s =>
      obtain ⟨c, hchosen, hs⟩ := effective_eq_ok_iff.mp heffective
      cases hvalid : s.validate with
      | error e =>
        refine ⟨.failing e.message, fun env' hfiles _ _ => ?_⟩
        simp only [invoke, hparse, hfiles, heffective, hvalid]
      | ok _ => exact absurd hvalid (h s ⟨given, c, hparse, hchosen, hs⟩)

/-- With a worker or more, what comes of making a runtime is up to the system. -/
theorem makeRuntime_of_workers (h : 1 ≤ n) : makeRuntime env n = env.runtime n :=
  if_neg (Nat.one_le_iff_ne_zero.mp h)

/-- **With effective settings that are sound** the host asks for a runtime with the workers that they
say. Without one it ends, and with one it serves. -/
theorem invoke_of_effective (h : Effective env.files arguments s) (hvalid : s.validate = .ok ()) :
    (∀ why, env.runtime s.service.workers = .error why →
      invoke env requests requested arguments = .stalled s.service.workers why) ∧
    (env.runtime s.service.workers = .ok () →
      invoke env requests requested arguments = serve env requests requested s) := by
  obtain ⟨given, c, hparse, hchosen, hs⟩ := h
  have heffective := effective_eq_ok_iff.mpr ⟨c, hchosen, hs⟩
  have hworkers := (Settings.validate_eq_ok_iff.mp hvalid).1
  constructor
  · intro why hruntime
    simp only [invoke, hparse, heffective, hvalid, makeRuntime_of_workers hworkers, hruntime]
  · intro hruntime
    simp only [invoke, hparse, heffective, hvalid, makeRuntime_of_workers hworkers, hruntime]

/-- Where nobody can listen the server is not bound. -/
theorem serve_of_refused (hvalid : s.validate = .ok ()) {why : ListenFailure}
    (hlisten : env.listen s.service.listenAddr = .error why) :
    serve env requests requested s =
      .unbound s.service.workers (.address s.service.listenAddr why) := by
  simp only [serve, Server.bind, hvalid, hlisten]

/-- A server that is bound is run. -/
theorem serve_of_bind {server : Server} (hbind : Server.bind env s .logging = .ok server) :
    serve env requests requested s =
      .hosted s.service.workers server (server.run env requests requested) := by
  simp only [serve, hbind]

/-- **How far the host gets** with a command line, in one of four ways: it ends before it makes a
runtime; there is no runtime; there is one and it cannot listen; or it has bound a server and run
it. -/
inductive Reaches (env : Environment) (requests : List Http.RawRequest) (requested : Bool)
    (arguments : List String) : Invocation → Prop
  | ended {e : Exit} : Reaches env requests requested arguments (.ended e)
  | stalled {s : Settings} {why : RuntimeFailure} :
      Effective env.files arguments s → s.validate = .ok () →
      env.runtime s.service.workers = .error why →
      Reaches env requests requested arguments (.stalled s.service.workers why)
  | unbound {s : Settings} {why : ListenFailure} :
      Effective env.files arguments s → s.validate = .ok () →
      env.listen s.service.listenAddr = .error why →
      Reaches env requests requested arguments
        (.unbound s.service.workers (.address s.service.listenAddr why))
  | hosted {s : Settings} {server : Server} :
      Effective env.files arguments s → Server.bind env s .logging = .ok server →
      Reaches env requests requested arguments
        (.hosted s.service.workers server (server.run env requests requested))

theorem invoke_reaches (env : Environment) (requests : List Http.RawRequest) (requested : Bool)
    (arguments : List String) :
    Reaches env requests requested arguments (invoke env requests requested arguments) := by
  by_cases h : ∃ s, Effective env.files arguments s ∧ s.validate = .ok ()
  · obtain ⟨s, heffective, hvalid⟩ := h
    obtain ⟨hstalled, hserves⟩ := invoke_of_effective heffective hvalid
    cases hruntime : env.runtime s.service.workers with
    | error why =>
      rw [hstalled why hruntime]
      exact .stalled heffective hvalid hruntime
    | ok _ =>
      rw [hserves hruntime]
      cases hlisten : env.listen s.service.listenAddr with
      | error why =>
        rw [serve_of_refused hvalid hlisten]
        exact .unbound heffective hvalid hlisten
      | ok address =>
        have hbind : Server.bind env s .logging = .ok _ :=
          Server.bind_eq_ok_iff.mpr ⟨hvalid, address, hlisten, rfl⟩
        rw [serve_of_bind hbind]
        exact .hosted heffective hbind
  · obtain ⟨e, hended⟩ := invoke_of_not_effective fun s hs hvalid => h ⟨s, hs, hvalid⟩
    rw [hended env rfl]
    exact .ended

namespace Reaches

/-- **A runtime** is only asked for with a worker or more. -/
theorem one_le {outcome : Invocation} (h : Reaches env requests requested arguments outcome)
    (hworkers : outcome.workers? = some n) : 1 ≤ n := by
  cases h with
  | ended => cases hworkers
  | stalled _ hvalid _ =>
    cases hworkers
    exact (Settings.validate_eq_ok_iff.mp hvalid).1
  | unbound _ hvalid _ =>
    cases hworkers
    exact (Settings.validate_eq_ok_iff.mp hvalid).1
  | hosted _ hbind =>
    cases hworkers
    exact (Settings.validate_eq_ok_iff.mp (Server.bind_eq_ok_iff.mp hbind).1).1

/-- **Where there is no runtime**, the system has refused it. -/
theorem runtime_eq {why : RuntimeFailure}
    (h : Reaches env requests requested arguments (.stalled n why)) : env.runtime n = .error why := by
  cases h with
  | stalled _ _ hruntime => exact hruntime

/-- **Where the server is not bound**, nobody could listen. -/
theorem exists_listen_eq {why : BindError}
    (h : Reaches env requests requested arguments (.unbound n why)) :
    ∃ text failure, env.listen text = .error failure ∧ why = .address text failure := by
  cases h with
  | unbound _ _ hlisten => exact ⟨_, _, hlisten, rfl⟩

/-- **Where the host comes to a run**, it is that of the server for the effective settings. -/
theorem exists_bind_eq {server : Server} {session : Session}
    (h : Reaches env requests requested arguments (.hosted n server session)) :
    ∃ s, Effective env.files arguments s ∧ s.service.workers = n ∧
      Server.bind env s .logging = .ok server ∧ session = server.run env requests requested := by
  cases h with
  | hosted heffective hbind => exact ⟨_, heffective, rfl, hbind, rfl⟩

end Reaches

/-- **Under effective settings that are sound** the host comes to a run if there is a runtime and
listening succeeds. -/
theorem exists_hosted (h : Effective env.files arguments s) (hvalid : s.validate = .ok ())
    (hruntime : env.runtime s.service.workers = .ok ()) {address : Address}
    (hlisten : env.listen s.service.listenAddr = .ok address) :
    ∃ server session, server.address = address ∧
      invoke env requests requested arguments = .hosted s.service.workers server session := by
  have hbind : Server.bind env s .logging = .ok _ :=
    Server.bind_eq_ok_iff.mpr ⟨hvalid, address, hlisten, rfl⟩
  exact ⟨_, _, rfl, ((invoke_of_effective h hvalid).2 hruntime).trans (serve_of_bind hbind)⟩

/-- **What the host launches**, for every command line, all files, and whatever comes of making a
runtime, of listening and of starting a process. If the command line is not accepted, the chosen
file cannot be read or parsed, or the settings with the overrides are not sound, the host ends, and
would have ended just so on a system with the same files that makes, binds and starts anything else:
it has made, bound and launched nothing. A runtime is only asked for with a worker or more, so where
there is none the system has refused it; where the server is not bound, listening was refused. Where
the host comes to a run, it is the run of the server that is bound with the effective settings,
which come from the file that is named, else from the usual one, else are the built-in ones: a proxy
that they have keeps its command but for the head, which the command line can replace, and its
directory. Under such settings it does come to a run if there is a runtime and listening succeeds.

Take any server that was bound, by the host or with any other settings. Launching its companion
comes to nothing without a proxy; with one the system is asked to start the words of its command
before the two addresses, that of the proxy and that of the server, in its directory, and it starts
that or refuses. When the server is run, that is what its session has launched or the error that it
has ended with; so the system is asked just if there is a proxy, and the command is never found
empty. So it is in every run of the step relation that has begun. -/
theorem what_the_host_launches (env : Environment) (requests : List Http.RawRequest)
    (requested : Bool) :
    (∀ arguments,
      let outcome := invoke env requests requested arguments
      ((∀ s, Effective env.files arguments s → s.validate ≠ .ok ()) →
        ∃ e, ∀ env' : Environment, env'.files = env.files → ∀ requests requested,
          invoke env' requests requested arguments = .ended e) ∧
      (∀ n, outcome.workers? = some n → 1 ≤ n) ∧
      (∀ n why, outcome = .stalled n why → env.runtime n = .error why) ∧
      (∀ n why, outcome = .unbound n why →
        ∃ text failure, env.listen text = .error failure ∧ why = .address text failure) ∧
      ∀ n server session, outcome = .hosted n server session →
        ∃ given c, parse arguments = .ok given ∧
          Settings.Chosen env.files given.configFile c ∧
          (c.override given).validate = .ok () ∧
          (c.override given).service.workers = n ∧
          env.listen (c.override given).service.listenAddr = .ok server.address ∧
          Server.bind env (c.override given) .logging = .ok server ∧
          session = server.run env requests requested ∧
          ∀ p, (c.override given).proxy = some p →
            let old : ProxySettings := c.proxy.getD {}
            p.command = (given.proxyCommand.map (· :: old.command.tail)).getD old.command ∧
            p.listenAddr = given.proxyListenAddr.getD old.listenAddr ∧
            p.workingDir = old.workingDir) ∧
    (∀ arguments s address, Effective env.files arguments s → s.validate = .ok () →
      env.runtime s.service.workers = .ok () → env.listen s.service.listenAddr = .ok address →
      ∃ server session, server.address = address ∧
        invoke env requests requested arguments = .hosted s.service.workers server session) ∧
    ∀ s observer server, Server.bind env s observer = .ok server →
      let session := server.run env requests requested
      Launching env ("http://" ++ server.address.render) s.proxy (server.launch env) ∧
      session.Follows (server.launch env) ∧
      (((∃ l, session.launched = some l) ∨
          ∃ command why, session.result = some (.error (.spawn command why))) ↔
        s.proxy ≠ none) ∧
      session.result ≠ some (.error .emptyCommand) ∧
      ∀ acts t, Runs server env acts t →
        (t.phase ≠ .starting → t.Follows acts (server.launch env)) ∧
        t.phase ≠ .returned (.error .emptyCommand) := by
  refine ⟨fun arguments => ?_,
    fun _ _ _ heffective hvalid hruntime => exists_hosted heffective hvalid hruntime,
    fun s observer server hbind => ?_⟩
  · have hreaches := invoke_reaches env requests requested arguments
    refine ⟨invoke_of_not_effective, fun _ => hreaches.one_le,
      fun _ _ heq => (heq ▸ hreaches).runtime_eq, fun _ _ heq => (heq ▸ hreaches).exists_listen_eq,
      fun n server session heq => ?_⟩
    obtain ⟨s, ⟨given, c, hparse, hchosen, rfl⟩, hn, hbind, hsession⟩ :=
      (heq ▸ hreaches).exists_bind_eq
    obtain ⟨hvalid, address, hlisten, hserver⟩ := Server.bind_eq_ok_iff.mp hbind
    refine ⟨given, c, hparse, hchosen, hvalid, hn, hserver ▸ hlisten, hbind, hsession,
      fun p hp => ?_⟩
    obtain rfl := Settings.eq_of_proxy_override hp
    exact ⟨ProxySettings.command_override _ given, rfl, rfl⟩
  · have hlaunching := Server.launching hbind
    have hfollows := server.run_follows env requests requested
    exact ⟨hlaunching, hfollows, hfollows.asked_iff hlaunching,
      hfollows.ne_emptyCommand hlaunching, fun _ _ hruns =>
        ⟨hruns.follows, hruns.ne_emptyCommand hbind⟩⟩

/-- A file that is named, and an executable in the place of its own: the other argument stays. -/
theorem what_the_host_launches_replaced :
    let env : Environment := {
      files := {
        read := fun path =>
          if path = "c" then .ok "[proxy]\ncommand=[\"p\",\"-v\"]".toUTF8.toList
          else .error ⟨"no file"⟩
        contains := (· = "c") }
      runtime := fun _ => .ok ()
      listen := fun _ => .ok ⟨"127.0.0.1", 4000⟩
      start := fun _ => .ok (some (.code 3)) }
    ∃ server session l,
      invoke env [] false ["-cc", "--proxy-command", "q"] = .hosted 4 server session ∧
      session.launched = some l ∧
      l.order.words = ["q", "-v", "--listen_addr", "[::1]:2501",
        "--observer_url", "http://127.0.0.1:4000"] ∧
      l.order.directory = none := by
  intro env
  let c : Settings := { proxy := some { command := ["p", "-v"] } }
  have hparse : parse ["-cc", "--proxy-command", "q"] =
      .ok { configFile := some "c", proxyCommand := some "q" } := by cbv
  have hread : readTextFile env.files "c" = .ok "[proxy]\ncommand=[\"p\",\"-v\"]" := by cbv
  have hheader : Toml.Line "[proxy]\ncommand=[\"p\",\"-v\"]".toList
      (some (.header (.table ["proxy"]))) "\ncommand=[\"p\",\"-v\"]".toList :=
    .header .nil (.word (k := "proxy".toList) (List.cons_ne_nil _ _) rfl) .nil
  have hp : Toml.Chars "p\",\"-v\"]".toList ['p'] ",\"-v\"]".toList :=
    .plain rfl (by decide) (by decide) .close
  have hv : Toml.Chars "-v\"]".toList ['-', 'v'] "]".toList :=
    .plain rfl (by decide) (by decide) (.plain rfl (by decide) (by decide) .close)
  have hcommand : Toml.Line "command=[\"p\",\"-v\"]".toList
      (some (.assignment ["command"] (.list [.text "p", .text "-v"]))) [] :=
    .entry (.word (k := "command".toList) (List.cons_ne_nil _ _) rfl) .nil
      (.list (.next (.blanks .nil) hp (.blanks .nil)
        (.last (.blanks .nil) hv (.blanks .nil)))) .nil
  have hdocument : Toml.Document "[proxy]\ncommand=[\"p\",\"-v\"]".toList
      (Toml.statementsOf [("proxy", [("command", .list [.text "p", .text "-v"])])]) :=
    .intro (.cons hheader .absent .feed .nil) hcommand .absent
  let g : FileEntries := {
    service := none
    proxy := some { command := some ["p", "-v"], listenAddr := none, workingDir := none } }
  have hsettings : Settings.ofToml "[proxy]\ncommand=[\"p\",\"-v\"]" = .ok c :=
    Settings.ofToml_eq (g := g) ⟨_, _, .absent, .present (.refl _), .inl rfl⟩ .absent hdocument
  have hchosen : Settings.Chosen env.files (some "c") c := .named hread hsettings
  obtain ⟨hall, hruns, hlaunches⟩ := what_the_host_launches env [] false
  obtain ⟨server, session, haddress, hhosted⟩ :=
    hruns _ _ _ ⟨_, c, hparse, hchosen, rfl⟩ rfl rfl rfl
  obtain ⟨-, -, -, -, hhosts⟩ := hall ["-cc", "--proxy-command", "q"]
  obtain ⟨given, c', hgiven, hchosen', -, -, -, hbind, rfl, -⟩ := hhosts _ _ _ hhosted
  cases hparse.symm.trans hgiven
  obtain rfl : c' = c := Except.ok.inj ((Settings.choose_eq_ok_iff.mpr hchosen').symm.trans
    (Settings.choose_eq_ok_iff.mpr hchosen))
  obtain ⟨hlaunching, hfollows, -⟩ := hlaunches _ _ _ hbind
  generalize server.launch env = outcome at hlaunching hfollows
  cases hlaunching with
  | started hfor hstart =>
    cases hfollows with
    | launched hlaunched _ =>
      exact ⟨server, _, _, hhosted, hlaunched, by rw [hfor.words, haddress]; rfl, hfor.directory⟩
  | refused hfor hstart => cases hstart

end CommandLine

end NodeCoverage
