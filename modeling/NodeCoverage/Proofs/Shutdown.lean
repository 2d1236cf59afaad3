import NodeCoverage.Proofs.Lifetime

/-!
# What a requested shutdown comes to

A shutdown that is requested lets open connections come to their end, and until then the exit of
the companion is waited for as before. So an exit in that time can still be what the run reports,
and nothing else can: an exit that comes later, when serving was found to be over, does not show.

Results:
* `Step.result?_eq_some`: where the result of a run comes from, one case per act;
* `Runs.chose`: a run with a result took a way to end when it served, by induction on its steps;
* `Chose.ok_or_exited`: what can come between the request for a shutdown and a good end;
* `Runs.exists_drained`: a run that is to shut down can be brought to a good end, by induction on
  the number of its connections;
* **`requested_shutdown_yields_only_to_exits`**: what a run returns after such a request.
-/

namespace NodeCoverage.Host

/-- What the run is going to return, once that is settled. -/
def Phase.result? : Phase → Option (Except CompanionError Unit)
  | .starting => none
  | .serving => none
  | .ending result => some result
  | .killing result => some result
  | .waiting result => some result
  | .returned result => some result

/-- The run took a way to end when it served, which was open then and gave the result. -/
inductive Chose (s : Server) (env : Environment) : List Act → Except CompanionError Unit → Prop
  | intro {chosen rest : List Act} {h : Hosting} {b : Branch} :
      Runs s env chosen h → h.phase = .serving → b ∈ h.running.ready →
      Chose s env (chosen ++ .selected b :: rest) (h.running.finish b).result

section Requested

variable {s : Server} {env : Environment} {acts before after : List Act} {a : Act}
  {h h' : Hosting} {l : Option Launch} {launch : Launch} {result : Except CompanionError Unit}

/-! ## Where a result comes from -/

/-- **A result** was there before the step, or it is that of the way to end that is taken, or of the
launch. -/
theorem Step.result?_eq_some (hstep : Step s env h a h')
    (hresult : h'.phase.result? = some result) :
    h.phase.result? = some result ∨
      (∃ b, a = .selected b ∧ h.phase = .serving ∧ b ∈ h.running.ready ∧
        result = (h.running.finish b).result) ∨
      ∃ e, a = .refused e ∧ s.launch env = .error e ∧ result = .error e := by
  cases hstep with
  | refused hphase hlaunch => exact .inr (.inr ⟨_, rfl, hlaunch, (Option.some.inj hresult).symm⟩)
  | launched => cases hresult
  | selected hphase hb =>
    exact .inr (.inl ⟨_, rfl, hphase, hb, (Option.some.inj hresult).symm⟩)
  | requestedEarly => exact .inl hresult
  | event => exact .inl hresult
  | answered => exact .inl hresult
  | unaccompanied hphase => exact .inl (by rw [hphase]; exact hresult)
  | foundGone hphase => exact .inl (by rw [hphase]; exact hresult)
  | foundRunning hphase => exact .inl (by rw [hphase]; exact hresult)
  | killed hphase => exact .inl (by rw [hphase]; exact hresult)
  | waited hphase => exact .inl (by rw [hphase]; exact hresult)

theorem Chose.mono (hchose : Chose s env acts result) : Chose s env (acts ++ [a]) result := by
  obtain ⟨hruns, hphase, hb⟩ := hchose
  rw [List.append_assoc]
  exact .intro hruns hphase hb

/-- **A run with a result** that could be launched has taken a way to end. -/
theorem Runs.chose (hruns : Runs s env acts h) (hlaunch : s.launch env = .ok l)
    (hresult : h.phase.result? = some result) : Chose s env acts result := by
  induction hruns with
  | start => cases hresult
  | step hbefore hstep ih =>
    rcases hstep.result?_eq_some hresult with
      hsame | ⟨b, rfl, hphase, hb, rfl⟩ | ⟨e, -, hrefused, -⟩
    · exact (ih hsame).mono
    · exact .intro hbefore hphase hb
    · cases hlaunch.symm.trans hrefused

/-- A run that could not be launched returns that. -/
theorem Runs.eq_of_launch_eq_error (hruns : Runs s env acts h) {e : CompanionError}
    (hlaunch : s.launch env = .error e) (hphase : h.phase = .returned result) :
    result = .error e := by
  rcases hruns.returned hphase with ⟨⟨l, hlaunched, -⟩, -⟩ | ⟨-, e', rfl, hrefused⟩
  · cases hlaunch.symm.trans hlaunched
  · exact congrArg Except.error (Except.error.inj (hrefused.symm.trans hlaunch))

/-! ## What comes between a request and a good end -/

/-- What is not found before some entry is found after it. -/
theorem exists_eq_append_of_notMem {α : Type} {x y : α} {l₁ l₂ m₁ m₂ : List α}
    (heq : l₁ ++ x :: l₂ = m₁ ++ y :: m₂) (hne : x ≠ y) (hy : y ∉ l₁) :
    ∃ mid, l₂ = mid ++ y :: m₂ := by
  rcases List.append_eq_append_iff.mp heq with ⟨mid, -, htail⟩ | ⟨mid, hhead, htail⟩
  · cases mid with
    | nil => exact absurd (List.cons.inj htail).1 hne
    | cons _ mid => exact ⟨mid, (List.cons.inj htail).2⟩
  · cases mid with
    | nil => exact absurd (List.cons.inj htail).1.symm hne
    | cons z mid =>
      obtain rfl : y = z := (List.cons.inj htail).1
      exact absurd (hhead ▸ List.mem_append_right _ List.mem_cons_self) hy

/-- **After a request** that the exit of the companion did not precede, the run ends well, or else
the companion exits and after that its exit is taken as the way to end. -/
theorem Chose.ok_or_exited
    (hchose : Chose s env (before ++ .event .shutdownRequested :: after) result)
    (hbefore : ∀ status, .event (.companionExited status) ∉ before) :
    result = .ok () ∨ ∃ (status : ExitStatus) (early late rest : List Act),
      result = .error (.exited status) ∧
      after = early ++ .event (.companionExited status) ::
        (late ++ .selected (.companionExited status) :: rest) := by
  generalize hacts : before ++ .event .shutdownRequested :: after = acts at hchose
  obtain ⟨hruns, hphase, hb⟩ := hchose
  rcases Running.mem_ready.mp hb with ⟨rfl, -⟩ | ⟨status, rfl, hexited⟩
  · exact .inl rfl
  · obtain ⟨early, late, rfl⟩ := List.append_of_mem (hruns.accounted.exited status hexited)
    rw [List.append_assoc, List.cons_append] at hacts
    obtain ⟨mid, hafter⟩ := exists_eq_append_of_notMem hacts nofun (hbefore status)
    exact .inr ⟨status, mid, late, _, rfl, hafter⟩

/-! ## Drained connections -/

theorem Step.stopping_iff (hstep : Step s env h a h') :
    h'.running.stopping = true ↔
      h.running.stopping = true ∨ a = .event .shutdownRequested := by
  cases hstep with
  | event hup hafter => simpa using (Running.after?_eq_some hafter).1
  | @selected b => cases b <;> simp [Running.taken, Running.withCompanion]
  | _ => simp [Running.withCompanion]

/-- A request for a shutdown is never taken back. -/
theorem Runs.stopping_of_mem (hruns : Runs s env acts h)
    (hmem : .event .shutdownRequested ∈ acts) : h.running.stopping = true := by
  induction hruns with
  | start => cases hmem
  | step _ hstep ih =>
    rw [hstep.stopping_iff]
    exact (List.mem_append.mp hmem).imp ih fun hnow => (List.mem_singleton.mp hnow).symm

/-- **A run that is to shut down** can be brought to a good end as long as it serves. -/
theorem Runs.exists_drained (hruns : Runs s env acts h) (hphase : h.phase = .serving)
    (hstopping : h.running.stopping = true) :
    ∃ acts' h', Closes s env acts h (.ok ()) acts' h' := by
  induction hconnections : h.running.connections generalizing acts h with
  | zero =>
    have hselected := hruns.step (.selected (b := .served) hphase
      (Running.mem_ready.mpr (.inl ⟨rfl, by simp [Running.drained, hstopping, hconnections]⟩)))
    obtain ⟨acts', h', hcloses⟩ := hselected.exists_returned rfl
    exact ⟨_, h', hcloses.prepend rfl rfl⟩
  | succ n ih =>
    -- A client leaves; nobody can come any more, but the run does not have to wait for that.
    have hgone := hruns.step (.event (by rw [hphase]; rfl)
      (Running.after?_disconnected (by rw [hconnections]; exact Nat.succ_ne_zero n)))
    obtain ⟨acts', h', hcloses⟩ := ih hgone hphase hstopping (by simp [hconnections])
    exact ⟨_, h', hcloses.prepend rfl rfl⟩

/-- A run whose result is settled can be brought to return it. -/
theorem Runs.exists_returned_of_result (hruns : Runs s env acts h)
    (hresult : h.phase.result? = some result) : ∃ acts' h', Closes s env acts h result acts' h' := by
  cases hphase : h.phase with
  | starting => rw [hphase] at hresult; cases hresult
  | serving => rw [hphase] at hresult; cases hresult
  | ending =>
    rw [hphase] at hresult
    cases hresult
    exact hruns.exists_returned hphase
  | killing =>
    rw [hphase] at hresult
    cases hresult
    obtain ⟨acts', h', hcloses⟩ := (hruns.step (.killed hphase)).exists_returned_of_waiting rfl
    exact ⟨_, h', hcloses.prepend rfl rfl⟩
  | waiting =>
    rw [hphase] at hresult
    cases hresult
    exact hruns.exists_returned_of_waiting hphase
  | returned =>
    rw [hphase] at hresult
    cases hresult
    exact ⟨[], h, by rwa [List.append_nil], hphase, rfl, rfl⟩

/-- **A run that is to shut down** can be brought to a good end in every phase, unless its result is
settled otherwise. -/
theorem Runs.exists_returned_ok (hruns : Runs s env acts h) (hlaunch : s.launch env = .ok l)
    (hstopping : h.running.stopping = true)
    (hok : ∀ result, h.phase.result? = some result → result = .ok ()) :
    ∃ acts' h', Closes s env acts h (.ok ()) acts' h' := by
  cases hresult : h.phase.result? with
  | some result =>
    obtain rfl := hok result hresult
    exact hruns.exists_returned_of_result hresult
  | none =>
    cases hphase : h.phase with
    | starting =>
      have hlaunched := hruns.step (.launched hphase hlaunch)
      obtain ⟨acts', h', hcloses⟩ := hlaunched.exists_drained rfl hstopping
      exact ⟨_, h', hcloses.prepend rfl rfl⟩
    | serving => exact hruns.exists_drained hphase hstopping
    | _ => rw [hphase] at hresult; cases hresult

/-! ## Requests that are overtaken -/

/-- A companion, a client, and then the request for a shutdown. -/
theorem exists_requested (hlaunch : s.launch env = .ok (some launch)) :
    ∃ h, Runs s env [.launched (some launch), .event .connected, .event .shutdownRequested] h ∧
      h.phase = .serving ∧ h.running.connections = 1 ∧ h.running.companion = .running := by
  have hstart : Runs s env [] _ := .start
  have hlaunched := hstart.step (.launched rfl hlaunch)
  have hconnected := hlaunched.step (.event rfl (Running.after?_connected rfl))
  exact ⟨_, hconnected.step (.event (e := .shutdownRequested) rfl rfl), rfl, rfl, rfl⟩

/-- **An exit while a client is still connected** is returned, whatever its status. -/
theorem exists_exited_while_draining (hlaunch : s.launch env = .ok (some launch))
    (status : ExitStatus) :
    ∃ h, Runs s env [.launched (some launch), .event .connected, .event .shutdownRequested,
        .event (.companionExited status), .selected (.companionExited status), .polled] h ∧
      h.phase = .returned (.error (.exited status)) := by
  obtain ⟨h, hrequested, hphase, -, hrunning⟩ := exists_requested hlaunch
  have hexited := hrequested.step
    (.event (by rw [hphase]; rfl) (Running.after?_companionExited hrunning status))
  have hselected := hexited.step (.selected (b := .companionExited status) hphase
    (Running.mem_ready.mpr (.inr ⟨status, rfl, rfl⟩)))
  exact ⟨_, hselected.step (.foundGone rfl (.inl rfl)), rfl⟩

/-- A failure to launch the companion is returned although a shutdown has been requested. -/
theorem exists_refused {e : CompanionError} (hlaunch : s.launch env = .error e) :
    ∃ h, Runs s env [.event .shutdownRequested, .refused e] h ∧ h.phase = .returned (.error e) := by
  have hstart : Runs s env [] _ := .start
  have hrequested := hstart.step (.requestedEarly rfl)
  exact ⟨_, hrequested.step (.refused rfl hlaunch), rfl⟩

/-! ## The server that is run -/

/-- A server that is run until a shutdown is requested returns well, if it could be launched. -/
theorem Server.result_run_of_requested (s : Server) (env : Environment)
    (requests : List Http.RawRequest) :
    (s.run env requests true).result = some ((s.launch env).map fun _ => ()) := by
  cases hlaunch : s.launch env with
  | error e => exact congrArg Session.result (run_of_refused hlaunch)
  | ok l => exact congrArg Session.result (run_of_requested hlaunch)

end Requested

/-- **A requested shutdown yields only to an exit while connections drain.** Take a run of a server
in which a shutdown is requested, and before that the companion does not exit. If the companion
cannot be launched, that is what the run returns. Otherwise it returns well, or it returns the exit
of the companion with some status, and then the companion has exited with that status after the
request, and its exit was taken as the way to end after that; an exit that comes when serving has
been taken as the way to end does not show. As long as no exit is taken, the run can be brought to
a good end, with what was answered so far. A server that is run through requests and then shut down
returns well, if it could be launched. -/
theorem requested_shutdown_yields_only_to_exits (s : Server) (env : Environment) :
    (∀ (before after : List Act) (h : Hosting),
      Runs s env (before ++ .event .shutdownRequested :: after) h →
      (∀ status, .event (.companionExited status) ∉ before) →
      (∀ e, s.launch env = .error e → ∀ result, h.phase = .returned result → result = .error e) ∧
      ∀ l, s.launch env = .ok l →
        (∀ result, h.phase = .returned result →
          result = .ok () ∨ ∃ (status : ExitStatus) (early late rest : List Act),
            result = .error (.exited status) ∧
            after = early ++ .event (.companionExited status) ::
              (late ++ .selected (.companionExited status) :: rest)) ∧
        ((∀ status, .selected (.companionExited status) ∉ after) →
          ∃ acts' h', Closes s env (before ++ .event .shutdownRequested :: after) h (.ok ())
            acts' h')) ∧
    ∀ requests, (s.run env requests true).result = some ((s.launch env).map fun _ => ()) := by
  refine ⟨fun before after h hruns hbefore => ?_, Server.result_run_of_requested s env⟩
  refine ⟨fun e hlaunch result => hruns.eq_of_launch_eq_error hlaunch, fun l hlaunch => ?_⟩
  have hresults (result : Except CompanionError Unit) (hresult : h.phase.result? = some result) :=
    (hruns.chose hlaunch hresult).ok_or_exited hbefore
  refine ⟨fun result hphase => hresults result (by rw [hphase]; rfl), fun hnot => ?_⟩
  have hstopping : h.running.stopping = true := hruns.stopping_of_mem (by simp)
  refine hruns.exists_returned_ok hlaunch hstopping fun result hresult => ?_
  rcases hresults result hresult with hok | ⟨status, early, late, rest, -, rfl⟩
  · exact hok
  · exact absurd (by simp) (hnot status)

/-- A run with an open connection when the shutdown is requested, brought to its end. -/
theorem requested_shutdown_yields_only_to_exits_drained :
    let s : Server := {
      address := ⟨"127.0.0.1", 2573⟩
      service := .ofTracker { primaryId := 0, observer := .logging }
      proxy := some { command := ["/p", "-v"] } }
    let env : Environment := {
      files := { read := fun _ => .error ⟨"no file"⟩, contains := fun _ => false }
      runtime := fun _ => .ok ()
      listen := fun _ => .ok ⟨"127.0.0.1", 2573⟩
      start := fun _ => .ok (some (.code 3)) }
    ∃ l h acts' h',
      Runs s env [.launched (some l), .event .connected, .event .shutdownRequested] h ∧
      h.running.connections = 1 ∧
      Closes s env [.launched (some l), .event .connected, .event .shutdownRequested] h (.ok ())
        acts' h' := by
  intro s env
  let l : Launch := {
    order := {
      executable := "/p"
      arguments := ["-v", "--listen_addr", "[::1]:2501", "--observer_url", "http://127.0.0.1:2573"]
      directory := none }
    ending := some (.code 3) }
  have hlaunch : s.launch env = .ok (some l) := by decide
  obtain ⟨h, hrequested, -, hconnections, -⟩ := exists_requested hlaunch
  obtain ⟨-, hends⟩ := (requested_shutdown_yields_only_to_exits s env).1
    [.launched (some l), .event .connected] [] h hrequested (by simp)
  obtain ⟨-, hclosing⟩ := hends _ hlaunch
  obtain ⟨acts', h', hcloses⟩ := hclosing (by simp)
  exact ⟨l, h, acts', h', hrequested, hconnections, hcloses⟩

/-- A request for a shutdown is overtaken by an exit while a connection is open, and by a companion
that cannot be launched: neither run ends well. -/
theorem requested_shutdown_overtaken :
    let s : Server := {
      address := ⟨"127.0.0.1", 2573⟩
      service := .ofTracker { primaryId := 0, observer := .logging }
      proxy := some { command := ["/p", "-v"] } }
    let broken : Server := {
      address := ⟨"127.0.0.1", 2573⟩
      service := .ofTracker { primaryId := 0, observer := .logging }
      proxy := some { command := ["./a"] } }
    let env : Environment := {
      files := { read := fun _ => .error ⟨"no file"⟩, contains := fun _ => false }
      runtime := fun _ => .ok ()
      listen := fun _ => .ok ⟨"127.0.0.1", 2573⟩
      start := fun o =>
        if o.executable = "/p" then .ok (some (.code 3))
        else .error ⟨"No such file or directory (os error 2)"⟩ }
    (∃ l h, Runs s env [.launched (some l), .event .connected, .event .shutdownRequested,
        .event (.companionExited (.code 3)), .selected (.companionExited (.code 3)), .polled] h ∧
      h.phase = .returned (.error (.exited (.code 3)))) ∧
    ∃ e h, Runs broken env [.event .shutdownRequested, .refused e] h ∧
      h.phase = .returned (.error e) := by
  intro s broken env
  let l : Launch := {
    order := {
      executable := "/p"
      arguments := ["-v", "--listen_addr", "[::1]:2501", "--observer_url", "http://127.0.0.1:2573"]
      directory := none }
    ending := some (.code 3) }
  have hlaunch : s.launch env = .ok (some l) := by decide
  have hrefused : broken.launch env =
      .error (.spawn ["./a"] ⟨"No such file or directory (os error 2)"⟩) := by decide
  exact ⟨⟨l, exists_exited_while_draining hlaunch (.code 3)⟩, _, exists_refused hrefused⟩

end NodeCoverage.Host
