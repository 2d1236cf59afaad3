import Mathlib
import NodeCoverage.Host.Server

/-!
# The life of a companion

A run of a server as a step relation. First the companion is launched, if there is to be one; then
requests are served while two things are waited for, the end of serving and the end of the
companion; whichever of the two has come, the run may take it. After that the companion is looked
at: one that has gone is done with, one that still runs is killed and then waited for. Connections,
the request for a shutdown and the exit of the companion come whenever they come, also between
those last steps.

Results:
* `Running.mem_ready`, `Running.after?_eq_some`: the ways to end that are open, and what an event
  does;
* `Runs.accounted`: what is known in each phase of a run, one lemma per step and then by induction;
* `Runs.exists_returned`: a run that has taken a way to end can always be brought to its end;
* `Runs.fresh_of_spawn`, `Runs.exists_launched_of_exited`, `Runs.ok_of_proxy_none`: what a result
  says about the run;
* `Server.run_of_refused`, `Server.run_of_requested`, `Server.run_of_exit`, `Server.run_of_endless`:
  the session of a server that is run, in each case;
* `Server.run_runs`: each of these sessions tells of a run;
* **`companion_never_outlives`**: what is left when a run has returned, and why it returned.
-/

namespace NodeCoverage.Host

/-! ## The step relation -/

/-- How far a run has got. -/
inductive Phase where
  /-- The companion has not been launched yet. -/
  | starting
  /-- Requests are served, and both ways to end are waited for. -/
  | serving
  /-- A way to end has been taken, and nobody has looked at the companion since. -/
  | ending (result : Except CompanionError Unit)
  /-- The companion was found running and is about to be killed. -/
  | killing (result : Except CompanionError Unit)
  /-- The companion was killed and its end is waited for. -/
  | waiting (result : Except CompanionError Unit)
  | returned (result : Except CompanionError Unit)

/-- Whether the router is there to be asked. -/
def Phase.isUp : Phase → Bool
  | .starting => false
  | .returned _ => false
  | _ => true

/-- A run at some moment. -/
structure Hosting where
  phase : Phase := .starting
  running : Running := .start .absent
  service : Service
  responses : List (Answer Http.Response) := []

/-- What is done in a run, or happens to it. -/
inductive Act where
  | refused (e : CompanionError)
  | launched (l : Option Launch)
  | event (e : RunEvent)
  | answered (r : Http.RawRequest)
  | selected (b : Branch)
  | polled
  | killed
  | waited

namespace Running

/-- The run with another companion. -/
def withCompanion (r : Running) (c : Companion) : Running :=
  { r with companion := c }

/-- The run when a way to end has been taken: to learn of the exit is to take the status. -/
def taken (r : Running) : Branch → Running
  | .served => r
  | .companionExited _ => r.withCompanion .reaped

end Running

/-- **A step of a run** of a server in its environment. -/
inductive Step (s : Server) (env : Environment) : Hosting → Act → Hosting → Prop
  | refused {h : Hosting} {e : CompanionError} :
      h.phase = .starting → s.launch env = .error e →
      Step s env h (.refused e) { h with phase := .returned (.error e) }
  | launched {h : Hosting} {l : Option Launch} :
      h.phase = .starting → s.launch env = .ok l →
      Step s env h (.launched l) { h with
        phase := .serving
        running := h.running.withCompanion (if l.isSome then .running else .absent) }
  /-- A shutdown may be requested before there is anything to shut down. -/
  | requestedEarly {h : Hosting} :
      h.phase = .starting →
      Step s env h (.event .shutdownRequested)
        { h with running := { h.running with stopping := true } }
  | event {h : Hosting} {e : RunEvent} {r : Running} :
      h.phase.isUp = true → h.running.after? e = some r →
      Step s env h (.event e) { h with running := r }
  | answered {h : Hosting} (r : Http.RawRequest) :
      h.phase.isUp = true → h.running.connections ≠ 0 →
      Step s env h (.answered r) { h with
        service := (Http.handleRaw h.service r).state
        responses := h.responses ++ [(Http.handleRaw h.service r).answer] }
  | selected {h : Hosting} {b : Branch} :
      h.phase = .serving → b ∈ h.running.ready →
      Step s env h (.selected b) { h with
        phase := .ending (h.running.finish b).result
        running := h.running.taken b }
  /-- There is no companion to look at. -/
  | unaccompanied {h : Hosting} {result : Except CompanionError Unit} :
      h.phase = .ending result → h.running.companion = .absent →
      Step s env h .polled { h with phase := .returned result }
  /-- The companion has gone, and its status is known or taken now. -/
  | foundGone {h : Hosting} {result : Except CompanionError Unit} :
      h.phase = .ending result →
      (h.running.companion = .reaped ∨ ∃ status, h.running.companion = .exited status) →
      Step s env h .polled
        { h with phase := .returned result, running := h.running.withCompanion .reaped }
  | foundRunning {h : Hosting} {result : Except CompanionError Unit} :
      h.phase = .ending result → h.running.companion = .running →
      Step s env h .polled { h with phase := .killing result }
  /-- Killing ends no process by itself: the exit is an event of its own. -/
  | killed {h : Hosting} {result : Except CompanionError Unit} :
      h.phase = .killing result → Step s env h .killed { h with phase := .waiting result }
  | waited {h : Hosting} {result : Except CompanionError Unit} {status : ExitStatus} :
      h.phase = .waiting result → h.running.companion = .exited status →
      Step s env h .waited
        { h with phase := .returned result, running := h.running.withCompanion .reaped }

/-- A run up to some moment, with all that was done and all that happened. -/
inductive Runs (s : Server) (env : Environment) : List Act → Hosting → Prop
  | start : Runs s env [] { service := s.service }
  | step {acts : List Act} {h h' : Hosting} {a : Act} :
      Runs s env acts h → Step s env h a h' → Runs s env (acts ++ [a]) h'

/-! ## Events and ways to end -/

namespace Running

variable {r r' : Running} {e : RunEvent} {b : Branch}

theorem mem_ready :
    b ∈ r.ready ↔
      (b = .served ∧ r.drained = true) ∨
        ∃ status, b = .companionExited status ∧ r.companion = .exited status := by
  unfold ready
  rw [List.mem_append]
  refine or_congr ?_ ?_
  · cases r.drained <;> simp
  · cases r.companion <;> simp

theorem after?_connected (h : r.stopping = false) :
    r.after? .connected =
      some { r with connections := r.connections + 1, served := r.served + 1 } := by
  unfold after?
  simp only [h, Bool.false_eq_true, if_false]

theorem after?_disconnected (h : r.connections ≠ 0) :
    r.after? .disconnected = some { r with connections := r.connections - 1 } := by
  unfold after?
  simp only [h, if_false]

theorem after?_companionExited (h : r.companion = .running) (status : ExitStatus) :
    r.after? (.companionExited status) = some (r.withCompanion (.exited status)) := by
  unfold after?
  simp only [h]
  rfl

/-- **What an event does** to the companion and to the request for a shutdown. -/
theorem after?_eq_some (h : r.after? e = some r') :
    (r'.stopping = true ↔ r.stopping = true ∨ e = .shutdownRequested) ∧
      ((r'.companion = r.companion ∧ ∀ status, e ≠ .companionExited status) ∨
        ∃ status, e = .companionExited status ∧ r.companion = .running ∧
          r'.companion = .exited status) := by
  unfold after? at h
  cases e with
  | connected =>
    dsimp only at h
    split at h <;> cases h
    exact ⟨by simp, .inl ⟨rfl, nofun⟩⟩
  | disconnected =>
    dsimp only at h
    split at h <;> cases h
    exact ⟨by simp, .inl ⟨rfl, nofun⟩⟩
  | shutdownRequested =>
    cases h
    exact ⟨by simp, .inl ⟨rfl, nofun⟩⟩
  | companionExited status =>
    dsimp only at h
    split at h
    · next hrunning =>
      cases h
      exact ⟨by simp, .inr ⟨status, rfl, hrunning, rfl⟩⟩
    · cases h

end Running

/-! ## What is known in each phase -/

section Accounts

variable {s : Server} {env : Environment} {acts : List Act} {a : Act} {h h' : Hosting}
  {result : Except CompanionError Unit}

/-- Nothing has been launched or killed, and nobody has been answered. -/
structure Fresh (s : Server) (acts : List Act) (h : Hosting) : Prop where
  companion : h.running.companion = .absent
  launched : ∀ l, .launched l ∉ acts
  killed : .killed ∉ acts
  answered : ∀ r, .answered r ∉ acts
  responses : h.responses = []
  service : h.service = s.service

/-- The launch went well, and there is a companion if there was one to launch. -/
def Attended (s : Server) (env : Environment) (acts : List Act) (h : Hosting) : Prop :=
  ∃ l, s.launch env = .ok l ∧ .launched l ∈ acts ∧ (h.running.companion = .absent ↔ l = none)

/-- The companion exited with a status before anything was done to kill it. -/
def ExitedByItself (acts : List Act) (status : ExitStatus) : Prop :=
  ∃ before after,
    acts = before ++ .event (.companionExited status) :: after ∧ .killed ∉ before

/-- The companion is there: it runs, or its status has not been taken yet. -/
def Companion.IsLeft (c : Companion) : Prop :=
  c = .running ∨ ∃ status, c = .exited status

/-- What must have happened for a run that was up to come to a result. -/
def Justified (acts : List Act) : Except CompanionError Unit → Prop
  | .ok () => .event .shutdownRequested ∈ acts
  | .error (.exited status) => ExitedByItself acts status
  | .error _ => False

/-- What is known of a run in some phase. -/
def Accounts (s : Server) (env : Environment) (acts : List Act) (h : Hosting) : Phase → Prop
  | .starting => Fresh s acts h
  | .serving =>
    Attended s env acts h ∧ h.running.companion ≠ .reaped ∧ .killed ∉ acts
  | .ending result => Attended s env acts h ∧ Justified acts result
  | .killing result =>
    Attended s env acts h ∧ Justified acts result ∧ h.running.companion.IsLeft
  | .waiting result =>
    Attended s env acts h ∧ Justified acts result ∧ h.running.companion.IsLeft
  | .returned result =>
    (Attended s env acts h ∧ Justified acts result ∧
      (h.running.companion = .absent ∨ h.running.companion = .reaped)) ∨
    (Fresh s acts h ∧ ∃ e, result = .error e ∧ s.launch env = .error e)

/-- **What is known of a run** in every phase, and in its own. -/
structure Accounted (s : Server) (env : Environment) (acts : List Act) (h : Hosting) : Prop where
  requested : h.running.stopping = true → .event .shutdownRequested ∈ acts
  exited : ∀ status, h.running.companion = .exited status →
    .event (.companionExited status) ∈ acts
  present : ∀ status, .event (.companionExited status) ∈ acts → h.running.companion ≠ .absent
  launched : ∀ l, .launched l ∈ acts → s.launch env = .ok l
  phase : Accounts s env acts h h.phase

theorem Attended.mono (hattended : Attended s env acts h)
    (hsame : h'.running.companion = .absent ↔ h.running.companion = .absent) :
    Attended s env (acts ++ [a]) h' := by
  obtain ⟨l, hl, hmem, hnone⟩ := hattended
  exact ⟨l, hl, List.mem_append_left _ hmem, hsame.trans hnone⟩

theorem Justified.mono (hjustified : Justified acts result) : Justified (acts ++ [a]) result := by
  match result with
  | .ok () => exact List.mem_append_left _ hjustified
  | .error (.exited status) =>
    obtain ⟨before, after, rfl, hkilled⟩ := hjustified
    exact ⟨before, after ++ [a], by simp, hkilled⟩

/-- A step that neither launches, nor kills, nor answers. -/
theorem Fresh.mono (hfresh : Fresh s acts h) (hcompanion : h'.running.companion = .absent)
    (hresponses : h'.responses = h.responses) (hservice : h'.service = h.service)
    (hlaunched : ∀ l, a ≠ .launched l) (hkilled : a ≠ .killed) (hanswered : ∀ r, a ≠ .answered r) :
    Fresh s (acts ++ [a]) h' where
  companion := hcompanion
  launched l hmem := (List.mem_append.mp hmem).elim (hfresh.launched l)
    fun hnow => hlaunched l (List.mem_singleton.mp hnow).symm
  killed hmem := (List.mem_append.mp hmem).elim hfresh.killed
    fun hnow => hkilled (List.mem_singleton.mp hnow).symm
  answered r hmem := (List.mem_append.mp hmem).elim (hfresh.answered r)
    fun hnow => hanswered r (List.mem_singleton.mp hnow).symm
  responses := hresponses.trans hfresh.responses
  service := hservice.trans hfresh.service

/-- A step that leaves the phase and kills nothing, while the run is up. -/
theorem Accounts.mono {phase : Phase} (hup : phase.isUp = true)
    (haccounts : Accounts s env acts h phase)
    (hsame : h'.running.companion = .absent ↔ h.running.companion = .absent)
    (hreaped : h'.running.companion = .reaped → h.running.companion = .reaped)
    (hleft : h.running.companion.IsLeft → h'.running.companion.IsLeft)
    (hkilled : a ≠ .killed) : Accounts s env (acts ++ [a]) h' phase := by
  cases phase with
  | starting => cases hup
  | serving =>
    obtain ⟨hattended, hrunning, hnone⟩ := haccounts
    refine ⟨hattended.mono hsame, fun h => hrunning (hreaped h), fun hmem => ?_⟩
    rcases List.mem_append.mp hmem with hbefore | hnow
    · exact hnone hbefore
    · exact hkilled (List.mem_singleton.mp hnow).symm
  | ending result => exact ⟨haccounts.1.mono hsame, haccounts.2.mono⟩
  | killing result =>
    exact ⟨haccounts.1.mono hsame, haccounts.2.1.mono, hleft haccounts.2.2⟩
  | waiting result =>
    exact ⟨haccounts.1.mono hsame, haccounts.2.1.mono, hleft haccounts.2.2⟩
  | returned result => cases hup

/-- The way to end that was taken is justified by what happened. -/
theorem Accounted.justified {b : Branch} (haccounted : Accounted s env acts h)
    (hphase : h.phase = .serving) (hb : b ∈ h.running.ready) :
    Justified acts (h.running.finish b).result := by
  have haccounts := haccounted.phase
  rw [hphase] at haccounts
  rcases Running.mem_ready.mp hb with ⟨rfl, hdrained⟩ | ⟨status, rfl, hexited⟩
  · exact haccounted.requested (Bool.and_eq_true_iff.mp hdrained).1
  · obtain ⟨before, after, heq⟩ := List.append_of_mem (haccounted.exited status hexited)
    exact ⟨before, after, heq, fun hmem =>
      haccounts.2.2 (heq ▸ List.mem_append_left _ hmem)⟩

theorem Accounted.launched_append (haccounted : Accounted s env acts h)
    (hne : ∀ l, a ≠ .launched l) (l : Option Launch) (hmem : .launched l ∈ acts ++ [a]) :
    s.launch env = .ok l := by
  rcases List.mem_append.mp hmem with hbefore | hnow
  · exact haccounted.launched l hbefore
  · exact absurd (List.mem_singleton.mp hnow).symm (hne l)

theorem Accounted.present_append (haccounted : Accounted s env acts h)
    (hne : ∀ status, a ≠ .event (.companionExited status))
    (hsame : h'.running.companion = .absent → h.running.companion = .absent)
    (status : ExitStatus) (hmem : .event (.companionExited status) ∈ acts ++ [a]) :
    h'.running.companion ≠ .absent := by
  rcases List.mem_append.mp hmem with hbefore | hnow
  · exact fun habsent => haccounted.present status hbefore (hsame habsent)
  · exact absurd (List.mem_singleton.mp hnow).symm (hne status)

/-- A step that leaves the companion and the request for a shutdown as they are. -/
theorem Accounted.keep (haccounted : Accounted s env acts h) (hlaunched : ∀ l, a ≠ .launched l)
    (hexited : ∀ status, a ≠ .event (.companionExited status))
    (hrunning : h'.running = h.running) (hphase : Accounts s env (acts ++ [a]) h' h'.phase) :
    Accounted s env (acts ++ [a]) h' where
  requested hs := List.mem_append_left _ (haccounted.requested (hrunning ▸ hs))
  exited status hst := List.mem_append_left _ (haccounted.exited status (hrunning ▸ hst))
  present := haccounted.present_append hexited fun habsent => hrunning ▸ habsent
  launched := haccounted.launched_append hlaunched
  phase := hphase

/-- A step that takes the status of the companion. -/
theorem Accounted.reap (haccounted : Accounted s env acts h) (hlaunched : ∀ l, a ≠ .launched l)
    (hexited : ∀ status, a ≠ .event (.companionExited status))
    (hrunning : h'.running = h.running.withCompanion .reaped)
    (hphase : Accounts s env (acts ++ [a]) h' h'.phase) :
    Accounted s env (acts ++ [a]) h' where
  requested hs := List.mem_append_left _ (haccounted.requested (by rwa [hrunning] at hs))
  exited status hst := by
    rw [hrunning] at hst
    cases hst
  present := haccounted.present_append hexited fun habsent => by
    rw [hrunning] at habsent
    cases habsent
  launched := haccounted.launched_append hlaunched
  phase := hphase

/-- The step that launches the companion, if there is one to launch. -/
theorem Accounted.launch {l : Option Launch} (haccounted : Accounted s env acts h)
    (hphase : h.phase = .starting) (hlaunch : s.launch env = .ok l) :
    Accounted s env (acts ++ [.launched l]) { h with
      phase := .serving
      running := h.running.withCompanion (if l.isSome then .running else .absent) } := by
  have hfresh : Fresh s acts h := by
    have haccounts := haccounted.phase
    rwa [hphase] at haccounts
  refine ⟨fun hs => List.mem_append_left _ (haccounted.requested hs), fun status hst => ?_,
    fun status hmem => ?_, fun l' hmem => ?_,
    ⟨l, hlaunch, List.mem_append_right _ List.mem_cons_self, ?_⟩, ?_, ?_⟩
  · cases l <;> cases hst
  · rcases List.mem_append.mp hmem with hbefore | hnow
    · exact absurd hfresh.companion (haccounted.present status hbefore)
    · cases List.mem_singleton.mp hnow
  · rcases List.mem_append.mp hmem with hbefore | hnow
    · exact haccounted.launched l' hbefore
    · cases List.mem_singleton.mp hnow
      exact hlaunch
  · cases l <;> simp [Running.withCompanion]
  · cases l <;> simp [Running.withCompanion]
  · simpa using hfresh.killed

/-- An event while the run is up: the exit of the companion, or one that leaves it as it is. -/
theorem Accounted.event {e : RunEvent} {r : Running} (haccounted : Accounted s env acts h)
    (hup : h.phase.isUp = true) (hafter : h.running.after? e = some r) :
    Accounted s env (acts ++ [.event e]) { h with running := r } := by
  have haccounts := haccounted.phase
  obtain ⟨hstopping, hcompanion⟩ := Running.after?_eq_some hafter
  have hrequested (hs : r.stopping = true) : .event .shutdownRequested ∈ acts ++ [.event e] := by
    rcases hstopping.mp hs with hbefore | rfl
    · exact List.mem_append_left _ (haccounted.requested hbefore)
    · exact List.mem_append_right _ List.mem_cons_self
  rcases hcompanion with ⟨hsame, hne⟩ | ⟨status, rfl, hbefore, hnow⟩
  · exact ⟨hrequested,
      fun status hst => List.mem_append_left _ (haccounted.exited status (hsame ▸ hst)),
      haccounted.present_append (fun status heq => hne status (Act.event.inj heq))
        fun habsent => hsame ▸ habsent,
      haccounted.launched_append nofun,
      haccounts.mono hup (hsame ▸ Iff.rfl) (fun h => hsame ▸ h) (fun h => hsame ▸ h) nofun⟩
  · have hpresent : r.companion ≠ .absent := by
      rw [hnow]
      nofun
    refine ⟨hrequested, fun status' hst => ?_, fun _ _ => hpresent,
      haccounted.launched_append nofun,
      haccounts.mono hup (iff_of_false hpresent fun h => ?_) (fun h => ?_)
        (fun _ => .inr ⟨status, hnow⟩) nofun⟩
    · cases hnow.symm.trans hst
      exact List.mem_append_right _ List.mem_cons_self
    · cases hbefore.symm.trans h
    · cases hnow.symm.trans h

/-- **One step** keeps the account. -/
theorem Accounted.step (haccounted : Accounted s env acts h) (hstep : Step s env h a h') :
    Accounted s env (acts ++ [a]) h' := by
  have haccounts := haccounted.phase
  cases hstep with
  | refused hphase hlaunch =>
    have hfresh : Fresh s acts h := by rwa [hphase] at haccounts
    exact haccounted.keep nofun nofun rfl
      (.inr ⟨hfresh.mono hfresh.companion rfl rfl nofun nofun nofun, _, rfl, hlaunch⟩)
  | launched hphase hlaunch => exact haccounted.launch hphase hlaunch
  | requestedEarly hphase =>
    have hfresh : Fresh s acts h := by rwa [hphase] at haccounts
    refine ⟨fun _ => List.mem_append_right _ List.mem_cons_self,
      fun status hst => List.mem_append_left _ (haccounted.exited status hst),
      haccounted.present_append nofun id, haccounted.launched_append nofun, ?_⟩
    rw [hphase]
    exact hfresh.mono hfresh.companion rfl rfl nofun nofun nofun
  | event hup hafter => exact haccounted.event hup hafter
  | answered r hup hopen =>
    exact haccounted.keep nofun nofun rfl (haccounts.mono hup Iff.rfl id id nofun)
  | @selected b hphase hb =>
    have hjustified := haccounted.justified hphase hb
    rw [hphase] at haccounts
    obtain ⟨hattended, -, -⟩ := haccounts
    rcases Running.mem_ready.mp hb with ⟨rfl, -⟩ | ⟨status, rfl, hst⟩
    · exact haccounted.keep nofun nofun rfl ⟨hattended.mono Iff.rfl, hjustified.mono⟩
    · exact haccounted.reap nofun nofun rfl
        ⟨hattended.mono (iff_of_false nofun fun h => nomatch hst.symm.trans h), hjustified.mono⟩
  | unaccompanied hphase hcompanion =>
    rw [hphase] at haccounts
    exact haccounted.keep nofun nofun rfl
      (.inl ⟨haccounts.1.mono Iff.rfl, haccounts.2.mono, .inl hcompanion⟩)
  | foundGone hphase hcompanion =>
    rw [hphase] at haccounts
    refine haccounted.reap nofun nofun rfl
      (.inl ⟨haccounts.1.mono (iff_of_false nofun ?_), haccounts.2.mono, .inr rfl⟩)
    rcases hcompanion with hgone | ⟨status, hgone⟩
    · exact fun h => nomatch hgone.symm.trans h
    · exact fun h => nomatch hgone.symm.trans h
  | foundRunning hphase hcompanion =>
    rw [hphase] at haccounts
    exact haccounted.keep nofun nofun rfl
      ⟨haccounts.1.mono Iff.rfl, haccounts.2.mono, .inl hcompanion⟩
  | killed hphase =>
    rw [hphase] at haccounts
    exact haccounted.keep nofun nofun rfl
      ⟨haccounts.1.mono Iff.rfl, haccounts.2.1.mono, haccounts.2.2⟩
  | waited hphase hcompanion =>
    rw [hphase] at haccounts
    exact haccounted.reap nofun nofun rfl
      (.inl ⟨haccounts.1.mono (iff_of_false nofun fun h => nomatch hcompanion.symm.trans h),
        haccounts.2.1.mono, .inr rfl⟩)

/-- **A whole run** is accounted for, by induction on its steps. -/
theorem Runs.accounted (hruns : Runs s env acts h) : Accounted s env acts h := by
  induction hruns with
  | start => exact ⟨nofun, nofun, nofun, nofun, ⟨rfl, nofun, nofun, nofun, rfl, rfl⟩⟩
  | step _ hstep ih => exact ih.step hstep

/-! ## Runs to their end -/

/-- The last steps of a run neither answer anybody nor come to another result. -/
structure Closes (s : Server) (env : Environment) (acts : List Act) (h : Hosting)
    (result : Except CompanionError Unit) (acts' : List Act) (h' : Hosting) : Prop where
  runs : Runs s env (acts ++ acts') h'
  returned : h'.phase = .returned result
  responses : h'.responses = h.responses
  service : h'.service = h.service

theorem Runs.exists_returned_of_waiting (hruns : Runs s env acts h)
    (hphase : h.phase = .waiting result) : ∃ acts' h', Closes s env acts h result acts' h' := by
  have haccounts := hruns.accounted.phase
  rw [hphase] at haccounts
  rcases haccounts.2.2 with hrunning | ⟨status, hexited⟩
  · -- The signal ends the companion, and its status is there to be taken.
    have hevent : Step s env h (.event (.companionExited (.signal 9)))
        { h with running := h.running.withCompanion (.exited (.signal 9)) } :=
      .event (by rw [hphase]; rfl) (Running.after?_companionExited hrunning _)
    have hwaited := (hruns.step hevent).step (.waited hphase rfl)
    rw [List.append_assoc] at hwaited
    exact ⟨_, _, hwaited, rfl, rfl, rfl⟩
  · exact ⟨_, _, hruns.step (.waited hphase hexited), rfl, rfl, rfl⟩

theorem Closes.prepend {a : Act} {acts' : List Act} {h'' : Hosting}
    (hcloses : Closes s env (acts ++ [a]) h' result acts' h'')
    (hresponses : h'.responses = h.responses) (hservice : h'.service = h.service) :
    Closes s env acts h result (a :: acts') h'' where
  runs := by
    have hruns := hcloses.runs
    rwa [List.append_assoc] at hruns
  returned := hcloses.returned
  responses := hcloses.responses.trans hresponses
  service := hcloses.service.trans hservice

/-- **A run that has taken a way to end** can always be brought to its end. -/
theorem Runs.exists_returned (hruns : Runs s env acts h) (hphase : h.phase = .ending result) :
    ∃ acts' h', Closes s env acts h result acts' h' := by
  have gone (hcompanion : h.running.companion = .reaped ∨
      ∃ status, h.running.companion = .exited status) :
      ∃ acts' h', Closes s env acts h result acts' h' :=
    ⟨_, _, hruns.step (.foundGone hphase hcompanion), rfl, rfl, rfl⟩
  cases hcompanion : h.running.companion with
  | absent => exact ⟨_, _, hruns.step (.unaccompanied hphase hcompanion), rfl, rfl, rfl⟩
  | reaped => exact gone (.inl hcompanion)
  | exited status => exact gone (.inr ⟨status, hcompanion⟩)
  | running =>
    have hfound := hruns.step (.foundRunning hphase hcompanion)
    have hkilled := hfound.step (.killed rfl)
    obtain ⟨acts', h', hcloses⟩ := hkilled.exists_returned_of_waiting rfl
    exact ⟨_, h', (hcloses.prepend rfl rfl).prepend rfl rfl⟩

end Accounts

/-! ## What is left, and why -/

/-- **Why a companion cannot be launched**: it has no executable, or the system refuses. -/
theorem launch_eq_error {start : Order → Except Refusal (Option ExitStatus)} {p : ProxySettings}
    {url : String} {e : CompanionError} (h : launch start p url = .error e) :
    (p.command = [] ∧ e = .emptyCommand) ∨
      p.command ≠ [] ∧ ∃ why, e = .spawn p.command why := by
  unfold launch at h
  split at h
  · next hcommand =>
    cases h
    exact .inl ⟨hcommand, rfl⟩
  · next hcommand =>
    refine .inr ⟨by simp [hcommand], ?_⟩
    dsimp only at h
    split at h
    · cases h
      exact ⟨_, rfl⟩
    · cases h

theorem Server.launch_of_proxy_none {s : Server} (h : s.proxy = none) (env : Environment) :
    s.launch env = .ok none := by
  unfold launch
  rw [h]

theorem Server.exists_launch_eq_error {s : Server} {env : Environment} {e : CompanionError}
    (h : s.launch env = .error e) :
    ∃ p, s.proxy = some p ∧ Host.launch env.start p s.url = .error e := by
  unfold launch at h
  split at h
  · cases h
  · next p hp =>
    refine ⟨p, hp, ?_⟩
    cases hl : Host.launch env.start p s.url with
    | error e' =>
      rw [hl] at h
      cases h
      rfl
    | ok l =>
      rw [hl] at h
      cases h

section Returned

variable {s : Server} {env : Environment} {acts : List Act} {h : Hosting}
  {result : Except CompanionError Unit}

/-- What is known of a run that has returned: it was up, or its launch failed. -/
theorem Runs.returned (hruns : Runs s env acts h) (hphase : h.phase = .returned result) :
    (Attended s env acts h ∧ Justified acts result ∧
      (h.running.companion = .absent ∨ h.running.companion = .reaped)) ∨
    (Fresh s acts h ∧ ∃ e, result = .error e ∧ s.launch env = .error e) := by
  have haccounts := hruns.accounted.phase
  rwa [hphase] at haccounts

theorem Runs.reaped_of_launched (hruns : Runs s env acts h) (hphase : h.phase = .returned result)
    {l : Launch} (hmem : .launched (some l) ∈ acts) : h.running.companion = .reaped := by
  rcases hruns.returned hphase with ⟨⟨l', hlaunch, -, hnone⟩, -, hgone⟩ | ⟨hfresh, -⟩
  · have hsome : l' = some l :=
      Except.ok.inj (hlaunch.symm.trans (hruns.accounted.launched _ hmem))
    exact hgone.resolve_left fun habsent => nomatch (hnone.mp habsent).symm.trans hsome
  · exact absurd hmem (hfresh.launched _)

theorem Runs.absent_of_not_launched (hruns : Runs s env acts h)
    (hphase : h.phase = .returned result) (hnot : ∀ l, .launched (some l) ∉ acts) :
    h.running.companion = .absent := by
  rcases hruns.returned hphase with ⟨⟨l, -, hmem, hnone⟩, -⟩ | ⟨hfresh, -⟩
  · cases l with
    | none => exact hnone.mpr rfl
    | some l => exact absurd hmem (hnot l)
  · exact hfresh.companion

theorem Runs.launched_mem_iff (hruns : Runs s env acts h) (hattended : Attended s env acts h)
    {l : Option Launch} (hlaunch : s.launch env = .ok l) (l' : Option Launch) :
    .launched l' ∈ acts ↔ l' = l := by
  obtain ⟨l₀, hl₀, hmem, -⟩ := hattended
  obtain rfl : l₀ = l := Except.ok.inj (hl₀.symm.trans hlaunch)
  exact ⟨fun h => Except.ok.inj ((hruns.accounted.launched l' h).symm.trans hlaunch),
    fun h => h ▸ hmem⟩

/-- **A run that was launched and has returned**: what was launched, and what is left of it. -/
theorem Runs.launched_of_returned (hruns : Runs s env acts h) (hphase : h.phase = .returned result)
    {l : Option Launch} (hlaunch : s.launch env = .ok l) :
    (∀ l', .launched l' ∈ acts ↔ l' = l) ∧
      h.running.companion = if l.isSome then .reaped else .absent := by
  rcases hruns.returned hphase with ⟨hattended, -, -⟩ | ⟨-, e, -, hrefused⟩
  · have hmem := hruns.launched_mem_iff hattended hlaunch
    refine ⟨hmem, ?_⟩
    cases l with
    | none =>
      exact hruns.absent_of_not_launched hphase fun l h => nomatch (hmem (some l)).mp h
    | some l => exact hruns.reaped_of_launched hphase ((hmem (some l)).mpr rfl)
  · cases hlaunch.symm.trans hrefused

/-- **A failure to start the companion** is that of the launch, and nothing else has happened. -/
theorem Runs.fresh_of_spawn (hruns : Runs s env acts h) {command : List String}
    {why : Refusal} (hphase : h.phase = .returned (.error (.spawn command why))) :
    s.launch env = .error (.spawn command why) ∧ Fresh s acts h := by
  rcases hruns.returned hphase with ⟨-, hjustified, -⟩ | ⟨hfresh, e, heq, hlaunch⟩
  · exact hjustified.elim
  · cases heq
    exact ⟨hlaunch, hfresh⟩

/-- **An exit with a status** is that of a companion that was launched. -/
theorem Runs.exists_launched_of_exited (hruns : Runs s env acts h) {status : ExitStatus}
    (hphase : h.phase = .returned (.error (.exited status))) :
    ExitedByItself acts status ∧
      ∃ l, .launched (some l) ∈ acts ∧ s.launch env = .ok (some l) := by
  rcases hruns.returned hphase with
    ⟨⟨l, hlaunch, hmem, hnone⟩, hjustified, -⟩ | ⟨-, e, heq, hlaunch⟩
  · have hexited : ExitedByItself acts status := hjustified
    obtain ⟨before, after, hacts, -⟩ := hexited
    have hpresent := hruns.accounted.present status (by rw [hacts]; simp)
    cases l with
    | none => exact absurd (hnone.mpr rfl) hpresent
    | some l => exact ⟨hjustified, l, hmem, hlaunch⟩
  · cases heq
    obtain ⟨p, -, hrefused⟩ := Server.exists_launch_eq_error hlaunch
    rcases launch_eq_error hrefused with ⟨-, he⟩ | ⟨-, why, he⟩ <;> cases he

theorem Runs.requested_of_ok (hruns : Runs s env acts h) (hphase : h.phase = .returned (.ok ())) :
    .event .shutdownRequested ∈ acts := by
  rcases hruns.returned hphase with ⟨-, hjustified, -⟩ | ⟨-, e, heq, -⟩
  · exact hjustified
  · cases heq

/-- **Without a proxy** a run comes to a good end. -/
theorem Runs.ok_of_proxy_none (hruns : Runs s env acts h) (hphase : h.phase = .returned result)
    (hproxy : s.proxy = none) : result = .ok () := by
  have hnone := Server.launch_of_proxy_none hproxy env
  rcases hruns.returned hphase with ⟨-, hjustified, -⟩ | ⟨-, e, -, hlaunch⟩
  · match result with
    | .ok () => rfl
    | .error (.exited status) =>
      obtain ⟨-, l, -, hlaunch⟩ := hruns.exists_launched_of_exited hphase
      cases hnone.symm.trans hlaunch
  · cases hnone.symm.trans hlaunch

end Returned

/-! ## The server that is run -/

section Sessions

variable {s : Server} {env : Environment} {acts acts' : List Act} {h h' : Hosting}
  {result : Except CompanionError Unit} {l : Option Launch} {requests : List Http.RawRequest}
  {requested : Bool}

/-- A run that serves, with nobody connected and no shutdown requested. -/
structure Idle (s : Server) (env : Environment) (acts : List Act) (h : Hosting) : Prop where
  runs : Runs s env acts h
  phase : h.phase = .serving
  stopping : h.running.stopping = false
  connections : h.running.connections = 0

/-- A client that connects, asks and leaves. -/
theorem Idle.exists_answered (hidle : Idle s env acts h) (r : Http.RawRequest) :
    ∃ acts' h', Idle s env acts' h' ∧
      h'.running = { h.running with served := h.running.served + 1 } ∧
      h'.service = (Http.handleRaw h.service r).state ∧
      h'.responses = h.responses ++ [(Http.handleRaw h.service r).answer] := by
  obtain ⟨hruns, hphase, hstopping, hconnections⟩ := hidle
  have hup : h.phase.isUp = true := by rw [hphase]; rfl
  have hconnected := hruns.step (.event hup (Running.after?_connected hstopping))
  have hanswered := hconnected.step (.answered r hup (Nat.succ_ne_zero _))
  have hgone := hanswered.step (.event hup (Running.after?_disconnected (Nat.succ_ne_zero _)))
  exact ⟨_, _, ⟨hgone, hphase, hstopping, hconnections⟩, rfl, rfl, rfl⟩

/-- Clients that come one after another. -/
theorem Idle.exists_served (hidle : Idle s env acts h) (requests : List Http.RawRequest) :
    ∃ acts' h', Idle s env acts' h' ∧
      h'.running = { h.running with served := h.running.served + requests.length } ∧
      h'.service = (Server.answer h.service requests).2 ∧
      h'.responses = h.responses ++ (Server.answer h.service requests).1 := by
  induction requests generalizing acts h with
  | nil => exact ⟨acts, h, hidle, rfl, rfl, (List.append_nil _).symm⟩
  | cons r rest ih =>
    obtain ⟨acts₁, h₁, hidle₁, hrunning₁, hservice₁, hresponses₁⟩ := hidle.exists_answered r
    obtain ⟨acts₂, h₂, hidle₂, hrunning₂, hservice₂, hresponses₂⟩ := ih hidle₁
    refine ⟨acts₂, h₂, hidle₂, ?_, ?_, ?_⟩
    · rw [hrunning₂, hrunning₁]
      simp only [List.length_cons, Nat.add_assoc, Nat.add_comm 1]
    · rw [hservice₂, hservice₁]
      rfl
    · rw [hresponses₂, hresponses₁, hservice₁, List.append_assoc]
      rfl

namespace Running

variable {r : Running}

theorem ready_eq_nil (hdrained : r.drained = false)
    (hcompanion : ∀ status, r.companion ≠ .exited status) : r.ready = [] := by
  rw [List.eq_nil_iff_forall_not_mem]
  intro b hb
  rcases mem_ready.mp hb with ⟨-, hdrained'⟩ | ⟨status, -, hexited⟩
  · exact Bool.false_ne_true (hdrained.symm.trans hdrained')
  · exact hcompanion status hexited

theorem play_of_ready {b : Branch} {rest : List Branch} (h : r.ready = b :: rest)
    (events : List RunEvent) : r.play events = some (r.finish b) := by
  rw [play.eq_def, h]

theorem play_cons (h : r.ready = []) (e : RunEvent) (events : List RunEvent) :
    r.play (e :: events) = (r.after? e).bind (·.play events) := by
  rw [play.eq_def, h]

theorem play_nil (h : r.ready = []) : r.play [] = none := by
  rw [play.eq_def, h]

theorem ready_eq_served (hdrained : r.drained = true)
    (hcompanion : ∀ status, r.companion ≠ .exited status) : r.ready = [.served] := by
  unfold ready
  rw [hdrained, if_pos rfl]
  cases hc : r.companion with
  | exited status => exact absurd hc (hcompanion status)
  | _ => rfl

theorem ready_eq_companionExited (hdrained : r.drained = false) {status : ExitStatus}
    (hcompanion : r.companion = .exited status) : r.ready = [.companionExited status] := by
  unfold ready
  rw [hdrained, hcompanion]
  rfl

/-- A shutdown ends a run that nobody is connected to. -/
theorem play_shutdownRequested (hstopping : r.stopping = false) (hconnections : r.connections = 0)
    (hcompanion : ∀ status, r.companion ≠ .exited status) :
    r.play [.shutdownRequested] = some (r.finish .served) := by
  have hserved : ({ r with stopping := true } : Running).ready = [.served] :=
    ready_eq_served (by simp [drained, hconnections]) hcompanion
  rw [play_cons (ready_eq_nil (by simp [drained, hstopping]) hcompanion), after?,
    Option.bind_some, play_of_ready hserved]
  rfl

/-- The exit of the companion ends a run that is not to shut down. -/
theorem play_companionExited (hstopping : r.stopping = false) (hcompanion : r.companion = .running)
    (status : ExitStatus) :
    r.play [.companionExited status] = some (r.finish (.companionExited status)) := by
  have hready : r.ready = [] := ready_eq_nil (by simp [drained, hstopping]) (by simp [hcompanion])
  rw [play_cons hready, after?_companionExited hcompanion, Option.bind_some,
    play_of_ready (ready_eq_companionExited (by simp [drained, hstopping, withCompanion]) rfl)]
  simp only [finish, withCompanion, hcompanion]

/-- Clients that come one after another are no reason to end. -/
theorem play_clients (hstopping : r.stopping = false) (hconnections : r.connections = 0)
    (hcompanion : ∀ status, r.companion ≠ .exited status) (n : Nat) (events : List RunEvent) :
    r.play ((List.replicate n [RunEvent.connected, .disconnected]).flatten ++ events) =
      ({ r with served := r.served + n } : Running).play events := by
  induction n generalizing r with
  | zero => rfl
  | succ n ih =>
    have hready {c : Nat} {d : Nat} :
        ({ r with connections := c, served := d } : Running).ready = [] :=
      ready_eq_nil (by simp [drained, hstopping]) hcompanion
    have hfirst : r.ready = [] := ready_eq_nil (by simp [drained, hstopping]) hcompanion
    rw [List.replicate_succ, List.flatten_cons, List.append_assoc, List.cons_append,
      List.cons_append, List.nil_append, play_cons hfirst, after?_connected hstopping,
      Option.bind_some, play_cons hready, after?_disconnected (Nat.succ_ne_zero _),
      Option.bind_some]
    refine (ih (r := { r with served := r.served + 1 }) hstopping hconnections
      hcompanion).trans ?_
    simp only [Nat.add_assoc, Nat.add_comm 1]

end Running

theorem Idle.exists_returned_ok (hidle : Idle s env acts h) :
    ∃ acts' h', Closes s env acts h (.ok ()) acts' h' := by
  obtain ⟨hruns, hphase, hstopping, hconnections⟩ := hidle
  have hrequested := hruns.step (.event (e := .shutdownRequested) (by rw [hphase]; rfl) rfl)
  have hselected := hrequested.step (.selected (b := .served) hphase
    (Running.mem_ready.mpr (.inl ⟨rfl, by simp [Running.drained, hconnections]⟩)))
  obtain ⟨acts', h', hcloses⟩ := hselected.exists_returned rfl
  exact ⟨_, h', (hcloses.prepend rfl rfl).prepend rfl rfl⟩

theorem Idle.exists_returned_exited (hidle : Idle s env acts h)
    (hcompanion : h.running.companion = .running) (status : ExitStatus) :
    ∃ acts' h', Closes s env acts h (.error (.exited status)) acts' h' := by
  obtain ⟨hruns, hphase, hstopping, hconnections⟩ := hidle
  have hexited := hruns.step
    (.event (by rw [hphase]; rfl) (Running.after?_companionExited hcompanion status))
  have hselected := hexited.step (.selected (b := .companionExited status) hphase
    (Running.mem_ready.mpr (.inr ⟨status, rfl, rfl⟩)))
  obtain ⟨acts', h', hcloses⟩ := hselected.exists_returned rfl
  exact ⟨_, h', (hcloses.prepend rfl rfl).prepend rfl rfl⟩

namespace Server

/-- A companion that cannot be launched ends the run before it has begun. -/
theorem run_of_refused {e : CompanionError} (hlaunch : s.launch env = .error e) :
    s.run env requests requested = ⟨[], none, some (.error e), .absent, s.service⟩ := by
  unfold run
  rw [hlaunch]

/-- A shutdown that is requested ends the run well, and no companion is left. -/
theorem run_of_requested (hlaunch : s.launch env = .ok l) :
    s.run env requests true =
      ⟨(answer s.service requests).1, l, some (.ok ()), if l.isSome then .reaped else .absent,
        (answer s.service requests).2⟩ := by
  unfold run sessionEvents
  rw [hlaunch]
  dsimp only
  rw [if_pos rfl, Running.play_clients rfl rfl (by cases l <;> nofun),
    Running.play_shutdownRequested rfl rfl (by cases l <;> nofun)]
  cases l <;> rfl

/-- A companion that ends by itself ends the run. -/
theorem run_of_exit {launch : Launch} {status : ExitStatus}
    (hlaunch : s.launch env = .ok (some launch)) (hending : launch.ending = some status) :
    s.run env requests false =
      ⟨(answer s.service requests).1, some launch, some (.error (.exited status)), .reaped,
        (answer s.service requests).2⟩ := by
  unfold run sessionEvents
  rw [hlaunch]
  dsimp only [Option.bind_some]
  rw [if_neg Bool.false_ne_true, hending, Running.play_clients rfl rfl (by nofun),
    Running.play_companionExited rfl rfl]
  rfl

/-- Without a request for a shutdown, and with no companion that ends by itself, the run goes on. -/
theorem run_of_endless (hlaunch : s.launch env = .ok l) (hending : l.bind (·.ending) = none) :
    s.run env requests false =
      ⟨(answer s.service requests).1, l, none, if l.isSome then .running else .absent,
        (answer s.service requests).2⟩ := by
  unfold run sessionEvents
  rw [hlaunch]
  dsimp only
  rw [if_neg Bool.false_ne_true, hending, Running.play_clients rfl rfl (by cases l <;> nofun),
    Running.play_nil (Running.ready_eq_nil rfl (by cases l <;> nofun))]
  rfl

end Server

/-- What a session tells of a run that it is the session of. -/
structure Session.Tells (session : Session) (acts : List Act) (h : Hosting) : Prop where
  phase : h.phase = session.result.elim .serving .returned
  launched : ∀ l, .launched (some l) ∈ acts ↔ session.launched = some l
  companion : h.running.companion = session.companion
  responses : h.responses = session.responses
  service : h.service = session.service

theorem Closes.tells (hcloses : Closes s env acts h result acts' h')
    (hlaunch : s.launch env = .ok l) :
    Session.Tells ⟨h.responses, l, some result, if l.isSome then .reaped else .absent, h.service⟩
      (acts ++ acts') h' := by
  obtain ⟨hlaunched, hcompanion⟩ := hcloses.runs.launched_of_returned hcloses.returned hlaunch
  exact ⟨hcloses.returned, fun _ => (hlaunched _).trans eq_comm, hcompanion, hcloses.responses,
    hcloses.service⟩

theorem Idle.tells (hidle : Idle s env acts h) (hlaunch : s.launch env = .ok l)
    (hrunning : h.running.companion = if l.isSome then .running else .absent) :
    Session.Tells ⟨h.responses, l, none, if l.isSome then .running else .absent, h.service⟩
      acts h := by
  have haccounts := hidle.runs.accounted.phase
  rw [hidle.phase] at haccounts
  exact ⟨hidle.phase, fun _ => (hidle.runs.launched_mem_iff haccounts.1 hlaunch _).trans eq_comm,
    hrunning, rfl, rfl⟩

/-- **A server that is run** goes through one of its runs, of which its session tells how far it has
got, which companion was launched and what is left of it, what was answered and what the service
is then. -/
theorem Server.run_runs (s : Server) (env : Environment) (requests : List Http.RawRequest)
    (requested : Bool) :
    ∃ acts h, Runs s env acts h ∧ (s.run env requests requested).Tells acts h := by
  have hstart : Runs s env [] _ := .start
  cases hlaunch : s.launch env with
  | error e =>
    rw [run_of_refused hlaunch]
    exact ⟨_, _, hstart.step (.refused rfl hlaunch), rfl, by simp, rfl, rfl, rfl⟩
  | ok l =>
    have hidle : Idle s env _ _ := ⟨hstart.step (.launched rfl hlaunch), rfl, rfl, rfl⟩
    obtain ⟨acts, h, hserved, hrunning, hservice, hresponses⟩ := hidle.exists_served requests
    have hcompanion : h.running.companion = if l.isSome then .running else .absent := by
      rw [hrunning]
      rfl
    cases requested with
    | true =>
      obtain ⟨acts', h', hcloses⟩ := hserved.exists_returned_ok
      have htells := hcloses.tells hlaunch
      rw [hresponses, hservice] at htells
      exact ⟨_, h', hcloses.runs, run_of_requested hlaunch ▸ htells⟩
    | false =>
      cases hending : l.bind (·.ending) with
      | none =>
        have htells := hserved.tells hlaunch hcompanion
        rw [hresponses, hservice] at htells
        exact ⟨acts, h, hserved.runs, run_of_endless hlaunch hending ▸ htells⟩
      | some status =>
        obtain ⟨launch, rfl, hstatus⟩ := Option.bind_eq_some_iff.mp hending
        obtain ⟨acts', h', hcloses⟩ := hserved.exists_returned_exited hcompanion status
        have htells := hcloses.tells hlaunch
        rw [hresponses, hservice] at htells
        exact ⟨_, h', hcloses.runs, run_of_exit hlaunch hstatus ▸ htells⟩

end Sessions

/-- **No companion outlives its host.** Take a run of a server up to a moment where it has
returned, with requests, connections, the request for a shutdown and the exit of the companion in
any order, and either way to end taken when both are open. A companion that was launched has gone
and its status has been taken; without a launch there is none. The result is the failure to start
it only if the launch failed that way, and then nobody was answered and the service is as it was.
It is an exit with some status only if there is a proxy to be launched, it was launched, and it
exited with that status before anything was done to kill it. It is good only if a shutdown was
requested, and without a proxy it is good. What the server does when it is run through requests is
one of these runs, and its session tells of that run what was launched, what is left of it, and how
the run ended if it did. -/
theorem companion_never_outlives (s : Server) (env : Environment) :
    (∀ acts h result, Runs s env acts h → h.phase = .returned result →
      ((∃ l, .launched (some l) ∈ acts) → h.running.companion = .reaped) ∧
      ((∀ l, .launched (some l) ∉ acts) → h.running.companion = .absent) ∧
      (∀ command why, result = .error (.spawn command why) →
        s.launch env = .error (.spawn command why) ∧ (∀ r, .answered r ∉ acts) ∧
          h.responses = [] ∧ h.service = s.service) ∧
      (∀ status, result = .error (.exited status) →
        s.proxy ≠ none ∧ (∃ l, .launched (some l) ∈ acts) ∧ ExitedByItself acts status) ∧
      (result = .ok () → .event .shutdownRequested ∈ acts) ∧
      (s.proxy = none → result = .ok ())) ∧
    ∀ requests requested,
      ∃ acts h, Runs s env acts h ∧ (s.run env requests requested).Tells acts h := by
  refine ⟨fun acts h result hruns hphase => ?_, Server.run_runs s env⟩
  refine ⟨fun ⟨_, hmem⟩ => hruns.reaped_of_launched hphase hmem,
    hruns.absent_of_not_launched hphase, ?_, ?_, ?_, hruns.ok_of_proxy_none hphase⟩
  · rintro command why rfl
    obtain ⟨hlaunch, hfresh⟩ := hruns.fresh_of_spawn hphase
    exact ⟨hlaunch, hfresh.answered, hfresh.responses, hfresh.service⟩
  · rintro status rfl
    obtain ⟨hexited, l, hmem, hlaunch⟩ := hruns.exists_launched_of_exited hphase
    refine ⟨fun hproxy => ?_, ⟨l, hmem⟩, hexited⟩
    cases (Server.launch_of_proxy_none hproxy env).symm.trans hlaunch
  · rintro rfl
    exact hruns.requested_of_ok hphase

/-- A companion that exits by itself after it was found running and before it is killed. -/
theorem companion_never_outlives_late_exit :
    let s : Server := {
      address := ⟨"127.0.0.1", 2573⟩
      service := .ofTracker { primaryId := 0, observer := .logging }
      proxy := some { command := ["/p", "-v"] } }
    let env : Environment := {
      files := { read := fun _ => .error ⟨"no file"⟩, contains := fun _ => false }
      runtime := fun _ => .ok ()
      listen := fun _ => .ok ⟨"127.0.0.1", 2573⟩
      start := fun _ => .ok (some (.code 3)) }
    ∃ acts h, Runs s env acts h ∧ h.phase = .returned (.ok ()) ∧
      .event (.companionExited (.code 3)) ∈ acts ∧ h.running.companion = .reaped := by
  intro s env
  let l : Launch := {
    order := {
      executable := "/p"
      arguments := ["-v", "--listen_addr", "[::1]:2501", "--observer_url", "http://127.0.0.1:2573"]
      directory := none }
    ending := some (.code 3) }
  have hlaunch : s.launch env = .ok (some l) := by decide
  have hstart : Runs s env [] _ := .start
  have hlaunched := hstart.step (.launched rfl hlaunch)
  have hrequested := hlaunched.step (.event (e := .shutdownRequested) rfl rfl)
  have hselected := hrequested.step
    (.selected (b := .served) rfl (Running.mem_ready.mpr (.inl ⟨rfl, rfl⟩)))
  have hfound := hselected.step (.foundRunning rfl rfl)
  have hexited := hfound.step
    (.event (e := .companionExited (.code 3)) rfl (Running.after?_companionExited rfl _))
  have hkilled := hexited.step (.killed rfl)
  have hwaited := hkilled.step (.waited rfl (rfl : _ = Companion.exited (.code 3)))
  obtain ⟨hgone, -⟩ := (companion_never_outlives s env).1 _ _ _ hwaited rfl
  exact ⟨_, _, hwaited, rfl, by simp, hgone ⟨l, by simp⟩⟩

end NodeCoverage.Host
