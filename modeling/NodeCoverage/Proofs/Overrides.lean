import Mathlib
import NodeCoverage.Config.Override
import NodeCoverage.Proofs.Supplied

/-!
# Overrides

The command line has the last word about the settings, but only about what it names. What an
option supplies takes the place of what the settings say; a field that no option names is kept. An
option of the proxy brings up a proxy with the usual settings where there was none. Whatever file
the settings come from, the overrides may mend a proxy without an executable, and nothing they do
can make a sound proxy unsound.

Results:
* `Settings.override_override`: the overrides come to the same when they are made again;
* `Settings.eq_of_proxy_override`, `ProxySettings.command_override`: the proxy after the overrides,
  and its command;
* `Settings.validate_eq_ok_iff`: when settings are sound;
* `CommandLine.Arguments.Hold.overridden`: a field after the overrides, by what is supplied;
* `CommandLine.Arguments.Hold.validate_override_iff`: when settings are sound after them;
* **`overrides_take_precedence`**: all of it, for every command line that is accepted.
-/

namespace NodeCoverage

open CommandLine

/-! ## The overrides by themselves -/

theorem replaceHead_eq (executable : String) (command : List String) :
    replaceHead executable command = executable :: command.tail := by
  cases command <;> rfl

namespace ProxySettings

variable (p : ProxySettings) (a : Arguments)

theorem command_override :
    (p.override a).command =
      (a.proxyCommand.map (· :: p.command.tail)).getD p.command := by
  unfold override
  simp only [replaceHead_eq]

theorem override_override : (p.override a).override a = p.override a := by
  unfold override
  cases a.proxyCommand <;> cases a.proxyListenAddr <;> simp [replaceHead_eq]

end ProxySettings

namespace Settings

variable {c : Settings} {a : Arguments}

/-- The proxy that the options of the proxy are about: that of the settings, or the usual one. -/
def baseProxy (c : Settings) : ProxySettings :=
  c.proxy.getD {}

theorem proxy_override_of_noProxy (h : a.noProxy = true) : (c.override a).proxy = none :=
  if_pos h

theorem proxy_override_of_option (h : a.noProxy = false)
    (hoption : a.has .proxyCommand = true ∨ a.has .proxyListenAddr = true) :
    (c.override a).proxy = some (c.baseProxy.override a) := by
  have hsome : (a.proxyCommand.isSome || a.proxyListenAddr.isSome) = true :=
    (Bool.or_eq_true _ _).mpr hoption
  unfold override
  simp only [h, hsome, Bool.false_eq_true, if_false, if_true]
  rfl

theorem proxy_override_of_none (h : a.noProxy = false) (hcommand : a.has .proxyCommand = false)
    (haddr : a.has .proxyListenAddr = false) : (c.override a).proxy = c.proxy := by
  have hnone : (a.proxyCommand.isSome || a.proxyListenAddr.isSome) = false :=
    (Bool.or_eq_false_iff).mpr ⟨hcommand, haddr⟩
  unfold override
  simp only [h, hnone, Bool.false_eq_true, if_false]

/-- A proxy after the overrides is the old one after them. -/
theorem eq_of_proxy_override {p : ProxySettings} (h : (c.override a).proxy = some p) :
    p = c.baseProxy.override a := by
  cases hno : a.noProxy with
  | true => cases (proxy_override_of_noProxy hno).symm.trans h
  | false =>
    by_cases hoption : a.has .proxyCommand = true ∨ a.has .proxyListenAddr = true
    · exact Option.some.inj (h.symm.trans (proxy_override_of_option hno hoption))
    · obtain ⟨hcommand, haddr⟩ := not_or.mp hoption
      rw [Bool.not_eq_true] at hcommand haddr
      have hproxy := (proxy_override_of_none hno hcommand haddr).symm.trans h
      unfold baseProxy
      rw [hproxy, Option.getD_some]
      unfold Arguments.has at hcommand haddr
      rw [Option.isSome_eq_false_iff, Option.isNone_iff_eq_none] at hcommand haddr
      unfold ProxySettings.override
      rw [hcommand, haddr]
      rfl

/-- **Overrides that are made again** change nothing. -/
theorem override_override (c : Settings) (a : Arguments) :
    (c.override a).override a = c.override a := by
  have hservice : (c.service.override a).override a = c.service.override a := by
    unfold ServiceSettings.override
    cases a.listenAddr <;> cases a.workers <;> rfl
  have hproxy : ((c.override a).override a).proxy = (c.override a).proxy := by
    cases hno : a.noProxy with
    | true => rw [proxy_override_of_noProxy hno, proxy_override_of_noProxy hno]
    | false =>
      by_cases hoption : a.has .proxyCommand = true ∨ a.has .proxyListenAddr = true
      · rw [proxy_override_of_option hno hoption, proxy_override_of_option hno hoption]
        unfold baseProxy
        rw [proxy_override_of_option hno hoption, Option.getD_some]
        exact congrArg some (ProxySettings.override_override _ a)
      · obtain ⟨hcommand, haddr⟩ := not_or.mp hoption
        rw [Bool.not_eq_true] at hcommand haddr
        exact proxy_override_of_none hno hcommand haddr
  have hfields : ∀ s t : Settings, s.service = t.service → s.proxy = t.proxy → s = t := by
    rintro ⟨_, _⟩ ⟨_, _⟩ rfl rfl
    rfl
  exact hfields _ _ hservice hproxy

/-- **Sound settings** have a worker, and an executable for the proxy if there is one. -/
theorem validate_eq_ok_iff :
    c.validate = .ok () ↔ 1 ≤ c.service.workers ∧ ∀ p, c.proxy = some p → p.command ≠ [] := by
  unfold validate
  split
  · next h => simp [h]
  · next h =>
    have hworkers : 1 ≤ c.service.workers := Nat.one_le_iff_ne_zero.mpr h
    cases hp : c.proxy with
    | none => simp [hworkers]
    | some p => cases hc : p.command <;> simp [hworkers, hc]

end Settings

/-! ## By what is supplied -/

/-- How an option and a field go together: the field is what the option supplies, read by `read`,
and what it was before if the option supplies nothing. -/
structure Overridden {α : Type} (xs : List Supply) (s : Setting) (read : String → Option α)
    (old new : α) : Prop where
  supplied : ∀ value, .setting s value ∈ xs → read value = some new
  kept : (∀ value, .setting s value ∉ xs) → new = old

namespace CommandLine.Arguments.Hold

variable {a : Arguments} {xs : List Supply}

/-- **A field after the overrides** that takes what one option gives. -/
theorem overridden {α : Type} (h : a.Hold xs) (s : Setting) {read : String → Option α}
    (field : Option α)
    (hgives : ∀ value, a.Gives s value → ∃ x, read value = some x ∧ field = some x)
    (hnone : a.has s = false → field = none) (old : α) :
    Overridden xs s read old (field.getD old) where
  supplied value hmem := by
    obtain ⟨x, hread, hfield⟩ := hgives value (h.given s value hmem)
    rw [hfield]
    exact hread
  kept hnot := by
    rw [hnone (h.absent s hnot)]
    rfl

theorem has (h : a.Hold xs) {s : Setting} {value : String} (hmem : .setting s value ∈ xs) :
    a.has s = true :=
  (h.given s value hmem).has

theorem noProxy_eq_false (h : a.Hold xs) (hflag : .noProxy ∉ xs) : a.noProxy = false := by
  rw [← Bool.not_eq_true, h.noProxy]
  exact hflag

/-- Next to the flag against the proxy there is no option of the proxy. -/
theorem no_option_of_noProxy (h : a.Hold xs) (hconsistent : a.consistent = true)
    (hflag : .noProxy ∈ xs) (x : String) :
    .setting .proxyCommand x ∉ xs ∧ .setting .proxyListenAddr x ∉ xs := by
  have hboth : (!(a.noProxy && (a.has .proxyCommand || a.has .proxyListenAddr))) = true :=
    hconsistent
  rw [h.noProxy.mpr hflag, Bool.true_and, Bool.not_eq_true'] at hboth
  obtain ⟨hcommand, haddr⟩ := Bool.or_eq_false_iff.mp hboth
  exact ⟨fun hmem => Bool.false_ne_true (hcommand.symm.trans (h.has hmem)),
    fun hmem => Bool.false_ne_true (haddr.symm.trans (h.has hmem))⟩

theorem proxy_override_eq_self {c : Settings} (h : a.Hold xs) (hflag : .noProxy ∉ xs)
    (hneither : ∀ x, .setting .proxyCommand x ∉ xs ∧ .setting .proxyListenAddr x ∉ xs) :
    (c.override a).proxy = c.proxy :=
  Settings.proxy_override_of_none (h.noProxy_eq_false hflag)
    (h.absent _ fun x => (hneither x).1) (h.absent _ fun x => (hneither x).2)

theorem proxy_override_of_mem {c : Settings} (h : a.Hold xs) (hconsistent : a.consistent = true)
    {x : String} (hx : .setting .proxyCommand x ∈ xs ∨ .setting .proxyListenAddr x ∈ xs) :
    (c.override a).proxy = some (c.baseProxy.override a) := by
  have hflag : .noProxy ∉ xs := fun hflag =>
    hx.elim (h.no_option_of_noProxy hconsistent hflag x).1
      (h.no_option_of_noProxy hconsistent hflag x).2
  exact Settings.proxy_override_of_option (h.noProxy_eq_false hflag) (hx.imp h.has h.has)

theorem overridden_command (h : a.Hold xs) (p : ProxySettings) :
    Overridden xs .proxyCommand (fun x => some (x :: p.command.tail)) p.command
      (p.override a).command := by
  rw [ProxySettings.command_override]
  refine h.overridden .proxyCommand _ (fun value hvalue => ⟨_, rfl, ?_⟩) (fun hhas => ?_) _
  · rw [show a.proxyCommand = some value from hvalue]
    rfl
  · rw [show a.proxyCommand = none by simpa [Arguments.has] using hhas]
    rfl

/-- The command of the proxy has an executable if one is supplied, or if it had one before. -/
theorem command_override_ne_nil_iff (h : a.Hold xs) (p : ProxySettings) :
    (p.override a).command ≠ [] ↔ (∃ x, .setting .proxyCommand x ∈ xs) ∨ p.command ≠ [] := by
  have hcommand := h.overridden_command p
  by_cases hgiven : ∃ x, .setting .proxyCommand x ∈ xs
  · obtain ⟨x, hx⟩ := hgiven
    refine iff_of_true ?_ (.inl ⟨x, hx⟩)
    rw [← Option.some.inj (hcommand.supplied x hx)]
    exact List.cons_ne_nil _ _
  · rw [hcommand.kept fun x hx => hgiven ⟨x, hx⟩, or_iff_right hgiven]

/-- **Settings are sound after the overrides** if they have a worker and no proxy that is left
without an executable. -/
theorem validate_override_iff (h : a.Hold xs) (c : Settings) :
    (c.override a).validate = .ok () ↔
      1 ≤ (c.override a).service.workers ∧
        ((c.override a).proxy = none ∨ (∃ x, .setting .proxyCommand x ∈ xs) ∨
          c.baseProxy.command ≠ []) := by
  rw [Settings.validate_eq_ok_iff]
  refine and_congr_right fun _ => ?_
  cases hp : (c.override a).proxy with
  | none => exact iff_of_true nofun (.inl rfl)
  | some p =>
    obtain rfl := Settings.eq_of_proxy_override hp
    rw [← h.command_override_ne_nil_iff]
    simp

end CommandLine.Arguments.Hold

/-- **The command line takes precedence.** Take a command line that is accepted and any settings
`c`, from a file or built in, and let `e` be the settings after the overrides. The command line
spells something, and whichever way it is read: the address of the service and the number of
workers are what is supplied, else those of `c`, and the primary id is that of `c`. With the flag
against the proxy there is none, and no option of the proxy stands next to it. Without the flag and
without an option of the proxy, the proxy is that of `c`. With an option of the proxy there is a
proxy: its command is the supplied executable before the other words of the old command, or the old
command, its address is the supplied one or the old one, and its directory is the old one, where
the old proxy is that of `c`, or the usual one if `c` has none. Overrides that are made again
change nothing. And `e` is sound if and only if it has a worker, and either has no proxy, or was
supplied with an executable for it, or the old command was not empty. -/
theorem overrides_take_precedence {arguments : List String} {a : Arguments}
    (h : parse arguments = .ok a) (c : Settings) :
    (∃ xs, Spells arguments xs) ∧ ∀ xs, Spells arguments xs →
      let e := c.override a
      let old : ProxySettings := c.proxy.getD {}
      Overridden xs .listenAddr some c.service.listenAddr e.service.listenAddr ∧
      Overridden xs .workers readCount? c.service.workers e.service.workers ∧
      e.service.primaryId = c.service.primaryId ∧
      (.noProxy ∈ xs →
        e.proxy = none ∧
          ∀ x, .setting .proxyCommand x ∉ xs ∧ .setting .proxyListenAddr x ∉ xs) ∧
      (.noProxy ∉ xs →
        (∀ x, .setting .proxyCommand x ∉ xs ∧ .setting .proxyListenAddr x ∉ xs) →
        e.proxy = c.proxy) ∧
      (∀ x, .setting .proxyCommand x ∈ xs ∨ .setting .proxyListenAddr x ∈ xs →
        ∃ p, e.proxy = some p ∧
          Overridden xs .proxyCommand (fun x => some (x :: old.command.tail)) old.command
            p.command ∧
          Overridden xs .proxyListenAddr some old.listenAddr p.listenAddr ∧
          p.workingDir = old.workingDir) ∧
      e.override a = e ∧
      (e.validate = .ok () ↔
        1 ≤ e.service.workers ∧
          (e.proxy = none ∨ (∃ x, .setting .proxyCommand x ∈ xs) ∨ old.command ≠ [])) := by
  obtain ⟨xs₀, hxs₀, -, hconsistent⟩ := parse_eq_ok_iff.mp h
  refine ⟨⟨xs₀, hxs₀⟩, fun xs hxs => ?_⟩
  have hold := hxs.hold h
  intro e old
  refine ⟨?_, ?_, rfl, fun hflag => ?_, hold.proxy_override_eq_self, fun x hx => ?_,
    c.override_override a, hold.validate_override_iff c⟩
  · exact hold.overridden .listenAddr a.listenAddr (fun value hvalue => ⟨value, rfl, hvalue⟩)
      (fun hhas => by simpa [Arguments.has] using hhas) _
  · exact hold.overridden .workers a.workers (fun _ ⟨n, hread, hn⟩ => ⟨n, hread, hn⟩)
      (fun hhas => by simpa [Arguments.has] using hhas) _
  · exact ⟨Settings.proxy_override_of_noProxy (hold.noProxy.mpr hflag),
      hold.no_option_of_noProxy hconsistent hflag⟩
  · have haddr : Overridden xs .proxyListenAddr some old.listenAddr (old.override a).listenAddr :=
      hold.overridden .proxyListenAddr a.proxyListenAddr
        (fun value hvalue => ⟨value, rfl, hvalue⟩)
        (fun hhas => by simpa [Arguments.has] using hhas) _
    exact ⟨old.override a, hold.proxy_override_of_mem hconsistent hx, hold.overridden_command old,
      haddr, rfl⟩

/-- Settings that cannot be run with are mended by two options, in two of their spellings. -/
theorem overrides_take_precedence_mended :
    let arguments := ["-w=007", "--proxy-command", "/opt/proxy", "--"]
    let xs : List Supply := [.setting .workers "007", .setting .proxyCommand "/opt/proxy"]
    let a : Arguments := { workers := some 7, proxyCommand := some "/opt/proxy" }
    let c : Settings := { service := { workers := 0 }, proxy := some { command := [] } }
    parse arguments = .ok a ∧ Spells arguments xs ∧
      c.validate = .error .noWorkers ∧ (c.override a).validate = .ok () ∧
      (c.override a).service.workers = 7 ∧
      (c.override a).proxy = some { command := ["/opt/proxy"] } := by
  intro arguments xs a c
  have hparse : parse arguments = .ok a := by cbv
  have hxs : Spells arguments xs :=
    have htext : arguments =
        ["-" ++ String.singleton 'w' ++ ("=" ++ "007")] ++
          (["--" ++ "proxy-command", "/opt/proxy"] ++ ["--"]) := by decide
    htext ▸ .cons (.shortEquals "007" (by decide))
      (.cons (.longApart (by decide) (.inr (by decide))) .escape)
  obtain ⟨-, hworkers, -, -, -, -, -, hsound⟩ :=
    (overrides_take_precedence hparse c).2 xs hxs
  have hcommand : Supply.setting .proxyCommand "/opt/proxy" ∈ xs := by decide
  have hseven : readCount? "007" = some 7 := by cbv
  have hread := hworkers.supplied "007" (by decide)
  refine ⟨hparse, hxs, rfl, hsound.mpr ⟨by decide, .inr (.inl ⟨_, hcommand⟩)⟩, ?_, rfl⟩
  exact (Option.some.inj (hseven.symm.trans hread)).symm

end NodeCoverage
