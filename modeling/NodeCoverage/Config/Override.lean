import NodeCoverage.CommandLine.Arguments
import NodeCoverage.Config.Settings

/-!
# Overrides

What the command line says takes the place of what the settings say, and leaves the rest alone.
-/

namespace NodeCoverage

open CommandLine (Arguments)

/-- Puts another executable at the head of a command line. -/
def replaceHead (executable : String) : List String → List String
  | [] => [executable]
  | _ :: arguments => executable :: arguments

/-- The proxy with what the command line says about it. -/
def ProxySettings.override (p : ProxySettings) (a : Arguments) : ProxySettings where
  command := (a.proxyCommand.map (replaceHead · p.command)).getD p.command
  listenAddr := a.proxyListenAddr.getD p.listenAddr
  workingDir := p.workingDir

/-- The service with what the command line says about it. -/
def ServiceSettings.override (s : ServiceSettings) (a : Arguments) : ServiceSettings where
  listenAddr := a.listenAddr.getD s.listenAddr
  workers := a.workers.getD s.workers
  primaryId := s.primaryId

/-- The settings with what the command line says. An option of the proxy brings up a proxy with
the usual settings if there is none. -/
def Settings.override (s : Settings) (a : Arguments) : Settings where
  service := s.service.override a
  proxy :=
    if a.noProxy then none
    else if a.proxyCommand.isSome || a.proxyListenAddr.isSome then
      some ((s.proxy.getD {}).override a)
    else s.proxy

end NodeCoverage
