import NodeCoverage.Config.Settings
import NodeCoverage.Toml.Document
import NodeCoverage.Toml.Form

/-!
# Settings from TOML

A document has a table for the service and one for the proxy. Either may be left out, and so may
any field of either. Without a proxy table there is no proxy.
-/

namespace NodeCoverage

/-- Why a document gives no settings. Where in the document that shows is left out. -/
inductive ConfigError where
  /-- The document is not sound TOML. What is wrong with it is left out. -/
  | malformed
  /-- The document does not have the form of settings. -/
  | mismatched (m : Mismatch)
  deriving DecidableEq, Repr

open Toml

/-- How the settings of the service are read. -/
def ServiceSettings.form : Form ServiceSettings where
  name := "ServiceSettings"
  blank := {}
  fields := [
    .of "listen-addr" (readText "a string") fun a s => { s with listenAddr := a },
    .of "workers" (readNatural "usize") fun n s => { s with workers := n },
    .of "primary-fuzzer-id" (readNatural "u64") fun n s => { s with primaryId := n.toUInt64 }]

/-- How the settings of the proxy are read. -/
def ProxySettings.form : Form ProxySettings where
  name := "ProxySettings"
  blank := {}
  fields := [
    .of "command" (readList (readText "a string")) fun c p => { p with command := c },
    .of "listen-addr" (readText "a string") fun a p => { p with listenAddr := a },
    { Field.of "working-dir" (readText "path string")
        fun d p => { p with workingDir := some d } with
      needed := true }]

namespace Settings

/-- How all settings are read. -/
def form : Form Settings where
  name := "Settings"
  blank := {}
  fields := [
    .of "service" ServiceSettings.form.read fun s c => { c with service := s },
    .of "proxy" ProxySettings.form.read fun p c => { c with proxy := some p }]

/-- The settings of a document. -/
def ofToml (document : String) : Except ConfigError Settings :=
  match parse? document with
  | none => .error .malformed
  | some entries => (form.readEntries entries).mapError .mismatched

end Settings

end NodeCoverage
