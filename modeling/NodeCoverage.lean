import NodeCoverage.Int128
import NodeCoverage.Main
import NodeCoverage.Simulator.Site
import NodeCoverage.Proofs.Run
import NodeCoverage.Proofs.Notification
import NodeCoverage.Proofs.Interleaving
import NodeCoverage.Proofs.Routing
import NodeCoverage.Proofs.Skipping
import NodeCoverage.Proofs.RoundTrip
import NodeCoverage.Proofs.Transparency
import NodeCoverage.Proofs.Gap
import NodeCoverage.Proofs.Observers
import NodeCoverage.Proofs.AnyInteger
import NodeCoverage.Proofs.Batch
import NodeCoverage.Proofs.Uninterpreted
import NodeCoverage.Proofs.AnySpelling
import NodeCoverage.Proofs.Poisoning
import NodeCoverage.Proofs.Finality
import NodeCoverage.Proofs.ExactInteger
import NodeCoverage.Proofs.WrongValue
import NodeCoverage.Proofs.Overrides
import NodeCoverage.Proofs.Launching
import NodeCoverage.Proofs.Toml.Grammar
import NodeCoverage.Proofs.Toml.Scanning
import NodeCoverage.Proofs.Toml.Values
import NodeCoverage.Proofs.Toml.Statements
import NodeCoverage.Proofs.Toml.Tables
import NodeCoverage.Proofs.Files
import NodeCoverage.Proofs.MachineWords
import NodeCoverage.Proofs.Shutdown
