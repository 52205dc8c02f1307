import ScriptLoader.Loader
import ScriptLoader.Disk.Volume
import ScriptLoader.Graph.Closure
import ScriptLoader.Proofs.FileStore.Effect
import ScriptLoader.Proofs.FileStore.Version
import ScriptLoader.Proofs.Collection
import ScriptLoader.Proofs.Outcome
import ScriptLoader.Proofs.Graph.Reachability
import ScriptLoader.Proofs.Graph.Transposition
import ScriptLoader.Proofs.Instance.History
import ScriptLoader.Proofs.Instance.Result
import ScriptLoader.Proofs.Loader.Instances
import ScriptLoader.Proofs.Loader.Stamps
import ScriptLoader.Proofs.Path.NormalForm
import ScriptLoader.Proofs.FileStore.Frame
import ScriptLoader.Proofs.Instance.Edges
import ScriptLoader.Proofs.Instance.WatchPass
import ScriptLoader.Proofs.Instance.Footprint
import ScriptLoader.Proofs.Instance.Keys
import ScriptLoader.Proofs.Loader.Keys
import ScriptLoader.Proofs.Instance.HostView
import ScriptLoader.Proofs.FileStore.Accounting
import ScriptLoader.Proofs.FileStore.Modified
import ScriptLoader.Proofs.Loader.Numbering
import ScriptLoader.Proofs.Loader.Identity
import ScriptLoader.Proofs.Loader.Isolation
import ScriptLoader.Proofs.FileStore.Interleaving
import ScriptLoader.Proofs.Instance.ExternalEdit
import ScriptLoader.Proofs.Instance.DependencyReport
import ScriptLoader.Proofs.Loader.WatchedResource
import ScriptLoader.Proofs.Options.RoundTrip
import ScriptLoader.Proofs.Loader.WholePass
import ScriptLoader.Proofs.Loader.Reuse
import ScriptLoader.Proofs.Loader.Refusal
import ScriptLoader.Proofs.Path.Shape
import ScriptLoader.Proofs.Path.Joining
import ScriptLoader.Proofs.Graph.Recording
import ScriptLoader.Proofs.Graph.Enumeration
import ScriptLoader.Proofs.Graph.Agreement
import ScriptLoader.Proofs.Graph.Extension
import ScriptLoader.Proofs.Graph.Removal
import ScriptLoader.Proofs.Pattern.Removal
import ScriptLoader.Proofs.SourceMap.Lines
import ScriptLoader.Proofs.SourceMap.Stripping
import ScriptLoader.Proofs.SourceMap.Reading
import ScriptLoader.Proofs.SourceMap.RoundTrip
import ScriptLoader.Proofs.Instance.Verdict
import ScriptLoader.Proofs.Text.Trimming
import ScriptLoader.Proofs.Diagnostic.Record
import ScriptLoader.Proofs.Diagnostic.Collected
import ScriptLoader.Proofs.Options.IgnoredCodes
