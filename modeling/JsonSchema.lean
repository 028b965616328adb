import JsonSchema.Main
import JsonSchema.Proofs.Transparency
import JsonSchema.Proofs.Alias.Order
import JsonSchema.Proofs.Alias.Paths
import JsonSchema.Proofs.Graph.Indexing
import JsonSchema.Proofs.Graph.Missing
import JsonSchema.Proofs.Text.Verdicts
import JsonSchema.Proofs.Session.UniqueItems
import JsonSchema.Proofs.Digest.Identity
import JsonSchema.Proofs.Comparator.Digests
import JsonSchema.Proofs.Runner.FailFast
import JsonSchema.Proofs.Graph.Cycles
import JsonSchema.Proofs.Session.Nesting
import JsonSchema.Proofs.Graph.Termination
import JsonSchema.Proofs.Number.Integers
import JsonSchema.Proofs.Number.NormalForm
import JsonSchema.Proofs.Number.Opposite
import JsonSchema.Proofs.Alias.Identity
import JsonSchema.Proofs.Pointer.Fragment
import JsonSchema.Proofs.Session.ObjectSize
import JsonSchema.Proofs.Discovery.Depth
import JsonSchema.Proofs.Extension
import JsonSchema.Proofs.Settings.Layers
import JsonSchema.Proofs.Format.DateTime
import JsonSchema.Proofs.Format.Host
import JsonSchema.Proofs.Format.Uri
import JsonSchema.Proofs.Format.NamePatterns
import JsonSchema.Proofs.Format.TimestampPattern
import JsonSchema.Proofs.Format.UriPattern
import JsonSchema.Proofs.Session.Alignment
