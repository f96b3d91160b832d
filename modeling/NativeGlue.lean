import NativeGlue.FileTree.Codec
import NativeGlue.Main
import NativeGlue.Proofs.Build.Safety
import NativeGlue.Proofs.Generation.Declared
import NativeGlue.Proofs.Generation.Files
import NativeGlue.Proofs.Generation.Order
import NativeGlue.Proofs.Generation.Prototypes
import NativeGlue.Proofs.Signature.Addition
import NativeGlue.Proofs.Signature.Checked
import NativeGlue.Proofs.Signature.EverySite
import NativeGlue.Proofs.Signature.Lifetime
import NativeGlue.Proofs.Signature.Scope
import NativeGlue.Proofs.Symbol.Clash
import NativeGlue.Proofs.Table.Usable
import NativeGlue.Proofs.Tool.Linking
import NativeGlue.Rehearsal.Machine
import NativeGlue.Rehearsal.Scripted
import NativeGlue.Source.Codec
import NativeGlue.Proofs.Managed.Spelling
import NativeGlue.Proofs.Properties.Paths
import NativeGlue.Proofs.Properties.Layers
import NativeGlue.Datum.JsonText
import NativeGlue.Proofs.Datum.JsonText
import NativeGlue.Proofs.Datum.Shape
import NativeGlue.Proofs.Descriptor.RoundTrip
import NativeGlue.Proofs.Build.Outputs
import NativeGlue.Proofs.Build.Removal
import NativeGlue.Proofs.Scope.Segments
import NativeGlue.Proofs.Table.Unrelated
import NativeGlue.Proofs.Signature.Conflicts
import NativeGlue.Proofs.Signature.Counts
import NativeGlue.Proofs.Signature.Sections
import NativeGlue.Proofs.Signature.DataFlow
import NativeGlue.Proofs.Scope.RoundTrip
import NativeGlue.Proofs.Options.Layers
import NativeGlue.Proofs.Managed.Grammar
import NativeGlue.Proofs.Generation.Includes
import NativeGlue.Proofs.Build.Libraries
import NativeGlue.Proofs.Tool.Arguments
import NativeGlue.Proofs.Discovery.Below
import NativeGlue.Proofs.Properties.Lines
import NativeGlue.Proofs.Options.RoundTrip
import NativeGlue.Proofs.Staging.Versions
import NativeGlue.Proofs.Signature.Capture
import NativeGlue.Proofs.Signature.Choice
import NativeGlue.Proofs.Source.Indentation
import NativeGlue.Proofs.Table.Filled
import NativeGlue.Proofs.Rehearsal.Machine
import NativeGlue.Proofs.Tool.Exchange
