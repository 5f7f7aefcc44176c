import DexLens.Monitor.Message
import DexLens.Network.Library
import DexLens.Report.Usage
import DexLens.Risk.Markup
import DexLens.Report.Workbench
import DexLens.Source.Class
import DexLens.Source.Dump
import DexLens.Proofs.Monitor.Coverage
import DexLens.Proofs.CallGraph.Export
import DexLens.Proofs.Monitor.Streams
import DexLens.Proofs.Monitor.Numbering
import DexLens.Proofs.Monitor.Keeping
import DexLens.Proofs.Monitor.Handling
import DexLens.Proofs.Analysis.Deferred
import DexLens.Proofs.Source.Effects
import DexLens.Proofs.Source.Registers
import DexLens.Proofs.Source.Places
import DexLens.Proofs.Source.Printing
import DexLens.Proofs.Source.Meeting
import DexLens.Proofs.Source.Ordering
import DexLens.Proofs.Inspect.Keys
import DexLens.Proofs.Inspect.References
import DexLens.Proofs.Inspect.Signatures
import DexLens.Proofs.Inspect.Permissions
import DexLens.Proofs.Dex.Values
import DexLens.Proofs.Dex.Tapes
import DexLens.Proofs.Dex.MemberLists
import DexLens.Proofs.Dex.Texts
import DexLens.Proofs.Dex.Wrapping
import DexLens.Proofs.Analysis.Guards
import DexLens.Proofs.Code.Shown
import DexLens.Proofs.Code.Formats
import DexLens.Proofs.Monitor.Reading
import DexLens.Proofs.CallGraph.Kinds
import DexLens.Proofs.CallGraph.Faithful
import DexLens.Proofs.Monitor.Targets
import DexLens.Proofs.Dex.Hierarchy
import DexLens.Proofs.Risk.Tagging
