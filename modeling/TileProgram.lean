import TileProgram.Assembly
import TileProgram.CommandLine.Run
import TileProgram.Compiler.Launch
import TileProgram.Container.Reader
import TileProgram.Descriptor.Accessors
import TileProgram.Descriptor.Summary
import TileProgram.Difference
import TileProgram.Execution.Desk
import TileProgram.Execution.Lobby
import TileProgram.Execution.Rendezvous
import TileProgram.Files.Tree
import TileProgram.Main
import TileProgram.Network.Json
import TileProgram.Proofs.Assembly.BlobAlignment
import TileProgram.Proofs.Assembly.DataSection
import TileProgram.Proofs.Assembly.FirstFailure
import TileProgram.Proofs.Assembly.FoldOrder
import TileProgram.Proofs.Assembly.Fusion
import TileProgram.Proofs.Assembly.Listing
import TileProgram.Proofs.Assembly.OperandOrder
import TileProgram.Proofs.Assembly.Relocatable
import TileProgram.Proofs.Assembly.Shapes
import TileProgram.Proofs.Assembly.Weights
import TileProgram.Proofs.CommandLine.Comparison
import TileProgram.Proofs.CommandLine.ShownValues
import TileProgram.Proofs.Container.Blobs
import TileProgram.Proofs.Container.DifferenceList
import TileProgram.Proofs.Container.Prefix
import TileProgram.Proofs.Container.Walk
import TileProgram.Proofs.Descriptor.Frame
import TileProgram.Proofs.Descriptor.Validity
import TileProgram.Proofs.Execution.Agreement
import TileProgram.Proofs.Execution.Closing
import TileProgram.Proofs.Execution.Compiled
import TileProgram.Proofs.Execution.Executed
import TileProgram.Proofs.Execution.Isolation
import TileProgram.Proofs.Execution.OneOutcome
import TileProgram.Proofs.Execution.Refused
import TileProgram.Proofs.Execution.RequestAccess
import TileProgram.Proofs.Layout.Elements
import TileProgram.Proofs.Layout.Placings
import TileProgram.Proofs.Network.RoundTrip
import TileProgram.Proofs.Register.Exact
import TileProgram.Proofs.Residency.Events
import TileProgram.Proofs.Residency.Plan
import TileProgram.Proofs.Stage.Maximal
import TileProgram.Proofs.Stage.Parameters
import TileProgram.Register.Json
import TileProgram.Text.Columns
