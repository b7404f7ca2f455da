import VoxelTemplate.Main
import VoxelTemplate.Proofs.Geometry.Turning
import VoxelTemplate.Proofs.Template.Printing
import VoxelTemplate.Proofs.World.Blocks
import VoxelTemplate.Proofs.Geometry.Mirror
import VoxelTemplate.Proofs.Template.Shape
import VoxelTemplate.Proofs.Geometry.Opposite
import VoxelTemplate.Proofs.Plan.Passes
import VoxelTemplate.Proofs.Plan.Opposite
import VoxelTemplate.Proofs.Spec.Reading
import VoxelTemplate.Proofs.Spec.Opposite
import VoxelTemplate.Proofs.Plan.Alike
import VoxelTemplate.Proofs.World.Calls
import VoxelTemplate.Proofs.Template.Classes
import VoxelTemplate.Proofs.Template.Spans
import VoxelTemplate.Proofs.CommandLine.Refusal
import VoxelTemplate.Proofs.Plan.Reports
import VoxelTemplate.Proofs.Plan.Checked
import VoxelTemplate.Proofs.Plan.Locality
import VoxelTemplate.Proofs.World.Named
import VoxelTemplate.Proofs.Library.History
import VoxelTemplate.Proofs.World.Readback
import VoxelTemplate.Proofs.Geometry.Room
import VoxelTemplate.Proofs.Geometry.Table
import VoxelTemplate.Proofs.Plan.Foundation
import VoxelTemplate.Proofs.Plan.Corners
import VoxelTemplate.Proofs.Spec.NormalForm
import VoxelTemplate.Proofs.Spec.Verbatim
import VoxelTemplate.Proofs.Template.Triples
import VoxelTemplate.Proofs.Template.Places
import VoxelTemplate.Proofs.Template.Tokens
import VoxelTemplate.Proofs.Report.Headers
import VoxelTemplate.Proofs.CommandLine.Agreement
