import MeshSkin.Document.Options
import MeshSkin.Document.Surface
import MeshSkin.Extractor
import MeshSkin.Proofs.Attribute.Extendable
import MeshSkin.Proofs.Document.RoundTrip
import MeshSkin.Proofs.Extraction.CellNumbering
import MeshSkin.Proofs.Extraction.Centres
import MeshSkin.Proofs.Extraction.Clipping
import MeshSkin.Proofs.Extraction.Closed
import MeshSkin.Proofs.Extraction.Conforming
import MeshSkin.Proofs.Extraction.Counts
import MeshSkin.Proofs.Extraction.Cyclic
import MeshSkin.Proofs.Extraction.GhostLevels
import MeshSkin.Proofs.Extraction.Join
import MeshSkin.Proofs.Extraction.PointNumbering
import MeshSkin.Proofs.Extraction.Reveal
import MeshSkin.Proofs.Extraction.Stopped
import MeshSkin.Proofs.Extraction.WellFormed
import MeshSkin.Proofs.Incidence.Tiling
import MeshSkin.Proofs.Surface.Sorted
import MeshSkin.Proofs.Skin.Centres
import MeshSkin.Incidence.Query
import MeshSkin.Proofs.Incidence.Queries
import MeshSkin.Proofs.Visibility.Boxes
import MeshSkin.Proofs.Visibility.Modes
import MeshSkin.Visibility.Sharing
import MeshSkin.Proofs.Extraction.Clipped
import MeshSkin.Proofs.Mesh.FirstFault
import MeshSkin.Proofs.Mesh.Calls
import MeshSkin.Proofs.Attribute.Selected
import MeshSkin.Proofs.Connectivity.Steps
import MeshSkin.Proofs.Extraction.Constant
import MeshSkin.Extraction.Trace
import MeshSkin.Proofs.Extraction.Ticks
