import MeshSkin.Document.Mesh
import MeshSkin.Surface

/-!
# Surfaces as documents

The stored form of a finished surface and of its counts. Surfaces are only written.
-/

namespace MeshSkin

namespace Stats

/-- The counts under the names they are stored by. -/
def named (stats : Stats) : List (String × Nat) :=
  [("cells_visited", stats.cellsVisited), ("cells_extracted", stats.cellsExtracted),
    ("cells_clipped", stats.cellsClipped), ("ghost_cells", stats.ghostCells),
    ("empty_cells", stats.emptyCells), ("unknown_cells", stats.unknownCells),
    ("cells_tessellated", stats.cellsTessellated), ("faces_emitted", stats.facesEmitted),
    ("faces_suppressed", stats.facesSuppressed),
    ("points_synthesized", stats.pointsSynthesized)]

def toDocument (stats : Stats) : Document :=
  .record (stats.named.map fun (name, count) => (name, .ofNat count))

end Stats

def Surface.toDocument (surface : Surface) : Document :=
  .record [("points", .ofList Point.toDocument surface.points.toList),
    ("point_data", surface.pointData.toDocument),
    ("verts", surface.verts.toDocument),
    ("lines", surface.lines.toDocument),
    ("polys", surface.polys.toDocument),
    ("strips", surface.strips.toDocument),
    ("cell_data", surface.cellData.toDocument),
    ("origin_cell_ids", .ofList .ofNat surface.origins.toList),
    ("stats", surface.stats.toDocument),
    ("aborted", .bool surface.aborted)]

end MeshSkin
