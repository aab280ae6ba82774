import MeshSkin.Bucket
import MeshSkin.CellKind.Faces

/-!
# Treatment of each kind

How the skin treats a cell of each kind: what lies in fewer than three dimensions
goes to its bucket, solids contribute faces, and curved kinds are cut into straight
pieces first.
-/

namespace MeshSkin

inductive Treatment where
  | skip
  | direct (bucket : Bucket)
  | pixel
  | linearSolid (faces : FaceTable)
  | quadraticEdge
  | quadraticTriangle
  | quadraticQuad
  | quadraticSolid (faces : FaceTable)
  | unknown
  deriving DecidableEq, Repr

def CellKind.treatment : CellKind → Treatment
  | .empty => .skip
  | .vertex | .polyVertex => .direct .verts
  | .line | .polyLine => .direct .lines
  | .triangle | .quad | .polygon => .direct .polys
  | .triangleStrip => .direct .strips
  | .pixel => .pixel
  | .tetra => .linearSolid tetraFaces
  | .voxel => .linearSolid voxelFaces
  | .hexahedron => .linearSolid hexahedronFaces
  | .wedge => .linearSolid wedgeFaces
  | .pyramid => .linearSolid pyramidFaces
  | .quadraticEdge => .quadraticEdge
  | .quadraticTriangle => .quadraticTriangle
  | .quadraticQuad => .quadraticQuad
  | .quadraticTetra => .quadraticSolid quadraticTetraFaces
  | .quadraticHexahedron => .quadraticSolid quadraticHexahedronFaces
  | .unknown _ => .unknown

namespace Treatment

/-- The faces a treatment goes through, if it treats a solid. -/
def faceTable? : Treatment → Option FaceTable
  | .linearSolid faces | .quadraticSolid faces => some faces
  | _ => none

end Treatment

/-- Exactly the kinds with faces are treated as solids, with those faces. -/
theorem faceTable?_treatment (kind : CellKind) :
    kind.treatment.faceTable? = kind.faceTable? := by
  cases kind <;> rfl

end MeshSkin
