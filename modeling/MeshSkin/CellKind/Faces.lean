import MeshSkin.CellKind

/-!
# Faces of solids

Each solid kind lists its faces by local point numbers. Faces wind outward, except
that those of a voxel are listed in lexicographic order and wind outward after
`pixelRing`. A quadratic face lists its corners and then its midside points, in the
order of the edges they lie on.
-/

namespace MeshSkin

/-- Turns four corners in lexicographic order into a walk around them. -/
def pixelRing {α : Type} : List α → List α
  | [a, b, c, d] => [a, b, d, c]
  | corners => corners

/-- Positions of the corners of a pixel on a walk around it. -/
def pixelOrder : List Nat := pixelRing [0, 1, 2, 3]

structure FaceTable where
  faces : List (List Nat)
  /-- The corners of each face are in lexicographic order. -/
  lexicographic : Bool
  deriving DecidableEq, Repr

namespace FaceTable

/-- The points of a face, or anything listed in the same order, as a walk around it. -/
def ring {α : Type} (table : FaceTable) (face : List α) : List α :=
  if table.lexicographic then pixelRing face else face

end FaceTable

def tetraFaces : FaceTable := ⟨[[0, 1, 3], [1, 2, 3], [2, 0, 3], [0, 2, 1]], false⟩

def voxelFaces : FaceTable :=
  ⟨[[0, 4, 2, 6], [1, 3, 5, 7], [0, 1, 4, 5], [2, 6, 3, 7], [0, 2, 1, 3], [4, 5, 6, 7]], true⟩

def hexahedronFaces : FaceTable :=
  ⟨[[0, 4, 7, 3], [1, 2, 6, 5], [0, 1, 5, 4], [3, 7, 6, 2], [0, 3, 2, 1], [4, 5, 6, 7]], false⟩

def wedgeFaces : FaceTable :=
  ⟨[[0, 1, 2], [3, 5, 4], [0, 3, 4, 1], [1, 4, 5, 2], [2, 5, 3, 0]], false⟩

def pyramidFaces : FaceTable :=
  ⟨[[0, 3, 2, 1], [0, 1, 4], [1, 2, 4], [2, 3, 4], [3, 0, 4]], false⟩

def quadraticTetraFaces : FaceTable :=
  ⟨[[0, 1, 3, 4, 8, 7], [1, 2, 3, 5, 9, 8], [2, 0, 3, 6, 7, 9], [0, 2, 1, 6, 5, 4]], false⟩

def quadraticHexahedronFaces : FaceTable :=
  ⟨[[0, 4, 7, 3, 16, 15, 19, 11], [1, 2, 6, 5, 9, 18, 13, 17], [0, 1, 5, 4, 8, 17, 12, 16],
    [3, 7, 6, 2, 19, 14, 18, 10], [0, 3, 2, 1, 11, 10, 9, 8], [4, 5, 6, 7, 12, 13, 14, 15]],
    false⟩

namespace CellKind

/-- The faces of a solid kind. -/
def faceTable? : CellKind → Option FaceTable
  | .tetra => some tetraFaces
  | .voxel => some voxelFaces
  | .hexahedron => some hexahedronFaces
  | .wedge => some wedgeFaces
  | .pyramid => some pyramidFaces
  | .quadraticTetra => some quadraticTetraFaces
  | .quadraticHexahedron => some quadraticHexahedronFaces
  | _ => none

end CellKind

/-- The largest number of faces of a solid. -/
def maxFacesPerCell : Nat := 6

/-- The largest number of points on a face. -/
def maxFacePoints : Nat := 8

theorem faceTable_bounds :
    ∀ kind ∈ CellKind.named, ∀ table ∈ kind.faceTable?,
      table.faces.length ≤ maxFacesPerCell ∧
        ∀ face ∈ table.faces, face.length ≤ maxFacePoints := by
  decide

/-- Every face has at least three points. -/
theorem three_le_length_face :
    ∀ kind ∈ CellKind.named, ∀ table ∈ kind.faceTable?, ∀ face ∈ table.faces,
      3 ≤ face.length := by
  decide

/-- Every face names points that the solid has. -/
theorem faceTable_points :
    ∀ kind ∈ CellKind.named, ∀ table ∈ kind.faceTable?, ∀ face ∈ table.faces,
      ∀ i ∈ face, i < kind.minPointCount := by
  decide

end MeshSkin
