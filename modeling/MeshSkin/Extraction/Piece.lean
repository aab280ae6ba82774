import MeshSkin.CellKind.Treatment
import MeshSkin.Incidence
import MeshSkin.Subdivision

/-!
# What a cell contributes

The pieces that one cell adds to the surface, before new points have ids. A piece is
either a finished primitive or an eight-point quad still to be cut around its centre.
Solids contribute the pieces of those faces that lie on the boundary.
-/

namespace MeshSkin

inductive Piece where
  | primitive (bucket : Bucket) (ids : List Nat)
  | quad (ids : List Nat)
  deriving DecidableEq, Repr

structure Contribution where
  pieces : List Piece
  facesEmitted : Nat
  facesSuppressed : Nat
  deriving DecidableEq, Repr

/-- What a pass knows about a mesh before it looks at single cells. -/
structure Survey where
  ghostLevels : Option (Array UInt8)
  visibility : Visibility
  incidence : Incidence
  deriving DecidableEq, Repr

def Survey.ofMesh (mesh : Mesh) (options : Options) : Option Survey := do
  let visibility ← Visibility.classify mesh options
  let incidence ← Incidence.ofMesh mesh
  return ⟨mesh.ghostLevels?, visibility, incidence⟩

namespace Contribution

def nothing : Contribution := ⟨[], 0, 0⟩

/-- Pieces that are no faces. -/
def ofPieces (pieces : List Piece) : Contribution := ⟨pieces, 0, 0⟩

def ofCells (bucket : Bucket) (cells : List (List Nat)) : Contribution :=
  ofPieces (cells.map (Piece.primitive bucket))

/-- The pieces of a curved face: four triangles, or a quad. -/
def quadraticFace? (ids : List Nat) : Option (List Piece) :=
  match ids.length with
  | 6 => (Subdivision.triangle? ids).map fun cells => cells.map (Piece.primitive .polys)
  | 8 => some [.quad ids]
  | _ => some []

/-- The point ids of a face, for which there is a fixed number of places. -/
def facePoints? (ids face : List Nat) : Option (List Nat) :=
  if face.length ≤ maxFacePoints then Subdivision.resolve? ids face else none

/-- The faces of a solid by their point ids, each with its verdict: boundary or not. -/
def judgeFaces (survey : Survey) (interiorFaces : Bool) (cell : Cell) (table : FaceTable) :
    Option (List (List Nat × Bool)) :=
  table.faces.mapM fun face => do
    let points ← facePoints? cell.points face
    let boundary ← survey.incidence.isBoundary survey.visibility interiorFaces cell.id points
    return (points, boundary)

/-- The boundary faces, each turned into pieces, and the numbers of faces on and off the
boundary. -/
def ofFaces (pieces? : List Nat → Option (List Piece)) (judged : List (List Nat × Bool)) :
    Option Contribution := do
  let kept := (judged.filter Prod.snd).map Prod.fst
  let pieces ← kept.mapM pieces?
  return ⟨pieces.flatten, kept.length, judged.length - kept.length⟩

/-- What a cell contributes, by the treatment of its kind. -/
def ofCell (survey : Survey) (interiorFaces : Bool) (cell : Cell) : Option Contribution :=
  match cell.kind.treatment with
  | .skip | .unknown => some nothing
  | .direct bucket => some (ofCells bucket [cell.points])
  | .pixel => (Subdivision.resolve? cell.points pixelOrder).map fun ring => ofCells .polys [ring]
  | .linearSolid table => do
    let judged ← judgeFaces survey interiorFaces cell table
    ofFaces (fun face => some [.primitive .polys (table.ring face)]) judged
  | .quadraticEdge => (Subdivision.edge? cell.points).map (ofCells .lines)
  | .quadraticTriangle => (Subdivision.triangle? cell.points).map (ofCells .polys)
  | .quadraticQuad => some (ofPieces [.quad cell.points])
  | .quadraticSolid table => do
    let judged ← judgeFaces survey interiorFaces cell table
    ofFaces quadraticFace? judged

end Contribution
end MeshSkin
