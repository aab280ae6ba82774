import MeshSkin.CellKind.Faces
import MeshSkin.Extraction.Piece
import MeshSkin.Mesh.Cells

/-!
# The skin by definition

What the skin of a mesh is, said without an incidence, tags or a pass: a cell emits if it is
visible and not a ghost, a face is kept unless some other visible cell of the whole mesh
contains all of its points, and new centres are numbered in the order of the cells and, in
a cell, of its pieces. Every question is answered by looking at all cells of the mesh.
-/

namespace MeshSkin

/-- A part of the skin, with the cell it comes from. -/
structure Primitive where
  bucket : Bucket
  source : Nat
  ids : List Nat
  deriving DecidableEq, Repr

/-- The ids that local numbers stand for. -/
def pick (ids locals : List Nat) : List Nat := locals.map fun i => ids.getD i 0

/-- The points of a curved quad with their weights: each of the four corners weighs minus a quarter, each
of the midside points one half. -/
def quadStencil (ids : List Nat) : Stencil :=
  ids.zip [-0.25, -0.25, -0.25, -0.25, 0.5, 0.5, 0.5, 0.5]

/-- The sum of the weighted points of a stencil, in its order. -/
def Mesh.weighted (mesh : Mesh) (stencil : Stencil) : Point :=
  stencil.foldl (fun sum (id, weight) => sum.add ((mesh.points.getD id .origin).scale weight))
    .origin

namespace Piece

/-- The primitives of a piece, if the centre it may need has the given id. -/
def cells (centre : Nat) : Piece → List (Bucket × List Nat)
  | .primitive bucket ids => [(bucket, ids)]
  | .quad ids => Subdivision.quadSplit.map fun corners => (.polys, pick (ids ++ [centre]) corners)

/-- The number of centres a piece needs. -/
def centres : Piece → Nat
  | .primitive _ _ => 0
  | .quad _ => 1

/-- These centres. -/
def newPoints (mesh : Mesh) : Piece → List NewPoint
  | .primitive _ _ => []
  | .quad ids => [⟨mesh.weighted (quadStencil ids), quadStencil ids⟩]

end Piece

namespace Skin

section Cells

variable (mesh : Mesh) (options : Options)

/-- The ghost level of a cell, as the first array of the cells that has the reserved name gives it: a
byte in a single component. Without such bytes no cell is a ghost. -/
def ghostLevel (cell : Cell) : UInt8 :=
  match mesh.cellData.arrays.find? fun array => array.name == "vtkGhostLevels" with
  | some ⟨_, 1, .bytes levels⟩ => levels.getD cell.id 0
  | _ => 0

/-- The level of a cell exceeds the one up to which cells emit. -/
def isGhost (cell : Cell) : Bool := decide (options.ghostLevel < ghostLevel mesh cell)

/-- A cell passes all clipping modes, and so do all of its points. -/
def isVisible (cell : Cell) : Bool :=
  options.keepsCell cell.id &&
    cell.points.all fun id => options.keepsPoint id (mesh.points.getD id .origin)

/-- A cell that emits what it contributes. -/
def isExtracted (cell : Cell) : Bool := !isGhost mesh options cell && isVisible mesh options cell

/-- Another cell that is visible contains every point of the face. -/
def isHidden (owner : Cell) (face : List Nat) : Bool :=
  mesh.cellList.any fun other =>
    other.id != owner.id && isVisible mesh options other && face.all fun id => other.points.contains id

def isKept (owner : Cell) (face : List Nat) : Bool :=
  options.interiorFaces || !isHidden mesh options owner face

/-- The faces of a solid in the order of its table; other kinds have none. -/
def faces (cell : Cell) : List (List Nat) :=
  match cell.kind.faceTable? with
  | some table => table.faces.map (pick cell.points)
  | none => []

def keptFaces (cell : Cell) : List (List Nat) := (faces cell).filter (isKept mesh options cell)

def suppressedFaces (cell : Cell) : List (List Nat) :=
  (faces cell).filter fun face => !isKept mesh options cell face

/-- What a cell contributes when it emits. -/
def pieces (cell : Cell) : List Piece :=
  match cell.kind with
  | .empty | .unknown _ => []
  | .vertex | .polyVertex => [.primitive .verts cell.points]
  | .line | .polyLine => [.primitive .lines cell.points]
  | .triangle | .quad | .polygon => [.primitive .polys cell.points]
  | .triangleStrip => [.primitive .strips cell.points]
  | .pixel => [.primitive .polys (pick cell.points [0, 1, 3, 2])]
  | .quadraticEdge =>
    Subdivision.edgeSegments.map fun ends => .primitive .lines (pick cell.points ends)
  | .quadraticTriangle =>
    Subdivision.triangleSplit.map fun corners => .primitive .polys (pick cell.points corners)
  | .quadraticQuad => [.quad cell.points]
  | .tetra | .hexahedron | .wedge | .pyramid =>
    (keptFaces mesh options cell).map (.primitive .polys)
  | .voxel =>
    (keptFaces mesh options cell).map fun face => .primitive .polys (pick face [0, 1, 3, 2])
  | .quadraticTetra =>
    (keptFaces mesh options cell).flatMap fun face =>
      Subdivision.triangleSplit.map fun corners => .primitive .polys (pick face corners)
  | .quadraticHexahedron => (keptFaces mesh options cell).map .quad

/-- What a cell contributes: nothing unless it is extracted. -/
def emitted (cell : Cell) : List Piece :=
  if isExtracted mesh options cell then pieces mesh options cell else []

end Cells

/-- The primitives of pieces of one cell; their centres are numbered from `centre` on. -/
def primitives (source : Nat) : Nat → List Piece → List Primitive
  | _, [] => []
  | centre, piece :: rest =>
    (piece.cells centre).map (fun (bucket, ids) => ⟨bucket, source, ids⟩) ++
      primitives source (centre + piece.centres) rest

def countCentres : List Piece → Nat
  | [] => 0
  | piece :: rest => piece.centres + countCentres rest

section Numbered

variable (mesh : Mesh) (options : Options)

/-- The id of the first centre of the cell with this id: it comes after the points of the
mesh and the centres of all cells before. -/
def firstCentre (id : Nat) : Nat :=
  mesh.numPoints + countCentres ((mesh.cellList.take id).flatMap (emitted mesh options))

/-- The primitives of one cell. -/
def contribution (cell : Cell) : List Primitive :=
  primitives cell.id (firstCentre mesh options cell.id) (emitted mesh options cell)

/-- Everything that goes to one bucket, cell by cell. -/
def inBucket (bucket : Bucket) : List Primitive :=
  mesh.cellList.flatMap fun cell =>
    (contribution mesh options cell).filter fun primitive => primitive.bucket == bucket

/-- The centres of one cell. -/
def newPoints (cell : Cell) : List NewPoint :=
  (emitted mesh options cell).flatMap (Piece.newPoints mesh)

end Numbered

end Skin
end MeshSkin
