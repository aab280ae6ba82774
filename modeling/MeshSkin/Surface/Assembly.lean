import MeshSkin.Subdivision
import MeshSkin.Surface

/-!
# Assembling a surface

Primitives are collected in the order in which they are emitted, each in its bucket and
with the cell it came from; new points are numbered after those of the mesh. At the end the
cells of origin are listed bucket after bucket, cell attributes are gathered from them, and
point attributes are extended for the new points.
-/

namespace MeshSkin

/-- The primitives of one bucket, and the cell that each of them came from. -/
structure PrimitiveList where
  cells : Connectivity
  sources : Array Nat
  deriving DecidableEq, Repr

namespace PrimitiveList

def empty (capacity : Nat) : PrimitiveList := ⟨.empty, Array.emptyWithCapacity capacity⟩

def push (list : PrimitiveList) (source : Nat) (ids : List Nat) : PrimitiveList :=
  ⟨list.cells.push ids, list.sources.push source⟩

end PrimitiveList

structure Assembly where
  /-- The id of the first new point. -/
  firstNew : Nat
  verts : PrimitiveList
  lines : PrimitiveList
  polys : PrimitiveList
  strips : PrimitiveList
  newPoints : Array NewPoint
  deriving DecidableEq, Repr

namespace Assembly

/-- One place is reserved for so many cells of the mesh. -/
def capacityDivisor : Nat := 4

/-- Nothing emitted yet, over a mesh of `numPoints` points and `numCells` cells. -/
def empty (numPoints numCells : Nat) : Assembly :=
  let list := PrimitiveList.empty (numCells / capacityDivisor + 1)
  ⟨numPoints, list, list, list, list, #[]⟩

def bucket (assembly : Assembly) : Bucket → PrimitiveList
  | .verts => assembly.verts
  | .lines => assembly.lines
  | .polys => assembly.polys
  | .strips => assembly.strips

/-- Appends a primitive to its bucket. -/
def emit (assembly : Assembly) (bucket : Bucket) (source : Nat) (ids : List Nat) : Assembly :=
  match bucket with
  | .verts => { assembly with verts := assembly.verts.push source ids }
  | .lines => { assembly with lines := assembly.lines.push source ids }
  | .polys => { assembly with polys := assembly.polys.push source ids }
  | .strips => { assembly with strips := assembly.strips.push source ids }

/-- Emits several primitives of one cell into one bucket. -/
def emitAll (assembly : Assembly) (bucket : Bucket) (source : Nat) (cells : List (List Nat)) :
    Assembly :=
  cells.foldl (fun assembly ids => assembly.emit bucket source ids) assembly

/-- Appends a new point and tells its id. -/
def addPoint (assembly : Assembly) (point : NewPoint) : Nat × Assembly :=
  (assembly.firstNew + assembly.newPoints.size,
    { assembly with newPoints := assembly.newPoints.push point })

def numCells (assembly : Assembly) : Nat :=
  assembly.verts.sources.size + assembly.lines.sources.size + assembly.polys.sources.size +
    assembly.strips.sources.size

def numNewPoints (assembly : Assembly) : Nat := assembly.newPoints.size

/-- The cells of origin, bucket after bucket. -/
def origins (assembly : Assembly) : List Nat :=
  Bucket.all.flatMap fun bucket => (assembly.bucket bucket).sources.toList

/-- The points of the surface and their attributes. -/
def extendPoints (assembly : Assembly) (mesh : Mesh) : Option (Array Point × AttributeTable) :=
  if assembly.newPoints.isEmpty then some (mesh.points, mesh.pointData)
  else
    (mesh.pointData.extend (assembly.newPoints.toList.map NewPoint.stencil)).map fun pointData =>
      (mesh.points ++ assembly.newPoints.map NewPoint.position, pointData)

/-- The surface of everything emitted. -/
def finish (assembly : Assembly) (mesh : Mesh) (stats : Stats) (aborted : Bool) :
    Option Surface := do
  let cellData ← mesh.cellData.gather assembly.origins
  let (points, pointData) ← assembly.extendPoints mesh
  return {
    points, pointData, cellData, stats, aborted
    verts := assembly.verts.cells
    lines := assembly.lines.cells
    polys := assembly.polys.cells
    strips := assembly.strips.cells
    origins := assembly.origins.toArray
    borrowed := assembly.newPoints.isEmpty }

end Assembly
end MeshSkin
