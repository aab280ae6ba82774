import MeshSkin.Bucket
import MeshSkin.Mesh

/-!
# Surfaces

The result of an extraction: points, four buckets of primitives, the attributes of both,
and for every primitive the cell it came from. Primitives are numbered through the
buckets in their order.
-/

namespace MeshSkin

/-- Counts taken over one extraction. -/
structure Stats where
  cellsVisited : Nat
  cellsExtracted : Nat
  cellsClipped : Nat
  ghostCells : Nat
  emptyCells : Nat
  unknownCells : Nat
  /-- Curved cells, which were cut into straight pieces. -/
  cellsTessellated : Nat
  facesEmitted : Nat
  facesSuppressed : Nat
  pointsSynthesized : Nat
  deriving DecidableEq, Repr

namespace Stats

def zero : Stats := ⟨0, 0, 0, 0, 0, 0, 0, 0, 0, 0⟩

def add (a b : Stats) : Stats where
  cellsVisited := a.cellsVisited + b.cellsVisited
  cellsExtracted := a.cellsExtracted + b.cellsExtracted
  cellsClipped := a.cellsClipped + b.cellsClipped
  ghostCells := a.ghostCells + b.ghostCells
  emptyCells := a.emptyCells + b.emptyCells
  unknownCells := a.unknownCells + b.unknownCells
  cellsTessellated := a.cellsTessellated + b.cellsTessellated
  facesEmitted := a.facesEmitted + b.facesEmitted
  facesSuppressed := a.facesSuppressed + b.facesSuppressed
  pointsSynthesized := a.pointsSynthesized + b.pointsSynthesized

def sum (all : List Stats) : Stats := all.foldl add zero

end Stats

structure Surface where
  points : Array Point
  pointData : AttributeTable
  verts : Connectivity
  lines : Connectivity
  polys : Connectivity
  strips : Connectivity
  cellData : AttributeTable
  /-- The cell each primitive came from. -/
  origins : Array Nat
  stats : Stats
  aborted : Bool
  /-- The points and their attributes are those of the mesh itself, not a copy. -/
  borrowed : Bool
  deriving DecidableEq, Repr

namespace Surface

/-- The surface of a mesh without cells. -/
def empty : Surface :=
  ⟨#[], .empty, .empty, .empty, .empty, .empty, .empty, #[], .zero, false, false⟩

def numPoints (surface : Surface) : Nat := surface.points.size

/-- The number of primitives. -/
def numCells (surface : Surface) : Nat := surface.origins.size

def bucket (surface : Surface) : Bucket → Connectivity
  | .verts => surface.verts
  | .lines => surface.lines
  | .polys => surface.polys
  | .strips => surface.strips

/-- Counts off `id` through a list of buckets. -/
def locate? (surface : Surface) : List Bucket → Nat → Option (Bucket × List Nat)
  | [], _ => none
  | bucket :: rest, id =>
    let cells := surface.bucket bucket
    if id < cells.size then (cells.cell? id).map fun ids => (bucket, ids)
    else surface.locate? rest (id - cells.size)

/-- The primitive with this id, and its bucket. -/
def cell? (surface : Surface) (id : Nat) : Option (Bucket × List Nat) :=
  surface.locate? Bucket.all id

/-- The surface with points of its own. -/
def detached (surface : Surface) : Surface := { surface with borrowed := false }

/-- Equality of contents, floats compared by value: a surface in which something is not
a number does not even equal itself. -/
def sameValue (a b : Surface) : Bool :=
  (a.points.size == b.points.size && (a.points.zip b.points).all fun (p, q) => p.sameValue q) &&
    a.pointData.sameValue b.pointData &&
    (Bucket.all.all fun bucket => a.bucket bucket == b.bucket bucket) &&
    a.cellData.sameValue b.cellData && a.origins == b.origins && a.stats == b.stats &&
    a.aborted == b.aborted

end Surface
end MeshSkin
