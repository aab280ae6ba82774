import MeshSkin.Mesh

/-!
# Subdivision of curved cells

Curved edges, triangles and quads are cut into straight pieces by fixed patterns over
their local points: corners first, then the midside points in the order of the edges.
The pieces keep the winding of the whole. A quad needs one more point, its centre, which
has local number 8 and is a weighted sum of the other eight.
-/

namespace MeshSkin

/-- A point made from points of the mesh. -/
structure NewPoint where
  position : Point
  stencil : Stencil
  deriving DecidableEq, Repr

namespace Subdivision

def edgeSegments : List (List Nat) := [[0, 2], [2, 1]]

def triangleSplit : List (List Nat) := [[0, 3, 5], [3, 1, 4], [5, 4, 2], [3, 4, 5]]

/-- The local number of the centre of a quad. -/
def quadCentre : Nat := 8

def quadSplit : List (List Nat) :=
  [[0, 4, quadCentre], [0, quadCentre, 7], [4, 1, 5], [4, 5, quadCentre], [quadCentre, 5, 2],
    [quadCentre, 2, 6], [7, quadCentre, 6], [7, 6, 3]]

/-- The ids that local numbers stand for, if a cell has them all. -/
def resolve? (ids locals : List Nat) : Option (List Nat) := locals.mapM fun i => ids[i]?

def cut? (pattern : List (List Nat)) (ids : List Nat) : Option (List (List Nat)) :=
  pattern.mapM (resolve? ids)

/-- Two segments. -/
def edge? (ids : List Nat) : Option (List (List Nat)) := cut? edgeSegments ids

/-- Four triangles. -/
def triangle? (ids : List Nat) : Option (List (List Nat)) := cut? triangleSplit ids

/-- Eight triangles, six of them around the centre. -/
def quad? (ids : List Nat) (centre : Nat) : Option (List (List Nat)) :=
  if quadCentre ≤ ids.length then cut? quadSplit (ids.take quadCentre ++ [centre]) else none

/-- Corners weigh minus a quarter, midside points one half. -/
def quadWeights : List Float := [-0.25, -0.25, -0.25, -0.25, 0.5, 0.5, 0.5, 0.5]

/-- Adds the weighted points of a stencil, in order, to a point. -/
def addWeighted (mesh : Mesh) : Point → Stencil → Option Point
  | sum, [] => some sum
  | sum, (id, weight) :: rest => do
    let point ← mesh.point? id
    addWeighted mesh (sum.add (point.scale weight)) rest

/-- The centre of a quad on eight points. -/
def centre? (mesh : Mesh) (ids : List Nat) : Option NewPoint :=
  if quadCentre ≤ ids.length then
    let stencil := ids.zip quadWeights
    (addWeighted mesh .origin stencil).map fun position => ⟨position, stencil⟩
  else none

end Subdivision
end MeshSkin
