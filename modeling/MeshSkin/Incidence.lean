import MeshSkin.Visibility

/-!
# Incidence

For every point the cells that contain it, each once and in increasing order, packed into
one array and cut by offsets. Two passes over the cells build it: the first counts the
cells at each point, which gives the offsets, the second puts every cell in its place. From
the incidence follow the cells that share a face, which are those found at all of its
points, and whether a face lies on the boundary.
-/

namespace MeshSkin

structure Incidence where
  /-- The cells at point `p` stand from offset `p` to offset `p + 1`. -/
  offsets : Array Nat
  cells : Array Nat
  deriving DecidableEq, Repr

namespace Incidence

section Passes

variable {σ : Type}

/-- Meets a point of a cell, unless the same cell met it last. The walk holds for each
point the cell that met it last, and a state that each meeting changes. -/
def meet (act : σ → Nat → Nat → Option σ) (cell : Nat) (walk : Array (Option Nat) × σ)
    (point : Nat) : Option (Array (Option Nat) × σ) := do
  let last ← walk.1[point]?
  if last = some cell then some walk
  else (act walk.2 cell point).map fun state => (walk.1.setIfInBounds point (some cell), state)

/-- Meets all points of all cells in order, a point once for each cell that has it. -/
def meetAll (act : σ → Nat → Nat → Option σ) (numPoints : Nat) (cells : List Cell) (start : σ) :
    Option σ :=
  (cells.foldlM (fun walk (cell : Cell) => cell.points.foldlM (meet act cell.id) walk)
    (Array.replicate numPoints none, start)).map Prod.snd

end Passes

/-- Counts a cell at a point. -/
def count (counts : Array Nat) (_cell point : Nat) : Option (Array Nat) :=
  counts[point]?.map fun n => counts.setIfInBounds point (n + 1)

/-- Where the cells of each point begin, and at last where they end. -/
def offsetsOf (counts : Array Nat) : Array Nat :=
  ((counts.toList.scanl (· + ·) 0)).toArray

/-- The places that are next to be filled, one for each point, and what is filled so far. -/
structure Filling where
  next : Array Nat
  cells : Array Nat
  deriving DecidableEq, Repr

/-- Puts a cell into the next place of a point. -/
def fill (filling : Filling) (cell point : Nat) : Option Filling := do
  let place ← filling.next[point]?
  if place < filling.cells.size then
    some ⟨filling.next.setIfInBounds point (place + 1),
      filling.cells.setIfInBounds place cell⟩
  else none

/-- The incidence of the given cells on `numPoints` points. -/
def ofCells (numPoints : Nat) (cells : List Cell) : Option Incidence := do
  let counts ← meetAll count numPoints cells (Array.replicate numPoints 0)
  let offsets := offsetsOf counts
  let next ← slice? offsets 0 numPoints
  let total ← offsets[numPoints]?
  let filled ← meetAll fill numPoints cells ⟨next.toArray, Array.replicate total 0⟩
  return ⟨offsets, filled.cells⟩

def ofMesh (mesh : Mesh) : Option Incidence := do
  let cells ← mesh.allCells?
  ofCells mesh.numPoints cells

def numPoints (incidence : Incidence) : Nat := incidence.offsets.size - 1

/-- The cells at a point. -/
def cellsAt? (incidence : Incidence) (point : Nat) : Option (List Nat) := do
  let lo ← incidence.offsets[point]?
  let hi ← incidence.offsets[point + 1]?
  slice? incidence.cells lo hi

/-- Those of the candidates that stand in an increasing list, each looked up by halving. -/
def keepFound (cells candidates : List Nat) : List Nat :=
  let row := cells.toArray
  candidates.filter fun cell => row.binSearchContains cell (· < ·)

/-- Those of the candidates that are found at every point of the list. Points are only
looked up while a candidate is left. -/
def narrow (incidence : Incidence) : List Nat → List Nat → Option (List Nat)
  | [], _ => some []
  | candidates, [] => some candidates
  | candidates, point :: rest => do
    let cells ← incidence.cellsAt? point
    incidence.narrow (keepFound cells candidates) rest

/-- The cells other than `owner` that contain every point of the face. -/
def sharers (incidence : Incidence) (owner : Nat) : List Nat → Option (List Nat)
  | [] => some []
  | point :: rest => do
    let cells ← incidence.cellsAt? point
    incidence.narrow (cells.filter fun cell => cell != owner) rest

/-- A face lies on the boundary unless a visible cell shares it; interior faces count as
boundary where they are shown. -/
def isBoundary (incidence : Incidence) (visibility : Visibility) (interiorFaces : Bool)
    (owner : Nat) (face : List Nat) : Option Bool :=
  if interiorFaces then some true
  else do
    let cells ← incidence.sharers owner face
    return !(← visibility.anyVisible? cells)

end Incidence
end MeshSkin
