import MeshSkin.Mesh.Check

/-!
# Meshes

Points, cells of mixed kinds and attributes of both, which fit together: a mesh can only be
had from parts that pass `Mesh.check`.
-/

namespace MeshSkin

structure Mesh where
  points : Array Point
  kinds : Array CellKind
  cells : Connectivity
  pointData : AttributeTable
  cellData : AttributeTable
  valid : Mesh.Valid points kinds cells pointData cellData
  deriving DecidableEq, Repr

/-- A cell with its id. -/
structure Cell where
  id : Nat
  kind : CellKind
  points : List Nat
  deriving DecidableEq, Repr

namespace Mesh

/-- The mesh made of these parts, if they fit together. -/
def ofParts (points : Array Point) (kinds : Array CellKind) (cells : Connectivity)
    (pointData cellData : AttributeTable) : Except Fault Mesh :=
  match accepted : check points kinds cells pointData cellData with
  | .ok () => .ok ⟨points, kinds, cells, pointData, cellData, check_eq_ok_iff.1 accepted⟩
  | .error fault => .error fault

def numPoints (mesh : Mesh) : Nat := mesh.points.size

def numCells (mesh : Mesh) : Nat := mesh.kinds.size

def isEmpty (mesh : Mesh) : Bool := mesh.kinds.isEmpty

def point? (mesh : Mesh) (id : Nat) : Option Point := mesh.points[id]?

def kind? (mesh : Mesh) (id : Nat) : Option CellKind := mesh.kinds[id]?

/-- The point ids of cell `id`. -/
def cell? (mesh : Mesh) (id : Nat) : Option (List Nat) := mesh.cells.cell? id

/-- All cells in increasing id order, read one by one. -/
def allCells? (mesh : Mesh) : Option (List Cell) :=
  (List.range mesh.numCells).mapM fun id => do
    return ⟨id, ← mesh.kind? id, ← mesh.cell? id⟩

def ghostLevels? (mesh : Mesh) : Option (Array UInt8) := mesh.cellData.ghostLevels?

/-- Parts make a mesh exactly when they fit together, and it has them as they are. -/
theorem ofParts_eq_ok_iff {points : Array Point} {kinds : Array CellKind} {cells : Connectivity}
    {pointData cellData : AttributeTable} {mesh : Mesh} :
    ofParts points kinds cells pointData cellData = .ok mesh ↔
      mesh.points = points ∧ mesh.kinds = kinds ∧ mesh.cells = cells ∧
        mesh.pointData = pointData ∧ mesh.cellData = cellData := by
  simp only [ofParts]
  split
  · simp only [Except.ok.injEq]
    constructor
    · rintro rfl
      exact ⟨rfl, rfl, rfl, rfl, rfl⟩
    · intro given
      obtain ⟨rfl, rfl, rfl, rfl, rfl⟩ := given
      rfl
  · rename_i fault refused
    simp only [reduceCtorEq, false_iff]
    intro given
    obtain ⟨rfl, rfl, rfl, rfl, rfl⟩ := given
    rw [check_eq_ok_iff.2 mesh.valid] at refused
    cases refused

end Mesh
end MeshSkin
