import MeshSkin.Attribute.Table
import MeshSkin.Point

/-!
# What makes a mesh

Points, kinds, connectivity and attributes fit together if every cell has a kind that
admits its number of points and names only points that exist, every coordinate is finite,
and every array has one tuple per point or per cell. The check accepts exactly such parts
(`check_eq_ok_iff`) and otherwise names the first fault: the number of kinds, then the
coordinates, then the cells in order, then the attributes of the points and of the cells.
-/

namespace MeshSkin

/-- A cell of this kind may have so many points. -/
def CellKind.Admits (kind : CellKind) (count : Nat) : Prop :=
  match kind.pointCount? with
  | some expected => count = expected
  | none => kind.minPointCount ≤ count

namespace Mesh

/-- Parts of which every lookup that a valid id asks for has an answer. -/
structure Valid (points : Array Point) (kinds : Array CellKind) (cells : Connectivity)
    (pointData cellData : AttributeTable) : Prop where
  sameSize : kinds.size = cells.size
  finite : ∀ point ∈ points.toList, point.isFinite = true
  admitted : ∀ cell ∈ kinds.toList.zip cells.toLists, cell.1.Admits cell.2.length
  inside : ∀ cell ∈ kinds.toList.zip cells.toLists, ∀ id ∈ cell.2, id < points.size
  pointTuples : ∀ array ∈ pointData.arrays, array.tupleCount? = some points.size
  cellTuples : ∀ array ∈ cellData.arrays, array.tupleCount? = some cells.size

/-- A cell has as many points as its kind asks for. -/
def checkCount (cell : Nat) (kind : CellKind) (actual : Nat) : Except MeshError Unit :=
  match kind.pointCount? with
  | some expected =>
    if actual = expected then .ok () else .error (.pointCountMismatch cell kind expected actual)
  | none =>
    if kind.minPointCount ≤ actual then .ok ()
    else .error (.tooFewPoints cell kind kind.minPointCount actual)

/-- A cell names only points below `numPoints`. -/
def checkIds (numPoints cell : Nat) (ids : List Nat) : Except MeshError Unit :=
  match ids.find? fun id => decide (numPoints ≤ id) with
  | some point => .error (.danglingPoint cell point numPoints)
  | none => .ok ()

/-- Checks cells in order; the first of the list has id `cell`. -/
def checkCells (numPoints : Nat) : Nat → List (CellKind × List Nat) → Except MeshError Unit
  | _, [] => .ok ()
  | cell, (kind, ids) :: rest => do
    checkCount cell kind ids.length
    checkIds numPoints cell ids
    checkCells numPoints (cell + 1) rest

/-- The first point that is not finite. -/
def checkPoints (points : Array Point) : Except MeshError Unit :=
  match points.toList.findIdx? fun point => !point.isFinite with
  | some point => .error (.nonFiniteCoordinate point)
  | none => .ok ()

/-- There are as many kinds as cells. -/
def checkSizes (kinds : Array CellKind) (cells : Connectivity) : Except MeshError Unit :=
  if kinds.size = cells.size then .ok () else .error (.cellCountMismatch kinds.size cells.size)

/-- Everything about points and cells that can be wrong, apart from their attributes. -/
def checkGeometry (points : Array Point) (kinds : Array CellKind) (cells : Connectivity) :
    Except MeshError Unit := do
  checkSizes kinds cells
  checkPoints points
  checkCells points.size 0 (kinds.toList.zip cells.toLists)

def check (points : Array Point) (kinds : Array CellKind) (cells : Connectivity)
    (pointData cellData : AttributeTable) : Except Fault Unit := do
  (checkGeometry points kinds cells).mapError .invalid
  pointData.validate points.size
  cellData.validate cells.size

theorem checkCount_eq_ok_iff {cell : Nat} {kind : CellKind} {actual : Nat} :
    checkCount cell kind actual = .ok () ↔ kind.Admits actual := by
  unfold checkCount CellKind.Admits
  split <;> split <;> simp_all

theorem checkIds_eq_ok_iff {numPoints cell : Nat} {ids : List Nat} :
    checkIds numPoints cell ids = .ok () ↔ ∀ id ∈ ids, id < numPoints := by
  unfold checkIds
  split
  · rename_i point found
    have member := List.mem_of_find?_eq_some found
    have outside := List.find?_some found
    simp only [decide_eq_true_eq] at outside
    simp only [reduceCtorEq, false_iff, Classical.not_forall]
    exact ⟨point, member, by omega⟩
  · rename_i none
    simpa using none

theorem checkCells_eq_ok_iff {numPoints : Nat} {cells : List (CellKind × List Nat)} (cell : Nat) :
    checkCells numPoints cell cells = .ok () ↔
      (∀ cell ∈ cells, cell.1.Admits cell.2.length) ∧
        ∀ cell ∈ cells, ∀ id ∈ cell.2, id < numPoints := by
  induction cells generalizing cell with
  | nil => simp [checkCells]
  | cons head rest ih =>
    obtain ⟨kind, ids⟩ := head
    rw [checkCells, Fault.seq_eq_ok_iff, Fault.seq_eq_ok_iff, checkCount_eq_ok_iff,
      checkIds_eq_ok_iff, ih]
    simp only [List.forall_mem_cons]
    constructor
    · intro given
      obtain ⟨count, inside, counts, insides⟩ := given
      exact ⟨⟨count, counts⟩, inside, insides⟩
    · intro given
      obtain ⟨⟨count, counts⟩, inside, insides⟩ := given
      exact ⟨count, inside, counts, insides⟩

theorem checkPoints_eq_ok_iff {points : Array Point} :
    checkPoints points = .ok () ↔ ∀ point ∈ points.toList, point.isFinite = true := by
  unfold checkPoints
  split
  · rename_i index found
    obtain ⟨bound, notFinite, _⟩ := List.findIdx?_eq_some_iff_getElem.1 found
    simp only [reduceCtorEq, false_iff, Classical.not_forall]
    exact ⟨_, List.getElem_mem bound, by simpa using notFinite⟩
  · rename_i none
    simpa using none

theorem checkSizes_eq_ok_iff {kinds : Array CellKind} {cells : Connectivity} :
    checkSizes kinds cells = .ok () ↔ kinds.size = cells.size := by
  unfold checkSizes
  split <;> simp_all

/-- Parts are accepted exactly when they are valid. -/
theorem check_eq_ok_iff {points : Array Point} {kinds : Array CellKind} {cells : Connectivity}
    {pointData cellData : AttributeTable} :
    check points kinds cells pointData cellData = .ok () ↔
      Valid points kinds cells pointData cellData := by
  rw [check, Fault.seq_eq_ok_iff, Fault.seq_eq_ok_iff, Fault.mapError_eq_ok_iff, checkGeometry,
    Fault.seq_eq_ok_iff, Fault.seq_eq_ok_iff, checkSizes_eq_ok_iff, checkPoints_eq_ok_iff,
    checkCells_eq_ok_iff, AttributeTable.validate_eq_ok_iff, AttributeTable.validate_eq_ok_iff]
  constructor
  · intro given
    obtain ⟨⟨same, finite, admitted, inside⟩, pointTuples, cellTuples⟩ := given
    exact ⟨same, finite, admitted, inside, pointTuples, cellTuples⟩
  · intro given
    obtain ⟨same, finite, admitted, inside, pointTuples, cellTuples⟩ := given
    exact ⟨⟨same, finite, admitted, inside⟩, pointTuples, cellTuples⟩

end Mesh
end MeshSkin
