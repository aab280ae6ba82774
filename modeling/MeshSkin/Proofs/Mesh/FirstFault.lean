import MeshSkin.Proofs.Connectivity.Canonical
import MeshSkin.Proofs.Mesh.Faults
import MeshSkin.Proofs.Mesh.Listed

/-!
# The first fault of parts

Parts make a mesh exactly if they fit together: as many kinds as cells, finite coordinates, for every
cell a number of points that its kind takes, no id beyond the points, and a tuple for every point or
cell in each array. Otherwise the fault that is named is the first one, in this order: the number of
kinds, the coordinates by the ids of the points, the cells by their ids, the arrays of the points and
those of the cells (`Mesh.ofParts_answers`).
-/

namespace MeshSkin

namespace Mesh

/-- Points and cells that fit together. -/
structure SoundGeometry (points : Array Point) (kinds : Array CellKind) (cells : Connectivity) :
    Prop where
  sameSize : kinds.size = cells.size
  finite : ∀ (id : Nat) (point : Point), points[id]? = some point → point.isFinite = true
  takes : ∀ (id : Nat) (kind : CellKind) (ids : List Nat), kinds[id]? = some kind →
    cells.cell? id = some ids → kind.Takes ids.length
  inside : ∀ id ∈ cells.ids, id < points.size

/-- What is wrong first with points and cells: the number of kinds, else the first point that is not
finite, else the fault of the first cell that has one. -/
inductive GeometryFault (points : Array Point) (kinds : Array CellKind) (cells : Connectivity) :
    MeshError → Prop where
  | sizes (differ : kinds.size ≠ cells.size) :
      GeometryFault points kinds cells (.cellCountMismatch kinds.size cells.size)
  | point (sameSize : kinds.size = cells.size) (id : Nat) (point : Point)
      (here : points[id]? = some point) (bad : point.isFinite = false)
      (earlier : ∀ early < id, ∀ other : Point, points[early]? = some other →
        other.isFinite = true) :
      GeometryFault points kinds cells (.nonFiniteCoordinate id)
  | cell (error : MeshError) (sameSize : kinds.size = cells.size)
      (finite : ∀ (id : Nat) (point : Point), points[id]? = some point → point.isFinite = true)
      (id : Nat) (kind : CellKind) (ids : List Nat) (kindHere : kinds[id]? = some kind)
      (idsHere : cells.cell? id = some ids) (fault : CellFault points.size id kind ids error)
      (earlier : ∀ early < id, ∀ (kind : CellKind) (ids : List Nat), kinds[early]? = some kind →
        cells.cell? early = some ids → SoundCell points.size kind ids) :
      GeometryFault points kinds cells error

/-- Parts that fit together. -/
structure Fits (points : Array Point) (kinds : Array CellKind) (cells : Connectivity)
    (pointData cellData : AttributeTable) : Prop extends SoundGeometry points kinds cells where
  pointArrays : pointData.Filled points.size
  cellArrays : cellData.Filled cells.size

/-- What is wrong first with parts that do not fit together: points and cells, else the first array
of the points that has not a tuple for each of them, else such an array of the cells. -/
inductive FirstFault (points : Array Point) (kinds : Array CellKind) (cells : Connectivity)
    (pointData cellData : AttributeTable) (error : MeshError) : Prop where
  | geometry (fault : GeometryFault points kinds cells error)
  | pointArray (sound : SoundGeometry points kinds cells)
      (first : pointData.Mismatch points.size error)
  | cellArray (sound : SoundGeometry points kinds cells) (filled : pointData.Filled points.size)
      (first : cellData.Mismatch cells.size error)

/-- The parts that a mesh was made of can be read from it. -/
structure ReadsBack (mesh : Mesh) (points : Array Point) (kinds : Array CellKind)
    (cells : Connectivity) (pointData cellData : AttributeTable) : Prop where
  numPoints : mesh.numPoints = points.size
  point : ∀ id, mesh.point? id = points[id]?
  samePoints : mesh.points = points
  numCells : mesh.numCells = kinds.size
  isEmpty : mesh.isEmpty = true ↔ kinds.size = 0
  kind : ∀ id, mesh.kind? id = kinds[id]?
  cell : ∀ id, mesh.cell? id = cells.cell? id
  sameCells : mesh.cells = cells
  listed : ∃ list, mesh.allCells? = some list ∧ list.map Cell.id = List.range kinds.size ∧
    list.map Cell.kind = kinds.toList ∧ list.map Cell.points = cells.toLists
  samePointData : mesh.pointData = pointData
  sameCellData : mesh.cellData = cellData
  ghostLevels : mesh.ghostLevels? = cellData.ghostLevels?

section Checks

variable {points : Array Point} {kinds : Array CellKind} {cells : Connectivity}
  {pointData cellData : AttributeTable} {error : MeshError}

/-- The kind and the point ids of a cell stand at its id in the list of both. -/
theorem getElem?_zip_eq_some_iff {id : Nat} {kind : CellKind} {ids : List Nat} :
    (kinds.toList.zip cells.toLists)[id]? = some (kind, ids) ↔
      kinds[id]? = some kind ∧ cells.cell? id = some ids := by
  rw [List.getElem?_zip_eq_some, Connectivity.cell?_eq_getElem?_toLists, Array.getElem?_toList]

theorem checkSizes_eq_error_iff :
    checkSizes kinds cells = .error error ↔
      kinds.size ≠ cells.size ∧ error = .cellCountMismatch kinds.size cells.size := by
  unfold checkSizes
  by_cases same : kinds.size = cells.size
  · simp [same]
  · simp [same, eq_comm (a := error)]

theorem finite_iff :
    (∀ point ∈ points.toList, point.isFinite = true) ↔
      ∀ (id : Nat) (point : Point), points[id]? = some point → point.isFinite = true := by
  constructor
  · intro finite id point here
    exact finite point (Array.mem_toList_iff.2 (Array.mem_of_getElem? here))
  · intro finite point member
    obtain ⟨id, here⟩ := List.mem_iff_getElem?.1 member
    exact finite id point (by rwa [Array.getElem?_toList] at here)

/-- Of as many kinds as cells every cell has one, so that all ids of the connectivity are checked. -/
theorem forall_ids_iff (sameSize : kinds.size = cells.size) {numPoints : Nat} :
    (∀ cell ∈ kinds.toList.zip cells.toLists, ∀ id ∈ cell.2, id < numPoints) ↔
      ∀ id ∈ cells.ids, id < numPoints := by
  have paired : (kinds.toList.zip cells.toLists).map Prod.snd = cells.toLists :=
    List.map_snd_zip (by simp [Connectivity.length_toLists, sameSize])
  have flat : cells.ids.toList = (kinds.toList.zip cells.toLists).flatMap Prod.snd := by
    rw [List.flatMap_def, paired, Connectivity.flatten_toLists]
  have named_iff (id : Nat) :
      id ∈ cells.ids ↔ ∃ cell ∈ kinds.toList.zip cells.toLists, id ∈ cell.2 := by
    rw [← Array.mem_toList_iff, flat, List.mem_flatMap]
  constructor
  · intro inside id member
    obtain ⟨cell, listed, named⟩ := (named_iff id).1 member
    exact inside cell listed id named
  · intro inside cell listed id named
    exact inside id ((named_iff id).2 ⟨cell, listed, named⟩)

theorem checkGeometry_eq_ok_iff :
    checkGeometry points kinds cells = .ok () ↔ SoundGeometry points kinds cells := by
  rw [checkGeometry, Fault.seq_eq_ok_iff, Fault.seq_eq_ok_iff, checkSizes_eq_ok_iff,
    checkPoints_eq_ok_iff, finite_iff, checkCells_eq_ok_iff]
  constructor
  · rintro ⟨sameSize, finite, admitted, inside⟩
    refine ⟨sameSize, finite, ?_, (forall_ids_iff sameSize).1 inside⟩
    intro id kind ids kindHere idsHere
    have here := getElem?_zip_eq_some_iff.2 ⟨kindHere, idsHere⟩
    exact CellKind.admits_iff_takes.1 (admitted _ (List.mem_of_getElem? here))
  · rintro ⟨sameSize, finite, takes, inside⟩
    refine ⟨sameSize, finite, ?_, (forall_ids_iff sameSize).2 inside⟩
    rintro ⟨kind, ids⟩ member
    obtain ⟨id, here⟩ := List.mem_iff_getElem?.1 member
    obtain ⟨kindHere, idsHere⟩ := getElem?_zip_eq_some_iff.1 here
    exact CellKind.admits_iff_takes.2 (takes id kind ids kindHere idsHere)

theorem checkGeometry_eq_error_iff :
    checkGeometry points kinds cells = .error error ↔ GeometryFault points kinds cells error := by
  rw [checkGeometry, Fault.seq_eq_error_iff, Fault.seq_eq_error_iff, checkSizes_eq_error_iff,
    checkSizes_eq_ok_iff, checkPoints_eq_error_iff, checkPoints_eq_ok_iff, finite_iff,
    checkCells_eq_error_iff]
  constructor
  · rintro (⟨differ, rfl⟩ | ⟨sameSize, ⟨id, point, here, ⟨bad, rfl⟩, earlier⟩ |
      ⟨finite, id, ⟨kind, ids⟩, here, fault, earlier⟩⟩)
    · exact .sizes differ
    · simp only [Array.getElem?_toList] at here earlier
      exact .point sameSize id point here bad earlier
    · obtain ⟨kindHere, idsHere⟩ := getElem?_zip_eq_some_iff.1 here
      rw [Nat.zero_add] at fault
      refine .cell error sameSize finite id kind ids kindHere idsHere fault ?_
      intro early before kind ids kindThere idsThere
      exact earlier early before _ (getElem?_zip_eq_some_iff.2 ⟨kindThere, idsThere⟩)
  · rintro (differ | ⟨sameSize, id, point, here, bad, earlier⟩ |
      ⟨_, sameSize, finite, id, kind, ids, kindHere, idsHere, fault, earlier⟩)
    · exact Or.inl ⟨differ, rfl⟩
    · simp only [← Array.getElem?_toList] at here earlier
      exact Or.inr ⟨sameSize, Or.inl ⟨id, point, here, ⟨bad, rfl⟩, earlier⟩⟩
    · refine Or.inr ⟨sameSize, Or.inr ⟨finite, id, (kind, ids),
        getElem?_zip_eq_some_iff.2 ⟨kindHere, idsHere⟩, by simpa using fault, ?_⟩⟩
      rintro early before ⟨kind, ids⟩ there
      obtain ⟨kindThere, idsThere⟩ := getElem?_zip_eq_some_iff.1 there
      exact earlier early before kind ids kindThere idsThere

theorem valid_iff_fits :
    Valid points kinds cells pointData cellData ↔ Fits points kinds cells pointData cellData := by
  rw [← check_eq_ok_iff, check, Fault.seq_eq_ok_iff, Fault.seq_eq_ok_iff, Fault.mapError_eq_ok_iff,
    checkGeometry_eq_ok_iff, AttributeTable.validate_eq_ok_iff, AttributeTable.validate_eq_ok_iff]
  exact ⟨fun given => ⟨given.1, given.2.1, given.2.2⟩,
    fun fits => ⟨fits.toSoundGeometry, fits.pointArrays, fits.cellArrays⟩⟩

theorem check_eq_invalid_iff :
    check points kinds cells pointData cellData = .error (.invalid error) ↔
      FirstFault points kinds cells pointData cellData error := by
  rw [check, Fault.seq_eq_error_iff, Fault.seq_eq_error_iff, Fault.mapError_eq_error_iff,
    Fault.mapError_eq_ok_iff, checkGeometry_eq_ok_iff, AttributeTable.validate_eq_invalid_iff,
    AttributeTable.validate_eq_ok_iff, AttributeTable.validate_eq_invalid_iff]
  simp only [checkGeometry_eq_error_iff, Fault.invalid.injEq, exists_eq_right]
  constructor
  · rintro (fault | ⟨sound, first | ⟨filled, first⟩⟩)
    · exact .geometry fault
    · exact .pointArray sound first
    · exact .cellArray sound filled first
  · rintro (fault | ⟨sound, first⟩ | ⟨sound, filled, first⟩)
    · exact Or.inl fault
    · exact Or.inr ⟨sound, Or.inl first⟩
    · exact Or.inr ⟨sound, Or.inr ⟨filled, first⟩⟩

theorem ofParts_eq_error_iff {fault : Fault} :
    ofParts points kinds cells pointData cellData = .error fault ↔
      check points kinds cells pointData cellData = .error fault := by
  unfold ofParts
  split
  · rename_i accepted
    simp [accepted]
  · rename_i fault refused
    simp [refused]

/-- Arrays with components have a number of tuples, so that their check has an answer. -/
theorem ofParts_ne_undefined
    (components : ∀ array ∈ pointData.arrays ++ cellData.arrays, 0 < array.components) :
    ofParts points kinds cells pointData cellData ≠ .error .undefined := by
  rw [ne_eq, ofParts_eq_undefined_iff]
  rintro ⟨_, ⟨before, array, rest, split, none, _⟩ | ⟨_, before, array, rest, split, none, _⟩⟩
  · exact Nat.lt_irrefl 0 (none ▸ components array (by simp [split]))
  · exact Nat.lt_irrefl 0 (none ▸ components array (by simp [split]))

theorem readsBack (mesh : Mesh) :
    mesh.ReadsBack mesh.points mesh.kinds mesh.cells mesh.pointData mesh.cellData where
  numPoints := rfl
  point _ := rfl
  samePoints := rfl
  numCells := rfl
  isEmpty := isEmpty_iff
  kind _ := rfl
  cell _ := rfl
  sameCells := rfl
  listed := ⟨mesh.cellList, mesh.allCells?_eq_some, mesh.map_id_cellList, mesh.kinds_eq_map.symm,
    mesh.toLists_eq_map.symm⟩
  samePointData := rfl
  sameCellData := rfl
  ghostLevels := rfl

end Checks

/-- Parts whose arrays have components make a mesh exactly if they fit together, and all of them can
be read from it. Otherwise the first fault is named, and nothing else. -/
theorem ofParts_answers {points : Array Point} {kinds : Array CellKind} {cells : Connectivity}
    {pointData cellData : AttributeTable}
    (components : ∀ array ∈ pointData.arrays ++ cellData.arrays, 0 < array.components) :
    ((∃ mesh, ofParts points kinds cells pointData cellData = .ok mesh) ↔
        Fits points kinds cells pointData cellData) ∧
      (∀ mesh, ofParts points kinds cells pointData cellData = .ok mesh →
        mesh.ReadsBack points kinds cells pointData cellData) ∧
      ∀ fault, ofParts points kinds cells pointData cellData = .error fault ↔
        ∃ error, fault = .invalid error ∧ FirstFault points kinds cells pointData cellData error := by
  refine ⟨?_, ?_, ?_⟩
  · rw [← valid_iff_fits]
    constructor
    · rintro ⟨mesh, made⟩
      obtain ⟨rfl, rfl, rfl, rfl, rfl⟩ := ofParts_eq_ok_iff.1 made
      exact mesh.valid
    · intro valid
      exact ⟨⟨points, kinds, cells, pointData, cellData, valid⟩,
        ofParts_eq_ok_iff.2 ⟨rfl, rfl, rfl, rfl, rfl⟩⟩
  · intro mesh made
    obtain ⟨rfl, rfl, rfl, rfl, rfl⟩ := ofParts_eq_ok_iff.1 made
    exact mesh.readsBack
  · intro fault
    cases fault with
    | invalid error => simp [ofParts_eq_error_iff, check_eq_invalid_iff]
    | undefined => simp [ofParts_ne_undefined components]

end Mesh

/-- A vertex and a line that ends in point `last`, with a byte for each of the two points. -/
def lineTo (last : Nat) : Except Fault Mesh :=
  Mesh.ofParts #[⟨0.0, 0.0, 0.0⟩, ⟨1.0, 0.0, 0.0⟩] #[.vertex, .line] (.ofLists [[0], [0, last]])
    ⟨[⟨"a", 1, .bytes #[0, 1]⟩]⟩ .empty

/-- The line ends in the second point, or in a point that does not exist. -/
theorem lineTo_answers :
    (∃ mesh, lineTo 1 = .ok mesh ∧ mesh.ReadsBack #[⟨0.0, 0.0, 0.0⟩, ⟨1.0, 0.0, 0.0⟩]
        #[.vertex, .line] (.ofLists [[0], [0, 1]]) ⟨[⟨"a", 1, .bytes #[0, 1]⟩]⟩ .empty) ∧
      ¬ Mesh.Fits #[⟨0.0, 0.0, 0.0⟩, ⟨1.0, 0.0, 0.0⟩] #[.vertex, .line] (.ofLists [[0], [0, 2]])
        ⟨[⟨"a", 1, .bytes #[0, 1]⟩]⟩ .empty ∧
      lineTo 2 = .error (.invalid (.danglingPoint 1 2 2)) := by
  refine ⟨⟨_, rfl, (Mesh.ofParts_answers (by decide)).2.1 _ rfl⟩, ?_, rfl⟩
  intro fits
  obtain ⟨mesh, made⟩ := (Mesh.ofParts_answers (by decide)).1.2 fits
  cases made

end MeshSkin
