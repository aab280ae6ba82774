import Mathlib.Data.List.Basic
import MeshSkin.Extraction.Visit
import MeshSkin.Proofs.Incidence.Sharers

/-!
# What a cell contributes

With an exact survey, what becomes of a cell can always be told, and it is what the
definition of the skin says: the cell is a ghost, or it is clipped, or it contributes its
pieces with one verdict for each of its faces (`Visit.ofCell_eq_some`).
-/

namespace MeshSkin

variable {mesh : Mesh} {options : Options} {survey : Survey}

theorem Subdivision.resolve?_eq_pick {ids locals : List Nat} (h : ∀ i ∈ locals, i < ids.length) :
    resolve? ids locals = some (pick ids locals) := by
  apply Checked.mapM_eq_map
  intro i member
  simp [List.getD, List.getElem?_eq_getElem (h i member)]

theorem Subdivision.cut?_eq_pick {pattern : List (List Nat)} {ids : List Nat}
    (h : ∀ locals ∈ pattern, ∀ i ∈ locals, i < ids.length) :
    cut? pattern ids = some (pattern.map (pick ids)) :=
  Checked.mapM_eq_map fun locals member => resolve?_eq_pick (h locals member)

theorem mem_of_mem_pick {ids locals : List Nat} (h : ∀ i ∈ locals, i < ids.length) {id : Nat}
    (picked : id ∈ pick ids locals) : id ∈ ids := by
  obtain ⟨i, member, rfl⟩ := List.mem_map.1 picked
  simp [List.getD, List.getElem?_eq_getElem (h i member)]

theorem CellKind.mem_named_of_faceTable? {kind : CellKind} {table : FaceTable}
    (h : kind.faceTable? = some table) : kind ∈ named := by
  rcases mem_named_or_unknown kind with member | ⟨code, rfl⟩
  · exact member
  · cases h

/-- A survey that knows the mesh. -/
structure Survey.Exact (survey : Survey) (mesh : Mesh) (options : Options) : Prop where
  ghostLevels_eq : survey.ghostLevels = mesh.ghostLevels?
  visibility : survey.visibility.Exact mesh options
  incidence : survey.incidence.Exact mesh

/-- Surveying a mesh never fails, and the result is exact. -/
theorem Survey.ofMesh_exact (mesh : Mesh) (options : Options) :
    ∃ survey, ofMesh mesh options = some survey ∧ survey.Exact mesh options := by
  obtain ⟨visibility, classified, visible⟩ := Visibility.classify_exact mesh options
  obtain ⟨incidence, built, exact⟩ := Incidence.ofMesh_exact mesh
  refine ⟨⟨mesh.ghostLevels?, visibility, incidence⟩, ?_, rfl, visible, exact⟩
  unfold ofMesh
  rw [classified, built]
  rfl

/-- The reserved array has a level for each cell. -/
theorem Mesh.size_ghostLevels {levels : Array UInt8} (h : mesh.ghostLevels? = some levels) :
    levels.size = mesh.numCells := by
  have found := AttributeTable.ghostLevels?_eq_some_iff.1 h
  have tuples := mesh.valid.cellTuples _ (List.mem_of_find?_eq_some found)
  rw [← mesh.valid.sameSize] at tuples
  simpa [Attribute.tupleCount?, Values.size, numCells] using tuples

/-- A cell has the level that it has among the usable ones, if there are any. -/
theorem Skin.ghostLevel_eq (mesh : Mesh) (cell : Cell) :
    ghostLevel mesh cell = (mesh.ghostLevels?.getD #[]).getD cell.id 0 := by
  unfold ghostLevel
  split
  · rename_i name levels found
    have named : name = "vtkGhostLevels" := by simpa using List.find?_some found
    subst named
    rw [Mesh.ghostLevels?, AttributeTable.ghostLevels?_eq_some_iff.2 found, Option.getD_some]
  · rename_i other
    cases usable : mesh.ghostLevels? with
    | none => rfl
    | some levels => exact absurd (AttributeTable.ghostLevels?_eq_some_iff.1 usable) (other _ _)

theorem Survey.Exact.isGhost? (exact : survey.Exact mesh options) {cell : Cell}
    (h : cell ∈ mesh.cellList) :
    survey.isGhost? options.ghostLevel cell.id = some (Skin.isGhost mesh options cell) := by
  unfold Survey.isGhost?
  rw [exact.ghostLevels_eq, Skin.isGhost, Skin.ghostLevel_eq]
  cases found : mesh.ghostLevels? with
  | none => simp
  | some levels =>
    have bound : cell.id < levels.size := by
      rw [Mesh.size_ghostLevels found]
      exact (Mesh.mem_cellList.1 h).1
    simp [Array.getD, bound]

namespace Contribution

/-- A solid has all the points that its faces name. -/
theorem local_lt_of_mem {cell : Cell} (h : cell ∈ mesh.cellList) {table : FaceTable}
    (solid : cell.kind.faceTable? = some table) {face : List Nat} (member : face ∈ table.faces) :
    ∀ i ∈ face, i < cell.points.length := fun i listed =>
  Nat.lt_of_lt_of_le
    (faceTable_points _ (CellKind.mem_named_of_faceTable? solid) table solid face member i listed)
    (Mesh.minPointCount_le_of_mem h)

/-- The points of a face of a solid are there, and there are at least three of them. -/
theorem facePoints?_eq_some {cell : Cell} (h : cell ∈ mesh.cellList) {table : FaceTable}
    (solid : cell.kind.faceTable? = some table) {face : List Nat} (member : face ∈ table.faces) :
    facePoints? cell.points face = some (pick cell.points face) ∧ pick cell.points face ≠ [] ∧
      ∀ point ∈ pick cell.points face, point < mesh.numPoints := by
  have named := CellKind.mem_named_of_faceTable? solid
  have inside := local_lt_of_mem h solid member
  have long := three_le_length_face _ named table solid face member
  refine ⟨?_, ?_, ?_⟩
  · rw [facePoints?, if_pos ((faceTable_bounds _ named table solid).2 face member),
      Subdivision.resolve?_eq_pick inside]
  · intro none
    unfold pick at none
    rw [List.map_eq_nil_iff] at none
    simp [none] at long
  · exact fun point picked => Mesh.points_lt_of_mem h point (mem_of_mem_pick inside picked)

/-- Every face gets the verdict that it has by definition. -/
theorem judgeFaces_eq_some (exact : survey.Exact mesh options) {cell : Cell}
    (h : cell ∈ mesh.cellList) {table : FaceTable}
    (solid : cell.kind.faceTable? = some table) :
    judgeFaces survey options.interiorFaces cell table =
      some ((Skin.faces cell).map fun face => (face, Skin.isKept mesh options cell face)) := by
  unfold Skin.faces
  rw [solid]
  simp only [List.map_map]
  apply Checked.mapM_eq_map
  intro face member
  obtain ⟨found, nonempty, inside⟩ := facePoints?_eq_some h solid member
  rw [found, Option.bind_eq_bind, Option.bind_some,
    exact.incidence.isBoundary exact.visibility cell nonempty inside]
  rfl

/-- Judged faces: the kept ones are turned into pieces, and all of them are counted. -/
theorem ofFaces_eq_some {pieces? : List Nat → Option (List Piece)} {cutFace : List Nat → List Piece}
    {cell : Cell} (cuts : ∀ face ∈ Skin.faces cell, pieces? face = some (cutFace face)) :
    ofFaces pieces? ((Skin.faces cell).map fun face => (face, Skin.isKept mesh options cell face)) =
      some ⟨(Skin.keptFaces mesh options cell).flatMap cutFace,
        (Skin.keptFaces mesh options cell).length,
        (Skin.suppressedFaces mesh options cell).length⟩ := by
  have kept : ((((Skin.faces cell).map fun face => (face, Skin.isKept mesh options cell face)).filter
      Prod.snd).map Prod.fst) = Skin.keptFaces mesh options cell := by
    rw [List.filter_map, List.map_map]
    exact List.map_id _
  have total := List.length_eq_length_filter_add (l := Skin.faces cell)
    (Skin.isKept mesh options cell)
  have cut : (Skin.keptFaces mesh options cell).mapM pieces? =
      some ((Skin.keptFaces mesh options cell).map cutFace) :=
    Checked.mapM_eq_map fun face member => cuts face (List.mem_filter.1 member).1
  have suppressed : (Skin.faces cell).length - (Skin.keptFaces mesh options cell).length =
      (Skin.suppressedFaces mesh options cell).length := by
    rw [Skin.keptFaces, total, Nat.add_sub_cancel_left]
    simp [Skin.suppressedFaces]
  rw [ofFaces, kept, cut, List.length_map, suppressed, List.flatMap_def]
  rfl

/-- A quadratic face of six or eight points can be cut. -/
theorem quadraticFace?_eq_some {face : List Nat} :
    (face.length = 6 → quadraticFace? face =
        some (Subdivision.triangleSplit.map fun corners => .primitive .polys (pick face corners))) ∧
      (face.length = 8 → quadraticFace? face = some [.quad face]) := by
  constructor
  · intro six
    have cut : Subdivision.triangle? face = some (Subdivision.triangleSplit.map (pick face)) :=
      Subdivision.cut?_eq_pick (by rw [six]; decide)
    simp [quadraticFace?, six, cut, Function.comp_def]
  · intro eight
    simp [quadraticFace?, eight]

theorem length_faces {cell : Cell} {table : FaceTable} (solid : cell.kind.faceTable? = some table)
    (count : Nat) (lengths : ∀ face ∈ table.faces, face.length = count) :
    ∀ face ∈ Skin.faces cell, face.length = count := by
  intro face member
  unfold Skin.faces at member
  rw [solid] at member
  obtain ⟨locals, listed, rfl⟩ := List.mem_map.1 member
  unfold pick
  rw [List.length_map, lengths locals listed]

theorem pixelRing_eq_pick {face : List Nat} (four : face.length = 4) :
    pixelRing face = pick face [0, 1, 3, 2] := by
  match face, four with
  | [_, _, _, _], _ => rfl

/-- A linear solid contributes its kept faces, each as a walk around it. -/
theorem ofCell_linearSolid (exact : survey.Exact mesh options) {cell : Cell}
    (h : cell ∈ mesh.cellList) {table : FaceTable} {walk : List Nat → List Nat}
    (treated : cell.kind.treatment = .linearSolid table)
    (solid : cell.kind.faceTable? = some table)
    (rings : ∀ face ∈ Skin.faces cell, table.ring face = walk face) :
    ofCell survey options.interiorFaces cell =
      some ⟨(Skin.keptFaces mesh options cell).map fun face => .primitive .polys (walk face),
        (Skin.keptFaces mesh options cell).length,
        (Skin.suppressedFaces mesh options cell).length⟩ := by
  have cuts : ∀ face ∈ Skin.faces cell,
      some [Piece.primitive .polys (table.ring face)] = some [.primitive .polys (walk face)] := by
    intro face member
    rw [rings face member]
  unfold ofCell
  rw [treated]
  simp only [judgeFaces_eq_some exact h solid, Option.bind_eq_bind, Option.bind_some]
  rw [ofFaces_eq_some cuts, List.map_eq_flatMap]

/-- A quadratic solid contributes its kept faces, each cut into pieces. -/
theorem ofCell_quadraticSolid (exact : survey.Exact mesh options) {cell : Cell}
    (h : cell ∈ mesh.cellList) {table : FaceTable} {cutFace : List Nat → List Piece}
    (treated : cell.kind.treatment = .quadraticSolid table)
    (solid : cell.kind.faceTable? = some table)
    (cuts : ∀ face ∈ Skin.faces cell, quadraticFace? face = some (cutFace face)) :
    ofCell survey options.interiorFaces cell =
      some ⟨(Skin.keptFaces mesh options cell).flatMap cutFace,
        (Skin.keptFaces mesh options cell).length,
        (Skin.suppressedFaces mesh options cell).length⟩ := by
  unfold ofCell
  rw [treated]
  simp only [judgeFaces_eq_some exact h solid, Option.bind_eq_bind, Option.bind_some]
  rw [ofFaces_eq_some cuts]

/-- A cell without faces has none to count. -/
theorem ofCell_of_no_faces {cell : Cell} {pieces : List Piece}
    (flat : cell.kind.faceTable? = none)
    (contributes : ofCell survey options.interiorFaces cell = some (ofPieces pieces)) :
    ofCell survey options.interiorFaces cell =
      some ⟨pieces, (Skin.keptFaces mesh options cell).length,
        (Skin.suppressedFaces mesh options cell).length⟩ := by
  rw [contributes, Skin.keptFaces, Skin.suppressedFaces, Skin.faces, flat]
  rfl

/-- What a cell contributes can always be told. -/
theorem ofCell_eq_some (exact : survey.Exact mesh options) {cell : Cell}
    (h : cell ∈ mesh.cellList) :
    ofCell survey options.interiorFaces cell =
      some ⟨Skin.pieces mesh options cell, (Skin.keptFaces mesh options cell).length,
        (Skin.suppressedFaces mesh options cell).length⟩ := by
  have length_eq : ∀ count,
      cell.kind.pointCount? = some count → cell.points.length = count :=
    fun _ => Mesh.length_points_of_mem h
  unfold Skin.pieces
  cases kind : cell.kind
  case empty | unknown | vertex | polyVertex | line | polyLine | triangle | quad | polygon
      | triangleStrip | quadraticQuad =>
    exact ofCell_of_no_faces (by rw [kind]; rfl) (by rw [ofCell, kind]; rfl)
  case pixel =>
    have four := length_eq 4 (by rw [kind]; rfl)
    have ring : Subdivision.resolve? cell.points pixelOrder = some (pick cell.points pixelOrder) :=
      Subdivision.resolve?_eq_pick (by rw [four]; decide)
    have contributes : ofCell survey options.interiorFaces cell =
        some (ofCells .polys [pick cell.points pixelOrder]) := by
      unfold ofCell
      rw [kind]
      simp only [CellKind.treatment, ring, Option.map_some]
    exact ofCell_of_no_faces (by rw [kind]; rfl) contributes
  case quadraticEdge =>
    have three := length_eq 3 (by rw [kind]; rfl)
    have cut : Subdivision.edge? cell.points =
        some (Subdivision.edgeSegments.map (pick cell.points)) :=
      Subdivision.cut?_eq_pick (by rw [three]; decide)
    have contributes : ofCell survey options.interiorFaces cell =
        some (ofCells .lines (Subdivision.edgeSegments.map (pick cell.points))) := by
      unfold ofCell
      rw [kind]
      simp only [CellKind.treatment, cut, Option.map_some]
    exact ofCell_of_no_faces (by rw [kind]; rfl) contributes
  case quadraticTriangle =>
    have six := length_eq 6 (by rw [kind]; rfl)
    have cut : Subdivision.triangle? cell.points =
        some (Subdivision.triangleSplit.map (pick cell.points)) :=
      Subdivision.cut?_eq_pick (by rw [six]; decide)
    have contributes : ofCell survey options.interiorFaces cell =
        some (ofCells .polys (Subdivision.triangleSplit.map (pick cell.points))) := by
      unfold ofCell
      rw [kind]
      simp only [CellKind.treatment, cut, Option.map_some]
    exact ofCell_of_no_faces (by rw [kind]; rfl) contributes
  case tetra | hexahedron | wedge | pyramid =>
    exact ofCell_linearSolid exact h (by rw [kind]; rfl) (by rw [kind]; rfl) fun _ _ => rfl
  case voxel =>
    have solid : cell.kind.faceTable? = some voxelFaces := by rw [kind]; rfl
    have four := length_faces solid 4 (by decide)
    exact ofCell_linearSolid exact h (by rw [kind]; rfl) solid
      fun face member => pixelRing_eq_pick (four face member)
  case quadraticTetra =>
    have solid : cell.kind.faceTable? = some quadraticTetraFaces := by rw [kind]; rfl
    have six := length_faces solid 6 (by decide)
    exact ofCell_quadraticSolid exact h (by rw [kind]; rfl) solid
      fun face member => quadraticFace?_eq_some.1 (six face member)
  case quadraticHexahedron =>
    have solid : cell.kind.faceTable? = some quadraticHexahedronFaces := by rw [kind]; rfl
    have eight := length_faces solid 8 (by decide)
    simp only [List.map_eq_flatMap]
    exact ofCell_quadraticSolid exact h (by rw [kind]; rfl) solid
      fun face member => quadraticFace?_eq_some.2 (eight face member)

end Contribution

namespace Skin

variable (mesh options)

/-- What becomes of a cell by definition. -/
def visit (cell : Cell) : Visit where
  cell
  fate :=
    if isGhost mesh options cell then .ghost
    else if isVisible mesh options cell then
      .extracted ⟨pieces mesh options cell, (keptFaces mesh options cell).length,
        (suppressedFaces mesh options cell).length⟩
    else .clipped

theorem pieces_visit (cell : Cell) : (visit mesh options cell).pieces = emitted mesh options cell := by
  unfold Visit.pieces
  rw [visit, emitted, isExtracted]
  cases isGhost mesh options cell <;> cases isVisible mesh options cell <;> rfl

end Skin

/-- What becomes of a cell can always be told. -/
theorem Visit.ofCell_eq_some (exact : survey.Exact mesh options) {cell : Cell}
    (h : cell ∈ mesh.cellList) :
    ofCell options survey cell = some (Skin.visit mesh options cell) := by
  unfold ofCell
  rw [exact.isGhost? h, exact.visibility cell h, Contribution.ofCell_eq_some exact h,
    Skin.visit]
  cases Skin.isGhost mesh options cell <;> cases Skin.isVisible mesh options cell <;> rfl

end MeshSkin
