import MeshSkin.Proofs.Blocks
import MeshSkin.Proofs.Skin.Found

/-!
# Numbers of centres in two skins

The centres of a cell are a block of ids behind those of the cells before. If a cell emits the same
pieces in two skins, then its primitives are the same up to the numbers of its centres
(`Skin.contribution_renumber`), and its centres are at the same places (`Skin.newPoints_renumber`).
-/

namespace MeshSkin

/-- A primitive under other numbers: `τ` gives the new ids of points and centres. -/
def Primitive.renumber (σ τ : Nat → Nat) (primitive : Primitive) : Primitive :=
  ⟨primitive.bucket, σ primitive.source, primitive.ids.map τ⟩

namespace Skin

variable {mesh other : Mesh} {σ ρ τ : Nat → Nat} {options options' : Options}

section Pieces

theorem countCentres_renumber (pieces : List Piece) :
    countCentres (pieces.map (Piece.renumber ρ)) = countCentres pieces := by
  induction pieces with
  | nil => rfl
  | cons piece rest ih =>
    rw [List.map_cons, countCentres, countCentres, ih]
    cases piece <;> rfl

/-- The primitives of a piece whose centre is numbered accordingly. -/
theorem cells_renumber (points : ∀ id < mesh.numPoints, τ id = ρ id) {piece : Piece}
    (fits : piece.Fits mesh) {centre centre' : Nat}
    (centres : 0 < piece.centres → τ centre = centre') :
    (piece.renumber ρ).cells centre' =
      (piece.cells centre).map fun (bucket, ids) => (bucket, ids.map τ) := by
  have moved : ∀ ids : List Nat, (∀ id ∈ ids, id < mesh.numPoints) → ids.map ρ = ids.map τ :=
    fun ids inside => List.map_congr_left fun id member => (points id (inside id member)).symm
  cases piece with
  | primitive bucket ids =>
    rw [Piece.renumber, Piece.cells, Piece.cells, moved ids fits]
    rfl
  | quad ids =>
    obtain ⟨eight, inside⟩ := fits
    rw [Piece.renumber, Piece.cells, Piece.cells, List.map_map]
    apply List.map_congr_left
    intro corners listed
    have bound : ∀ i ∈ corners, i < (ids ++ [centre]).length := by
      rw [List.length_append, eight]
      exact Subdivision.quadSplit_lt corners listed
    have ring : ids.map ρ ++ [centre'] = (ids ++ [centre]).map τ := by
      rw [List.map_append, moved ids inside, List.map_singleton, centres Nat.zero_lt_one]
    rw [ring, pick_map τ bound]
    rfl

/-- The primitives of pieces whose centres are numbered accordingly. -/
theorem primitives_renumber (points : ∀ id < mesh.numPoints, τ id = ρ id) {source : Nat}
    {pieces : List Piece} (fits : ∀ piece ∈ pieces, piece.Fits mesh) {centre centre' : Nat}
    (centres : ∀ k < countCentres pieces, τ (centre + k) = centre' + k) :
    primitives (σ source) centre' (pieces.map (Piece.renumber ρ)) =
      (primitives source centre pieces).map (Primitive.renumber σ τ) := by
  induction pieces generalizing centre centre' with
  | nil => rfl
  | cons piece rest ih =>
    rw [countCentres] at centres
    have first : 0 < piece.centres → τ centre = centre' := by
      intro needed
      exact centres 0 (by omega)
    have later : ∀ k < countCentres rest,
        τ (centre + piece.centres + k) = centre' + piece.centres + k := by
      intro k bound
      rw [Nat.add_assoc, Nat.add_assoc]
      exact centres (piece.centres + k) (by omega)
    have same : (piece.renumber ρ).centres = piece.centres := by cases piece <;> rfl
    rw [List.map_cons, primitives, primitives, same, List.map_append,
      ih (fun other listed => fits other (List.mem_cons_of_mem _ listed)) later,
      cells_renumber points (fits piece (by simp)) first, List.map_map, List.map_map]
    rfl

/-- A cell that emits the same pieces contributes the same primitives. -/
theorem contribution_renumber (points : ∀ id < mesh.numPoints, τ id = ρ id) {cell : Cell}
    (h : cell ∈ mesh.cellList)
    (emits : emitted other options' (cell.renumber σ ρ) =
      (emitted mesh options cell).map (Piece.renumber ρ))
    (centres : ∀ k < countCentres (emitted mesh options cell),
      τ (firstCentre mesh options cell.id + k) = firstCentre other options' (σ cell.id) + k) :
    contribution other options' (cell.renumber σ ρ) =
      (contribution mesh options cell).map (Primitive.renumber σ τ) := by
  unfold contribution
  rw [emits]
  exact primitives_renumber points (fun piece member => fits_of_mem_emitted h member) centres

end Pieces

section NewPoints

variable (point_eq : ∀ id < mesh.numPoints, other.point? (ρ id) = mesh.point? id)

include point_eq

theorem weighted_renumber {stencil : Stencil}
    (inside : ∀ entry ∈ stencil, entry.1 < mesh.numPoints) :
    other.weighted (stencil.renumber ρ) = mesh.weighted stencil := by
  unfold Mesh.weighted Stencil.renumber
  rw [List.foldl_map]
  apply List.foldl_ext
  intro sum entry member
  obtain ⟨id, weight⟩ := entry
  have position := Mesh.point_getD_of_eq (point_eq id (inside (id, weight) member))
  exact congrArg (fun point => sum.add (Point.scale point weight)) position

/-- The centre of a quad is at the same place. -/
theorem newPoints_renumber_piece {piece : Piece} (fits : piece.Fits mesh) :
    (piece.renumber ρ).newPoints other = (piece.newPoints mesh).map (NewPoint.renumber ρ) := by
  cases piece with
  | primitive bucket ids => rfl
  | quad ids =>
    have inside : ∀ entry ∈ quadStencil ids, entry.1 < mesh.numPoints :=
      fun entry member => fits.2 entry.1 (mem_of_mem_quadStencil member)
    have stencil_eq : quadStencil (ids.map ρ) = (quadStencil ids).renumber ρ := List.zip_map_left
    unfold Piece.renumber Piece.newPoints
    simp only [stencil_eq, weighted_renumber point_eq inside]
    rfl

/-- The centres of a cell are at the same places. -/
theorem newPoints_renumber {cell : Cell} (h : cell ∈ mesh.cellList)
    (emits : emitted other options' (cell.renumber σ ρ) =
      (emitted mesh options cell).map (Piece.renumber ρ)) :
    newPoints other options' (cell.renumber σ ρ) =
      (newPoints mesh options cell).map (NewPoint.renumber ρ) := by
  unfold newPoints
  rw [emits, List.flatMap_map, List.map_flatMap]
  exact List.flatMap_congr fun piece member =>
    newPoints_renumber_piece point_eq (fits_of_mem_emitted h member)

end NewPoints

/-- The centres of the cells as blocks of ids. -/
def centreBlocks (mesh : Mesh) (options : Options) : Blocks :=
  ⟨mesh.numCells, firstCentre mesh options, fun _ _ => firstCentre_mono⟩

theorem size_centreBlocks {id : Nat} (h : id < mesh.numCells) :
    (centreBlocks mesh options).size id = countCentres (emitted mesh options (mesh.cellAt id)) := by
  unfold Blocks.size centreBlocks
  simp only [firstCentre_succ h, Nat.add_sub_cancel_left]

/-- What the cells of a mesh emit is emitted in another skin as well, by the cell `σ id` on the points
that `ρ` gives, and `τ` takes the centres of a cell to those there. -/
structure Carried (mesh other : Mesh) (options options' : Options) (σ ρ τ : Nat → Nat) : Prop where
  point?_eq : ∀ id < mesh.numPoints, other.point? (ρ id) = mesh.point? id
  points : ∀ id < mesh.numPoints, τ id = ρ id
  emits : ∀ cell ∈ mesh.cellList, emitted mesh options cell ≠ [] →
    cell.renumber σ ρ ∈ other.cellList ∧
      emitted other options' (cell.renumber σ ρ) =
        (emitted mesh options cell).map (Piece.renumber ρ)
  centres : ∀ cell ∈ mesh.cellList, ∀ k < countCentres (emitted mesh options cell),
    τ (firstCentre mesh options cell.id + k) = firstCentre other options' (σ cell.id) + k

section Found

variable (found : mesh.FoundIn other options σ ρ)

include found

/-- Cells that are found elsewhere have as many centres there. -/
theorem countCentres_flatMap_renumber {cells : List Cell} (h : ∀ cell ∈ cells, cell ∈ mesh.cellList) :
    countCentres ((cells.map (Cell.renumber σ ρ)).flatMap (emitted other options)) =
      countCentres (cells.flatMap (emitted mesh options)) := by
  rw [countCentres_flatMap, countCentres_flatMap, List.map_map]
  apply congrArg List.sum
  apply List.map_congr_left
  intro cell member
  rw [Function.comp_apply, emitted_renumber found (h cell member), countCentres_renumber]

variable (points : ∀ id < mesh.numPoints, τ id = ρ id)
  (centres : ∀ cell ∈ mesh.cellList, ∀ k < countCentres (emitted mesh options cell),
    τ (firstCentre mesh options cell.id + k) = firstCentre other options (σ cell.id) + k)

include points centres

theorem carried_of_found : Carried mesh other options options σ ρ τ where
  point?_eq := found.point_eq
  points := points
  emits cell listed _ := ⟨found.mem cell listed, emitted_renumber found listed⟩
  centres := centres

/-- What the cells contribute to a bucket elsewhere. -/
theorem inBucket_renumber (bucket : Bucket) :
    ((mesh.cellList.map (Cell.renumber σ ρ)).flatMap fun cell =>
        (contribution other options cell).filter fun primitive => primitive.bucket == bucket) =
      (inBucket mesh options bucket).map (Primitive.renumber σ τ) := by
  rw [inBucket, List.flatMap_map, List.map_flatMap]
  apply List.flatMap_congr
  intro cell listed
  rw [contribution_renumber points listed (emitted_renumber found listed) (centres cell listed),
    List.filter_map]
  rfl

end Found

theorem Carried.point_lt (carried : Carried mesh other options options' σ ρ τ) {id : Nat}
    (h : id < mesh.numPoints) : ρ id < other.numPoints := by
  have read := carried.point?_eq id h
  rw [Mesh.point?, Mesh.point?, Array.getElem?_eq_getElem h] at read
  exact (Array.getElem?_eq_some_iff.1 read).1

end Skin

end MeshSkin
