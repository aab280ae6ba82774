import Mathlib.Algebra.BigOperators.Ring.List
import Mathlib.Algebra.Order.BigOperators.Group.List
import Mathlib.Algebra.Order.Ring.Nat
import MeshSkin.Proofs.Skin.Balance
import MeshSkin.Proofs.Skin.Primitives

/-!
# Counting the skin by kinds of cells

How many primitives a cell contributes to each bucket, and how many centres, depends on its kind and
on the number of its kept faces only (`Skin.countIn_verts` and its siblings). Summed up over some
cells this gives the size of a bucket as a combination of counts of kinds and faces.
-/

namespace MeshSkin

namespace CellKind

/-- The straight kinds with faces. -/
def linearSolids : List CellKind := [.tetra, .voxel, .hexahedron, .wedge, .pyramid]

/-- The curved kinds. -/
def curved : List CellKind :=
  [.quadraticEdge, .quadraticTriangle, .quadraticQuad, .quadraticTetra, .quadraticHexahedron]

/-- The number of faces that a kind lists. -/
def numFaces (kind : CellKind) : Nat := (kind.faceTable?.map fun table => table.faces.length).getD 0

/-- The number of polygons that a face of a solid becomes. -/
def faceSize : CellKind → Nat
  | .tetra | .voxel | .hexahedron | .wedge | .pyramid => 1
  | .quadraticTetra => Subdivision.triangleSplit.length
  | .quadraticHexahedron => Subdivision.quadSplit.length
  | _ => 0

/-- The number of primitives that a cell without faces contributes to a bucket. -/
def flatSize : CellKind → Bucket → Nat
  | .vertex, .verts | .polyVertex, .verts | .line, .lines | .polyLine, .lines | .triangle, .polys
  | .quad, .polys | .polygon, .polys | .pixel, .polys | .triangleStrip, .strips => 1
  | .quadraticEdge, .lines => Subdivision.edgeSegments.length
  | .quadraticTriangle, .polys => Subdivision.triangleSplit.length
  | .quadraticQuad, .polys => Subdivision.quadSplit.length
  | _, _ => 0

theorem numFaces_le (kind : CellKind) : kind.numFaces ≤ maxFacesPerCell := by
  cases kind <;> first | exact Nat.zero_le _ | decide

end CellKind

/-- The number of primitives of a piece that go to a bucket. -/
def Piece.sizeIn (bucket : Bucket) : Piece → Nat
  | .primitive other _ => (other == bucket).toNat
  | .quad _ => if bucket = .polys then Subdivision.quadSplit.length else 0

namespace Skin

variable {mesh : Mesh} {options : Options} {bucket : Bucket} {cells : List Cell}

/-- The sum of a number over some cells. -/
def tally (cells : List Cell) (number : Cell → Nat) : Nat := (cells.map number).sum

/-- The number of cells of given kinds. -/
def countKinds (cells : List Cell) (kinds : List CellKind) : Nat :=
  cells.countP fun cell => kinds.contains cell.kind

/-- The number of kept faces of the cells of given kinds. -/
def countFaces (mesh : Mesh) (options : Options) (cells : List Cell) (kinds : List CellKind) : Nat :=
  tally (cells.filter fun cell => kinds.contains cell.kind) fun cell =>
    (keptFaces mesh options cell).length

section Tally

variable {first second : Cell → Nat}

theorem tally_congr (same : ∀ cell ∈ cells, first cell = second cell) :
    tally cells first = tally cells second :=
  congrArg List.sum (List.map_congr_left same)

theorem tally_add : tally cells (fun cell => first cell + second cell) =
    tally cells first + tally cells second :=
  List.sum_map_add

theorem tally_mul (factor : Nat) : tally cells (fun cell => factor * first cell) =
    factor * tally cells first :=
  List.sum_map_mul_left _ _ _

theorem tally_toNat (chosen : Cell → Bool) :
    tally cells (fun cell => (chosen cell).toNat) = cells.countP chosen := by
  induction cells with
  | nil => rfl
  | cons cell rest ih =>
    rw [List.countP_cons, ← ih, Nat.add_comm]
    cases here : chosen cell <;> simp [tally, here]

theorem tally_filter (chosen : Cell → Bool) :
    tally (cells.filter chosen) first =
      tally cells fun cell => if chosen cell then first cell else 0 := by
  induction cells with
  | nil => rfl
  | cons cell rest ih =>
    cases here : chosen cell <;> simp [tally, here] at ih ⊢ <;> exact ih

theorem tally_le (bound : Nat) (h : ∀ cell ∈ cells, first cell ≤ bound) :
    tally cells first ≤ bound * cells.length := by
  have least := List.sum_le_card_nsmul (cells.map first) bound (by simpa using h)
  rw [List.length_map] at least
  exact Nat.le_trans least (Nat.le_of_eq (Nat.mul_comm _ _))

end Tally

/-- The number of primitives of some pieces that go to a bucket. -/
def countIn (bucket : Bucket) (pieces : List Piece) : Nat := (pieces.map (Piece.sizeIn bucket)).sum

theorem length_filter_primitives (source centre : Nat) (pieces : List Piece) :
    ((primitives source centre pieces).filter fun primitive => primitive.bucket == bucket).length =
      countIn bucket pieces := by
  induction pieces generalizing centre with
  | nil => rfl
  | cons piece rest ih =>
    rw [primitives, List.filter_append, List.length_append, ih, countIn, countIn, List.map_cons,
      List.sum_cons]
    apply congrArg (· + _)
    cases piece with
    | primitive other ids => cases other <;> cases bucket <;> rfl
    | quad ids => cases bucket <;> rfl

section Faces

variable {faces : List (List Nat)} {cut : List Nat → List Piece} {count : Nat}

/-- Faces that are all cut into so many primitives. -/
theorem countIn_flatMap (each : ∀ face, countIn bucket (cut face) = count) :
    countIn bucket (faces.flatMap cut) = count * faces.length := by
  induction faces with
  | nil => rfl
  | cons face rest ih =>
    have here := each face
    unfold countIn at here ih ⊢
    rw [List.flatMap_cons, List.map_append, List.sum_append, here, ih, List.length_cons, Nat.mul_succ,
      Nat.add_comm]

/-- Faces that all need so many centres. -/
theorem countCentres_faces (each : ∀ face, countCentres (cut face) = count) :
    countCentres (faces.flatMap cut) = count * faces.length := by
  rw [countCentres_flatMap, List.map_congr_left fun face _ => each face, List.map_const',
    List.sum_replicate_nat, Nat.mul_comm]

end Faces

section Kinds

/-- One if a cell is of one of the kinds. -/
def isAmong (cell : Cell) (kinds : List CellKind) : Nat := (kinds.contains cell.kind).toNat

/-- The kept faces of a cell of one of the kinds. -/
def facesAmong (mesh : Mesh) (options : Options) (cell : Cell) (kinds : List CellKind) : Nat :=
  if kinds.contains cell.kind then (keptFaces mesh options cell).length else 0

theorem countIn_facePieces {kind : CellKind} {table : FaceTable}
    (solid : kind.faceTable? = some table) (face : List Nat) :
    countIn bucket (facePieces kind face) = if bucket = .polys then kind.faceSize else 0 := by
  cases kind <;> cases solid <;> cases bucket <;> rfl

theorem countCentres_facePieces (kind : CellKind) (face : List Nat) :
    countCentres (facePieces kind face) = (kind == .quadraticHexahedron).toNat := by
  cases kind <;> rfl

variable (cell : Cell)

theorem keptFaces_of_flat (flat : cell.kind.faceTable? = none) : keptFaces mesh options cell = [] := by
  rw [keptFaces, faces, flat]
  rfl

/-- What a cell contributes to a bucket, by its kind and the number of its kept faces. -/
theorem countIn_pieces :
    countIn bucket (pieces mesh options cell) = cell.kind.flatSize bucket +
      (if bucket = .polys then cell.kind.faceSize else 0) * (keptFaces mesh options cell).length := by
  cases solid : cell.kind.faceTable? with
  | some table =>
    have no_flat : cell.kind.flatSize bucket = 0 := by
      cases kind : cell.kind <;> rw [kind] at solid <;> cases solid <;> rfl
    rw [pieces_of_solid solid, countIn_flatMap (countIn_facePieces solid), no_flat, Nat.zero_add]
  | none =>
    rw [keptFaces_of_flat cell solid, List.length_nil, Nat.mul_zero, Nat.add_zero]
    unfold pieces
    cases kind : cell.kind <;> rw [kind] at solid <;> cases solid <;> cases bucket <;> rfl

theorem countIn_verts :
    countIn .verts (pieces mesh options cell) = isAmong cell [.vertex, .polyVertex] := by
  rw [countIn_pieces, isAmong, if_neg (by decide), Nat.zero_mul, Nat.add_zero]
  cases cell.kind <;> rfl

theorem countIn_lines :
    countIn .lines (pieces mesh options cell) =
      isAmong cell [.line, .polyLine] + 2 * isAmong cell [.quadraticEdge] := by
  rw [countIn_pieces, isAmong, isAmong, if_neg (by decide), Nat.zero_mul, Nat.add_zero]
  cases cell.kind <;> rfl

theorem countIn_strips :
    countIn .strips (pieces mesh options cell) = isAmong cell [.triangleStrip] := by
  rw [countIn_pieces, isAmong, if_neg (by decide), Nat.zero_mul, Nat.add_zero]
  cases cell.kind <;> rfl

theorem countIn_polys :
    countIn .polys (pieces mesh options cell) =
      isAmong cell [.triangle, .quad, .polygon, .pixel] + 4 * isAmong cell [.quadraticTriangle] +
        8 * isAmong cell [.quadraticQuad] + facesAmong mesh options cell CellKind.linearSolids +
        4 * facesAmong mesh options cell [.quadraticTetra] +
        8 * facesAmong mesh options cell [.quadraticHexahedron] := by
  rw [countIn_pieces]
  unfold isAmong facesAmong
  generalize (keptFaces mesh options cell).length = kept
  cases cell.kind <;> simp [CellKind.flatSize, CellKind.faceSize, CellKind.linearSolids,
    Subdivision.triangleSplit, Subdivision.quadSplit]

theorem countCentres_pieces :
    countCentres (pieces mesh options cell) =
      isAmong cell [.quadraticQuad] + facesAmong mesh options cell [.quadraticHexahedron] := by
  unfold isAmong facesAmong
  cases solid : cell.kind.faceTable? with
  | some table =>
    rw [pieces_of_solid solid, countCentres_faces (countCentres_facePieces cell.kind)]
    cases kind : cell.kind <;> rw [kind] at solid <;> cases solid <;> simp
  | none =>
    unfold pieces
    cases kind : cell.kind <;> rw [kind] at solid <;> cases solid <;> rfl

/-- Every face of a cell is kept or suppressed, and its kind lists them all. -/
theorem length_keptFaces_add :
    (keptFaces mesh options cell).length + (suppressedFaces mesh options cell).length =
      cell.kind.numFaces := by
  have parted := List.length_eq_length_filter_add (l := faces cell) (isKept mesh options cell)
  have listed : (faces cell).length = cell.kind.numFaces := by
    unfold faces CellKind.numFaces
    cases cell.kind.faceTable? with
    | none => rfl
    | some table => exact List.length_map _
  rw [keptFaces, suppressedFaces, ← parted, listed]

theorem length_keptFaces_le : (keptFaces mesh options cell).length ≤ maxFacesPerCell := by
  apply Nat.le_trans _ cell.kind.numFaces_le
  have listed : (keptFaces mesh options cell).length + (suppressedFaces mesh options cell).length =
      cell.kind.numFaces := length_keptFaces_add cell
  exact listed ▸ Nat.le_add_right _ _

theorem length_keptFaces :
    (keptFaces mesh options cell).length =
      facesAmong mesh options cell CellKind.linearSolids +
        facesAmong mesh options cell [.quadraticTetra] +
        facesAmong mesh options cell [.quadraticHexahedron] := by
  unfold facesAmong
  cases solid : cell.kind.faceTable? with
  | some table =>
    cases kind : cell.kind <;> rw [kind] at solid <;> cases solid <;> simp [CellKind.linearSolids]
  | none =>
    rw [keptFaces_of_flat cell solid]
    simp

theorem suppressedFaces_of_shown (shown : options.interiorFaces = true) :
    suppressedFaces mesh options cell = [] := by
  unfold suppressedFaces
  rw [List.filter_eq_nil_iff]
  intro face _
  simp [isKept, shown]

/-- The primitives of one cell, those of all buckets together. -/
def countAll (pieces : List Piece) : Nat :=
  countIn .verts pieces + countIn .lines pieces + countIn .polys pieces + countIn .strips pieces

/-- What a cell contributes to all buckets together: only a cell without faces adds to the first
numbers, and only a solid to the last. -/
theorem countAll_pieces :
    countAll (pieces mesh options cell) =
      cell.kind.flatSize .verts + cell.kind.flatSize .lines + cell.kind.flatSize .polys +
        cell.kind.flatSize .strips + cell.kind.faceSize * (keptFaces mesh options cell).length := by
  unfold countAll
  rw [countIn_pieces, countIn_pieces, countIn_pieces, countIn_pieces, if_neg (by decide),
    if_neg (by decide), if_pos rfl, if_neg (by decide)]
  omega

/-- A solid has at most six faces, and each of them becomes at most eight polygons. -/
theorem countAll_pieces_le : countAll (pieces mesh options cell) ≤ 48 := by
  have few : (keptFaces mesh options cell).length ≤ 6 := length_keptFaces_le cell
  rw [countAll_pieces]
  cases cell.kind <;> simp [CellKind.flatSize, CellKind.faceSize, Subdivision.edgeSegments,
    Subdivision.triangleSplit, Subdivision.quadSplit] <;> omega

/-- A straight solid has a polygon for each of its kept faces, and any other straight cell is a
single primitive. -/
theorem countAll_pieces_le_of_straight (straight : cell.kind ∉ CellKind.curved) :
    countAll (pieces mesh options cell) ≤ 6 := by
  have few : (keptFaces mesh options cell).length ≤ 6 := length_keptFaces_le cell
  rw [countAll_pieces]
  cases kind : cell.kind <;> rw [kind] at straight <;>
    simp [CellKind.flatSize, CellKind.faceSize, CellKind.curved] at straight ⊢ <;> omega

theorem countAll_pieces_of_solid (solid : cell.kind ∈ CellKind.linearSolids) :
    countAll (pieces mesh options cell) = (keptFaces mesh options cell).length := by
  rw [countAll_pieces]
  cases kind : cell.kind <;> rw [kind] at solid <;>
    simp [CellKind.flatSize, CellKind.faceSize, CellKind.linearSolids] at solid ⊢

end Kinds

section Sums

variable (cells : List Cell)

theorem tally_isAmong (kinds : List CellKind) :
    tally cells (fun cell => isAmong cell kinds) = countKinds cells kinds :=
  tally_toNat _

theorem tally_facesAmong (kinds : List CellKind) :
    tally cells (fun cell => facesAmong mesh options cell kinds) =
      countFaces mesh options cells kinds :=
  (tally_filter _).symm

theorem tally_countIn_verts :
    tally cells (fun cell => countIn .verts (pieces mesh options cell)) =
      countKinds cells [.vertex, .polyVertex] := by
  simp only [countIn_verts, tally_isAmong]

theorem tally_countIn_lines :
    tally cells (fun cell => countIn .lines (pieces mesh options cell)) =
      countKinds cells [.line, .polyLine] + 2 * countKinds cells [.quadraticEdge] := by
  simp only [countIn_lines, tally_add, tally_mul, tally_isAmong]

theorem tally_countIn_strips :
    tally cells (fun cell => countIn .strips (pieces mesh options cell)) =
      countKinds cells [.triangleStrip] := by
  simp only [countIn_strips, tally_isAmong]

theorem tally_countIn_polys :
    tally cells (fun cell => countIn .polys (pieces mesh options cell)) =
      countKinds cells [.triangle, .quad, .polygon, .pixel] +
        4 * countKinds cells [.quadraticTriangle] + 8 * countKinds cells [.quadraticQuad] +
        countFaces mesh options cells CellKind.linearSolids +
        4 * countFaces mesh options cells [.quadraticTetra] +
        8 * countFaces mesh options cells [.quadraticHexahedron] := by
  simp only [countIn_polys, tally_add, tally_mul, tally_isAmong, tally_facesAmong]

/-- What the extracted ones of some cells give, if the others give nothing. -/
theorem tally_emitted (number : List Piece → Nat) (nothing : number [] = 0) :
    tally cells (fun cell => number (emitted mesh options cell)) =
      tally (cells.filter (isExtracted mesh options)) fun cell =>
        number (pieces mesh options cell) := by
  rw [tally_filter]
  apply tally_congr
  intro cell _
  unfold emitted
  split
  · rfl
  · exact nothing

end Sums

end Skin
end MeshSkin
