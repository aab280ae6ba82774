import MeshSkin.Proofs.Edges
import MeshSkin.Proofs.Skin.Primitives

/-!
# Walks around faces

The faces of a solid are walked around in such directions that every edge of the solid comes
in both: the tables are closed (`faceTable_closed`). Cutting a face into triangles adds
edges in its inside only, each in both directions (`flow_split`). So what a solid
contributes has the flow of its kept faces, which is the opposite of the flow of its
suppressed ones (`Skin.flow_contribution`).
-/

namespace MeshSkin

open Prod (swap)

variable {mesh : Mesh} {options : Options}

theorem pick_pick {ids locals order : List Nat} (h : ∀ i ∈ order, i < locals.length) :
    pick (pick ids locals) order = pick ids (pick locals order) := by
  unfold pick
  rw [List.map_map]
  apply List.map_congr_left
  intro i member
  simp [List.getD, List.getElem?_eq_getElem (h i member)]

theorem pick_append {ids more locals : List Nat} (h : ∀ i ∈ locals, i < ids.length) :
    pick (ids ++ more) locals = pick ids locals := by
  apply List.map_congr_left
  intro i member
  simp only [List.getD, List.getElem?_append_left (h i member)]

/-- A pattern of walks over local points, each taken for its id. -/
theorem flatMap_edges_pick (ids : List Nat) (pattern : List (List Nat)) :
    (pattern.map (pick ids)).flatMap edges =
      (pattern.flatMap edges).map (Prod.map (fun i => ids.getD i 0) fun i => ids.getD i 0) := by
  rw [List.flatMap_map, List.map_flatMap]
  exact List.flatMap_congr fun walk _ => edges_map _ walk

/-- If the walks of a pattern and a walk backwards are closed together, then the pattern
has the flow of that walk. -/
theorem flow_split {split : List (List Nat)} {walk : List Nat}
    (closed : (split.flatMap edges ++ (edges walk).map swap).Perm
      ((split.flatMap edges ++ (edges walk).map swap).map swap)) (ids : List Nat) (a b : Nat) :
    flow ((split.map (pick ids)).flatMap edges) a b = flow (edges (pick ids walk)) a b := by
  have still := flow_map_eq_zero (a := a) (b := b) closed fun i => ids.getD i 0
  have turned : ((edges walk).map swap).map
      (Prod.map (fun i => ids.getD i 0) fun i => ids.getD i 0) = (edges (pick ids walk)).map swap := by
    unfold pick
    rw [edges_map, List.map_map, List.map_map]
    rfl
  rw [List.map_append, flow_append, ← flatMap_edges_pick, turned, flow_map_swap] at still
  omega

namespace Subdivision

/-- The walk around a curved triangle. -/
def triangleRing : List Nat := [0, 3, 1, 4, 2, 5]

/-- The walk around a curved quad. -/
def quadRing : List Nat := [0, 4, 1, 5, 2, 6, 3, 7]

theorem flow_triangleSplit (ids : List Nat) (a b : Nat) :
    flow ((triangleSplit.map (pick ids)).flatMap edges) a b =
      flow (edges (pick ids triangleRing)) a b :=
  flow_split (by decide) ids a b

theorem flow_quadSplit {ids : List Nat} (eight : ids.length = quadCentre) (centre a b : Nat) :
    flow ((quadSplit.map (pick (ids ++ [centre]))).flatMap edges) a b =
      flow (edges (pick ids quadRing)) a b := by
  have inRange : ∀ i ∈ quadRing, i < ids.length := by
    rw [eight]
    decide
  rw [← pick_append inRange]
  exact flow_split (by decide) (ids ++ [centre]) a b

end Subdivision

/-- The walk around what a piece covers of the surface. -/
def Piece.ring : Piece → List Nat
  | .primitive .polys ids => ids
  | .primitive _ _ => []
  | .quad ids => pick ids Subdivision.quadRing

namespace Skin

/-- The polygons among primitives. -/
def polygons (primitives : List Primitive) : List (List Nat) :=
  (primitives.filter fun primitive => primitive.bucket == .polys).map Primitive.ids

/-- The walk around a face of a solid: a face in lexicographic order is walked around, and the
midside points of a curved one come between their corners. -/
def ring (kind : CellKind) (face : List Nat) : List Nat :=
  match kind with
  | .voxel => pick face [0, 1, 3, 2]
  | .quadraticTetra => pick face Subdivision.triangleRing
  | .quadraticHexahedron => pick face Subdivision.quadRing
  | _ => face

/-- The walks around the faces of a solid have every edge in both directions. -/
theorem faceTable_closed :
    ∀ kind ∈ CellKind.named, ∀ table ∈ kind.faceTable?,
      ((table.faces.map (ring kind)).flatMap edges).Perm
        (((table.faces.map (ring kind)).flatMap edges).map swap) := by
  decide

theorem ring_pick {kind : CellKind} {table : FaceTable} (solid : kind.faceTable? = some table)
    {locals : List Nat} (listed : locals ∈ table.faces) (ids : List Nat) :
    ring kind (pick ids locals) = pick ids (ring kind locals) := by
  cases kind <;> cases solid
  case voxel =>
    have four : ∀ face ∈ voxelFaces.faces, face.length = 4 := by decide
    exact pick_pick (by rw [four locals listed]; decide)
  case quadraticTetra =>
    have six : ∀ face ∈ quadraticTetraFaces.faces, face.length = 6 := by decide
    exact pick_pick (by rw [six locals listed]; decide)
  case quadraticHexahedron =>
    have eight : ∀ face ∈ quadraticHexahedronFaces.faces, face.length = 8 := by decide
    exact pick_pick (by rw [eight locals listed]; decide)
  case tetra | hexahedron | wedge | pyramid => rfl

section Cell

variable {cell : Cell} (a b : Nat)

/-- All faces of a cell together have no flow. -/
theorem flow_faces : flow ((faces cell).flatMap fun face => edges (ring cell.kind face)) a b = 0 := by
  unfold faces
  split
  · rename_i table solid
    have closed := faceTable_closed _ (CellKind.mem_named_of_faceTable? solid) table solid
    have walks : (table.faces.map (pick cell.points)).map (ring cell.kind) =
        (table.faces.map (ring cell.kind)).map (pick cell.points) := by
      rw [List.map_map, List.map_map]
      exact List.map_congr_left fun locals listed => ring_pick solid listed cell.points
    rw [← List.flatMap_map (ring cell.kind) edges, walks, flatMap_edges_pick]
    exact flow_map_eq_zero closed _
  · rfl

/-- Kept faces have the opposite flow of suppressed ones. -/
theorem flow_keptFaces :
    flow ((keptFaces mesh options cell).flatMap fun face => edges (ring cell.kind face)) a b =
      -flow ((suppressedFaces mesh options cell).flatMap fun face => edges (ring cell.kind face))
        a b := by
  have together : flow ((faces cell).flatMap fun face => edges (ring cell.kind face)) a b = 0 :=
    flow_faces a b
  have parted := List.filter_append_perm (isKept mesh options cell) (faces cell)
  rw [← flow_perm (parted.flatMap_right fun face => edges (ring cell.kind face)),
    List.flatMap_append, flow_append] at together
  unfold keptFaces suppressedFaces
  omega

variable {a b}

theorem flow_cells {piece : Piece} (fits : piece.Fits mesh) (source centre : Nat) :
    flow ((polygons ((piece.cells centre).map fun (bucket, ids) => ⟨bucket, source, ids⟩)).flatMap
      edges) a b = flow (edges piece.ring) a b := by
  cases piece with
  | primitive bucket ids => cases bucket <;> simp [polygons, Piece.cells, Piece.ring, edges]
  | quad ids =>
    unfold Piece.ring
    rw [← Subdivision.flow_quadSplit fits.1 centre]
    simp [polygons, Piece.cells, Function.comp_def, List.filter_map]

/-- The flow of the polygons of pieces is that of the walks around the pieces. -/
theorem flow_primitives {pieces : List Piece} (fits : ∀ piece ∈ pieces, piece.Fits mesh)
    (source centre : Nat) :
    flow ((polygons (primitives source centre pieces)).flatMap edges) a b =
      flow (pieces.flatMap fun piece => edges piece.ring) a b := by
  induction pieces generalizing centre with
  | nil => rfl
  | cons piece rest ih =>
    have here := flow_cells (a := a) (b := b) (fits piece (by simp)) source centre
    rw [primitives, polygons, List.filter_append, List.map_append, List.flatMap_append,
      flow_append, ← polygons, ← polygons, here,
      ih fun other later => fits other (List.mem_cons_of_mem piece later)]
    rw [List.flatMap_cons, flow_append]

/-- The walks around the pieces of a solid have the flow of the walks around its kept faces. -/
theorem flow_pieces {table : FaceTable} (solid : cell.kind.faceTable? = some table) :
    flow ((pieces mesh options cell).flatMap fun piece => edges piece.ring) a b =
      flow ((keptFaces mesh options cell).flatMap fun face => edges (ring cell.kind face)) a b := by
  unfold pieces
  cases kind : cell.kind <;> rw [kind] at solid <;> cases solid
  case tetra | hexahedron | wedge | pyramid | voxel | quadraticHexahedron =>
    simp only [List.flatMap_map]
    rfl
  case quadraticTetra =>
    simp only [List.flatMap_assoc, List.flatMap_map]
    apply flow_flatMap_congr
    intro face _
    rw [ring, ← Subdivision.flow_triangleSplit, List.flatMap_map]
    rfl

/-- The polygons of an extracted solid have the opposite flow of its suppressed faces. -/
theorem flow_contribution (h : cell ∈ mesh.cellList) {table : FaceTable}
    (solid : cell.kind.faceTable? = some table) (extracted : isExtracted mesh options cell = true) :
    flow ((polygons (contribution mesh options cell)).flatMap edges) a b =
      -flow ((suppressedFaces mesh options cell).flatMap fun face => edges (ring cell.kind face))
        a b := by
  rw [← flow_keptFaces, ← flow_pieces solid, contribution, emitted, if_pos extracted]
  exact flow_primitives (fun piece member => fits_of_mem_pieces h member) _ _

end Cell
end Skin
end MeshSkin
