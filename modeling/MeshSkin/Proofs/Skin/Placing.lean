import Mathlib.Algebra.GroupWithZero.Nat
import MeshSkin.Proofs.Skin.Contribution

/-!
# Placing pieces

The pieces of a cell are on points of the mesh, and their quads have eight of them. Such
pieces can always be placed: the assembly gains their primitives, numbered from the next
free id on, and their centres (`Assembly.foldlM_place`).
-/

namespace MeshSkin

variable {mesh : Mesh} {options : Options}

/-- A piece that can be placed. -/
def Piece.Fits (mesh : Mesh) : Piece → Prop
  | .primitive _ ids => ∀ id ∈ ids, id < mesh.numPoints
  | .quad ids => ids.length = Subdivision.quadCentre ∧ ∀ id ∈ ids, id < mesh.numPoints

private theorem pick_lt {ids locals : List Nat} {bound : Nat} (h : ∀ i ∈ locals, i < ids.length)
    (inside : ∀ id ∈ ids, id < bound) : ∀ id ∈ pick ids locals, id < bound :=
  fun id picked => inside id (mem_of_mem_pick h picked)

theorem mem_of_mem_quadStencil {ids : List Nat} {entry : Nat × Float}
    (member : entry ∈ quadStencil ids) : entry.1 ∈ ids :=
  (List.of_mem_zip member).1

theorem Subdivision.triangleSplit_lt : ∀ corners ∈ triangleSplit, ∀ i ∈ corners, i < 6 := by
  decide

namespace Skin

/-- Faces have points, and these are points of the mesh. -/
theorem points_of_mem_faces {cell : Cell} (h : cell ∈ mesh.cellList) {face : List Nat}
    (member : face ∈ faces cell) : face ≠ [] ∧ ∀ id ∈ face, id < mesh.numPoints := by
  unfold faces at member
  split at member
  · rename_i table solid
    obtain ⟨locals, listed, rfl⟩ := List.mem_map.1 member
    exact (Contribution.facePoints?_eq_some h solid listed).2
  · cases member

/-- A number of points that the kind fixes. -/
private theorem length_points {cell : Cell} (h : cell ∈ mesh.cellList) {kind : CellKind}
    (same : cell.kind = kind) (count : Nat) (fixed : kind.pointCount? = some count) :
    cell.points.length = count :=
  Mesh.length_points_of_mem h (same ▸ fixed)

/-- A number of points that the table fixes for every face. -/
private theorem length_face {cell : Cell} {kind : CellKind} (same : cell.kind = kind)
    {table : FaceTable} (solid : kind.faceTable? = some table) (count : Nat)
    (lengths : ∀ face ∈ table.faces, face.length = count) {face : List Nat}
    (member : face ∈ keptFaces mesh options cell) : face.length = count :=
  Contribution.length_faces (same ▸ solid) count lengths face (List.mem_filter.1 member).1

theorem fits_of_mem_pieces {cell : Cell} (h : cell ∈ mesh.cellList) {piece : Piece}
    (member : piece ∈ pieces mesh options cell) : piece.Fits mesh := by
  have inside := Mesh.points_lt_of_mem h
  have faces_inside : ∀ face ∈ keptFaces mesh options cell, ∀ id ∈ face, id < mesh.numPoints :=
    fun face kept => (points_of_mem_faces h (List.mem_filter.1 kept).1).2
  unfold pieces at member
  cases kind : cell.kind <;> rw [kind] at member
  case empty | unknown => cases member
  case vertex | polyVertex | line | polyLine | triangle | quad | polygon | triangleStrip =>
    rw [List.mem_singleton.1 member]
    exact inside
  case pixel =>
    have four := length_points h kind 4 rfl
    rw [List.mem_singleton.1 member]
    exact pick_lt (by rw [four]; decide) inside
  case quadraticEdge =>
    have three := length_points h kind 3 rfl
    obtain ⟨ends, listed, rfl⟩ := List.mem_map.1 member
    have inRange : ∀ ends ∈ Subdivision.edgeSegments, ∀ i ∈ ends, i < 3 := by decide
    exact pick_lt (three ▸ inRange ends listed) inside
  case quadraticTriangle =>
    have six := length_points h kind 6 rfl
    obtain ⟨corners, listed, rfl⟩ := List.mem_map.1 member
    exact pick_lt (six ▸ Subdivision.triangleSplit_lt corners listed) inside
  case quadraticQuad =>
    rw [List.mem_singleton.1 member]
    exact ⟨length_points h kind 8 rfl, inside⟩
  case tetra | hexahedron | wedge | pyramid =>
    obtain ⟨face, kept, rfl⟩ := List.mem_map.1 member
    exact faces_inside face kept
  case voxel =>
    obtain ⟨face, kept, rfl⟩ := List.mem_map.1 member
    have four := length_face kind rfl 4 (by decide) kept
    exact pick_lt (by rw [four]; decide) (faces_inside face kept)
  case quadraticTetra =>
    obtain ⟨face, kept, cut⟩ := List.mem_flatMap.1 member
    obtain ⟨corners, listed, rfl⟩ := List.mem_map.1 cut
    have six := length_face kind rfl 6 (by decide) kept
    exact pick_lt (six ▸ Subdivision.triangleSplit_lt corners listed) (faces_inside face kept)
  case quadraticHexahedron =>
    obtain ⟨face, kept, rfl⟩ := List.mem_map.1 member
    exact ⟨length_face kind rfl 8 (by decide) kept, faces_inside face kept⟩

theorem fits_of_mem_emitted {cell : Cell} (h : cell ∈ mesh.cellList) {piece : Piece}
    (member : piece ∈ emitted mesh options cell) : piece.Fits mesh := by
  unfold emitted at member
  split at member
  · exact fits_of_mem_pieces h member
  · cases member

end Skin

namespace Subdivision

/-- Points that are there can be summed up. -/
theorem addWeighted_eq_some (stencil : Stencil) (sum : Point)
    (inside : ∀ entry ∈ stencil, entry.1 < mesh.numPoints) :
    addWeighted mesh sum stencil = some (stencil.foldl
      (fun sum (id, weight) => sum.add ((mesh.points.getD id .origin).scale weight)) sum) := by
  induction stencil generalizing sum with
  | nil => rfl
  | cons entry rest ih =>
    obtain ⟨id, weight⟩ := entry
    have bound : id < mesh.points.size := inside (id, weight) (by simp)
    have point : mesh.point? id = some (mesh.points.getD id .origin) := by
      simp [Mesh.point?, Array.getD, bound]
    rw [addWeighted, point, Option.bind_eq_bind, Option.bind_some,
      ih _ fun entry member => inside entry (List.mem_cons_of_mem _ member)]
    rfl

theorem centre?_eq_some {ids : List Nat} (eight : ids.length = quadCentre)
    (inside : ∀ id ∈ ids, id < mesh.numPoints) :
    centre? mesh ids = some ⟨mesh.weighted (quadStencil ids), quadStencil ids⟩ := by
  have stencil_eq : ids.zip quadWeights = quadStencil ids := rfl
  have summed := addWeighted_eq_some (quadStencil ids) .origin
    fun entry member => inside entry.1 (mem_of_mem_quadStencil member)
  unfold centre?
  rw [if_pos (Nat.le_of_eq eight.symm), stencil_eq]
  simp only [summed, Option.map_some]
  rfl

/-- The corners of the triangles are points of the quad or its centre. -/
theorem quadSplit_lt : ∀ corners ∈ quadSplit, ∀ i ∈ corners, i < quadCentre + 1 := by decide

theorem quad?_eq_some {ids : List Nat} (eight : ids.length = quadCentre) (centre : Nat) :
    quad? ids centre = some (quadSplit.map (pick (ids ++ [centre]))) := by
  unfold quad?
  rw [if_pos (Nat.le_of_eq eight.symm), List.take_of_length_le (Nat.le_of_eq eight)]
  apply cut?_eq_pick
  intro corners listed
  rw [List.length_append, eight]
  exact quadSplit_lt corners listed

end Subdivision

namespace Skin

theorem countCentres_append (pieces more : List Piece) :
    countCentres (pieces ++ more) = countCentres pieces + countCentres more := by
  induction pieces with
  | nil => simp [countCentres]
  | cons piece rest ih => rw [List.cons_append, countCentres, ih, countCentres, Nat.add_assoc]

theorem countCentres_flatMap {α : Type} (items : List α) (pieces : α → List Piece) :
    countCentres (items.flatMap pieces) =
      (items.map fun item => countCentres (pieces item)).sum := by
  induction items with
  | nil => rfl
  | cons item rest ih =>
    rw [List.flatMap_cons, countCentres_append, ih, List.map_cons, List.sum_cons]

/-- There are as many new points as centres. -/
theorem length_flatMap_newPoints (pieces : List Piece) :
    (pieces.flatMap (Piece.newPoints mesh)).length = countCentres pieces := by
  induction pieces with
  | nil => rfl
  | cons piece rest ih =>
    rw [List.flatMap_cons, List.length_append, ih, countCentres]
    cases piece <;> rfl

end Skin

namespace PrimitiveList

/-- Appends the primitives in their order, whatever their buckets. -/
def pushEach (list : PrimitiveList) (primitives : List Primitive) : PrimitiveList :=
  primitives.foldl (fun list primitive => list.push primitive.source primitive.ids) list

theorem cells_pushEach (list : PrimitiveList) (primitives : List Primitive) :
    (list.pushEach primitives).cells.toLists =
      list.cells.toLists ++ primitives.map Primitive.ids := by
  induction primitives generalizing list with
  | nil => simp [pushEach]
  | cons primitive rest ih =>
    rw [pushEach, List.foldl_cons, ← pushEach, ih, push, Connectivity.toLists_push]
    simp

theorem sources_pushEach (list : PrimitiveList) (primitives : List Primitive) :
    (list.pushEach primitives).sources.toList =
      list.sources.toList ++ primitives.map Primitive.source := by
  induction primitives generalizing list with
  | nil => simp [pushEach]
  | cons primitive rest ih =>
    rw [pushEach, List.foldl_cons, ← pushEach, ih, push]
    simp

end PrimitiveList

namespace Assembly

/-- Emits primitives in their order. -/
def emitEach (assembly : Assembly) (primitives : List Primitive) : Assembly :=
  primitives.foldl (fun assembly primitive =>
    assembly.emit primitive.bucket primitive.source primitive.ids) assembly

def addPoints (assembly : Assembly) (points : List NewPoint) : Assembly :=
  { assembly with newPoints := assembly.newPoints ++ points.toArray }

/-- More primitives and more points, behind those that are there. -/
def append (assembly : Assembly) (primitives : List Primitive) (points : List NewPoint) :
    Assembly :=
  (assembly.addPoints points).emitEach primitives

/-- The id of the next new point. -/
def nextPoint (assembly : Assembly) : Nat := assembly.firstNew + assembly.newPoints.size

theorem bucket_emit (assembly : Assembly) (bucket other : Bucket) (source : Nat)
    (ids : List Nat) :
    (assembly.emit bucket source ids).bucket other =
      if bucket = other then (assembly.bucket other).push source ids
      else assembly.bucket other := by
  cases bucket <;> cases other <;> rfl

/-- Every bucket gets its own primitives. -/
theorem bucket_emitEach (assembly : Assembly) (primitives : List Primitive) (bucket : Bucket) :
    (assembly.emitEach primitives).bucket bucket =
      (assembly.bucket bucket).pushEach
        (primitives.filter fun primitive => primitive.bucket == bucket) := by
  induction primitives generalizing assembly with
  | nil => rfl
  | cons primitive rest ih =>
    rw [emitEach, List.foldl_cons, ← emitEach, ih, bucket_emit, List.filter_cons]
    by_cases same : primitive.bucket = bucket
    · simp [same, PrimitiveList.pushEach]
    · simp [same]

theorem addPoints_nil (assembly : Assembly) : assembly.addPoints [] = assembly := by
  simp [addPoints]

theorem addPoints_addPoints (assembly : Assembly) (points more : List NewPoint) :
    (assembly.addPoints points).addPoints more = assembly.addPoints (points ++ more) := by
  simp [addPoints]

theorem addPoints_emit (assembly : Assembly) (bucket : Bucket) (source : Nat) (ids : List Nat)
    (points : List NewPoint) :
    (assembly.emit bucket source ids).addPoints points =
      (assembly.addPoints points).emit bucket source ids := by
  cases bucket <;> rfl

/-- Points and primitives can be appended in either order. -/
theorem addPoints_emitEach (assembly : Assembly) (primitives : List Primitive)
    (points : List NewPoint) :
    (assembly.emitEach primitives).addPoints points =
      (assembly.addPoints points).emitEach primitives := by
  induction primitives generalizing assembly with
  | nil => rfl
  | cons primitive rest ih =>
    rw [emitEach, List.foldl_cons, ← emitEach, ih, addPoints_emit]
    rfl

theorem emitEach_append (assembly : Assembly) (primitives more : List Primitive) :
    assembly.emitEach (primitives ++ more) = (assembly.emitEach primitives).emitEach more := by
  rw [emitEach, List.foldl_append]
  rfl

/-- Primitives leave the points alone. -/
theorem points_emitEach (assembly : Assembly) (primitives : List Primitive) :
    (assembly.emitEach primitives).firstNew = assembly.firstNew ∧
      (assembly.emitEach primitives).newPoints = assembly.newPoints := by
  induction primitives generalizing assembly with
  | nil => exact ⟨rfl, rfl⟩
  | cons primitive rest ih =>
    rw [emitEach, List.foldl_cons, ← emitEach, (ih _).1, (ih _).2]
    cases primitive.bucket <;> exact ⟨rfl, rfl⟩

theorem firstNew_append (assembly : Assembly) (primitives : List Primitive)
    (points : List NewPoint) : (assembly.append primitives points).firstNew = assembly.firstNew :=
  (points_emitEach _ primitives).1

theorem newPoints_append (assembly : Assembly) (primitives : List Primitive)
    (points : List NewPoint) :
    (assembly.append primitives points).newPoints = assembly.newPoints ++ points.toArray :=
  (points_emitEach _ primitives).2

theorem nextPoint_append (assembly : Assembly) (primitives : List Primitive)
    (points : List NewPoint) :
    (assembly.append primitives points).nextPoint = assembly.nextPoint + points.length := by
  unfold nextPoint
  rw [firstNew_append, newPoints_append]
  simp [Nat.add_assoc]

theorem bucket_append (assembly : Assembly) (primitives : List Primitive)
    (points : List NewPoint) (bucket : Bucket) :
    (assembly.append primitives points).bucket bucket =
      (assembly.bucket bucket).pushEach
        (primitives.filter fun primitive => primitive.bucket == bucket) := by
  unfold append
  rw [bucket_emitEach]
  cases bucket <;> rfl

theorem append_nil (assembly : Assembly) : assembly.append [] [] = assembly := by
  unfold append
  rw [addPoints_nil]
  rfl

theorem append_append (assembly : Assembly) (primitives more : List Primitive)
    (points others : List NewPoint) :
    (assembly.append primitives points).append more others =
      assembly.append (primitives ++ more) (points ++ others) := by
  unfold append
  rw [addPoints_emitEach, addPoints_addPoints, emitEach_append]

theorem emitAll_eq_emitEach (assembly : Assembly) (bucket : Bucket) (source : Nat)
    (cells : List (List Nat)) :
    assembly.emitAll bucket source cells =
      assembly.emitEach (cells.map fun ids => ⟨bucket, source, ids⟩) := by
  unfold emitAll
  rw [emitEach, List.foldl_map]

theorem snd_addPoint (assembly : Assembly) (point : NewPoint) :
    (assembly.addPoint point).2 = assembly.addPoints [point] := by
  simp [addPoint, addPoints]

/-- A piece that fits is placed. -/
theorem place_eq_some {piece : Piece} (fits : piece.Fits mesh) (source : Nat)
    (assembly : Assembly) :
    assembly.place mesh source piece =
      some (assembly.append (Skin.primitives source assembly.nextPoint [piece])
        (piece.newPoints mesh)) := by
  cases piece with
  | primitive bucket ids =>
    unfold place append
    rw [Piece.newPoints, addPoints_nil]
    rfl
  | quad ids =>
    obtain ⟨eight, inside⟩ := fits
    rw [place, Subdivision.centre?_eq_some eight inside]
    simp only [Option.bind_eq_bind, Option.bind_some, Subdivision.quad?_eq_some eight,
      snd_addPoint, emitAll_eq_emitEach]
    unfold append
    rw [Skin.primitives, Skin.primitives, List.append_nil, Piece.cells, List.map_map,
      List.map_map]
    rfl

theorem length_newPoints (piece : Piece) : (piece.newPoints mesh).length = piece.centres := by
  cases piece <;> rfl

/-- Pieces that fit are placed one after the other. -/
theorem foldlM_place {pieces : List Piece} (fits : ∀ piece ∈ pieces, piece.Fits mesh)
    (source : Nat) (assembly : Assembly) :
    pieces.foldlM (place mesh source) assembly =
      some (assembly.append (Skin.primitives source assembly.nextPoint pieces)
        (pieces.flatMap (Piece.newPoints mesh))) := by
  induction pieces generalizing assembly with
  | nil => exact congrArg some (append_nil assembly).symm
  | cons piece rest ih =>
    have here := fits piece (by simp)
    have there := fun other member => fits other (List.mem_cons_of_mem piece member)
    rw [List.foldlM_cons, place_eq_some here, Option.bind_eq_bind, Option.bind_some, ih there,
      append_append, nextPoint_append, length_newPoints]
    simp [Skin.primitives]

end Assembly
end MeshSkin
