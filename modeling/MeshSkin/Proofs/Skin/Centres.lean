import MeshSkin.Proofs.Skin.Primitives

/-!
# The quads around the centres

Every centre of the skin belongs to one curved quad: a cell of that kind, or a kept face of a curved
hexahedron, its points in ring order (`Skin.exists_ring`). The quads cell by cell, in a cell by the
face table, are numbered as the centres are (`Skin.exists_quad`). A centre is a corner of six of the
eight triangles of its own quad, which stand one behind the other, and of no other primitive
(`Skin.exists_triangles`).
-/

namespace MeshSkin

/-- A curved quad of the skin: its corners and then its midside points. -/
structure CurvedQuad where
  /-- The cell that is the quad, or has it as a face. -/
  cell : Nat
  /-- The place of the face in the face table, and zero for a cell that is the quad itself. -/
  face : Nat
  ids : List Nat
  deriving DecidableEq, Repr

namespace CurvedQuad

/-- In the order of the cells, and in a cell in the order of its faces. -/
def Precedes (first second : CurvedQuad) : Prop :=
  first.cell < second.cell ∨ first.cell = second.cell ∧ first.face < second.face

/-- Its points with their weights, minus a quarter for a corner and one half for a midside point. -/
def stencil (quad : CurvedQuad) : Stencil := quadStencil quad.ids

/-- A coordinate of its centre: those of its points, weighted and added up in their order. -/
def coordinate (mesh : Mesh) (quad : CurvedQuad) (axis : Point → Float) : Float :=
  quad.stencil.foldl (fun sum (id, weight) => sum + axis (mesh.points.getD id .origin) * weight) 0.0

/-- The centre as a new point. -/
def centre (mesh : Mesh) (quad : CurvedQuad) : NewPoint :=
  ⟨mesh.weighted quad.stencil, quad.stencil⟩

/-- The triangles that a curved quad is cut into: 0 to 3 are its corners, 4 to 7 its midside points,
and 8 is its centre. -/
def split : List (List Nat) :=
  [[0, 4, 8], [0, 8, 7], [4, 1, 5], [4, 5, 8], [8, 5, 2], [8, 2, 6], [7, 8, 6], [7, 6, 3]]

/-- These triangles, if the centre has the given id. -/
def triangles (quad : CurvedQuad) (centre : Nat) : List Primitive :=
  split.map fun corners => ⟨.polys, quad.cell, pick (quad.ids ++ [centre]) corners⟩

/-- The edges of a curved cell by local numbers: two corners and the midside point between them. -/
def edges : CellKind → List (Nat × Nat × Nat)
  | .quadraticQuad => [(0, 1, 4), (1, 2, 5), (2, 3, 6), (3, 0, 7)]
  | .quadraticHexahedron =>
    [(0, 1, 8), (1, 2, 9), (2, 3, 10), (3, 0, 11), (4, 5, 12), (5, 6, 13), (6, 7, 14), (7, 4, 15),
      (0, 4, 16), (1, 5, 17), (2, 6, 18), (3, 7, 19)]
  | _ => []

/-- Four corners of a cell one after the other, and then the midside points between them, the first one
behind the first corner. -/
structure IsRing (kind : CellKind) (ring : List Nat) : Prop where
  eight : ring.length = 8
  nodup : ring.Nodup
  sides : ∀ k < 4,
    (ring.getD k 0, ring.getD ((k + 1) % 4) 0, ring.getD (k + 4) 0) ∈ edges kind ∨
      (ring.getD ((k + 1) % 4) 0, ring.getD k 0, ring.getD (k + 4) 0) ∈ edges kind

instance (kind : CellKind) (ring : List Nat) : Decidable (IsRing kind ring) :=
  decidable_of_iff (ring.length = 8 ∧ ring.Nodup ∧ ∀ k < 4,
      (ring.getD k 0, ring.getD ((k + 1) % 4) 0, ring.getD (k + 4) 0) ∈ edges kind ∨
        (ring.getD ((k + 1) % 4) 0, ring.getD k 0, ring.getD (k + 4) 0) ∈ edges kind)
    ⟨fun given => ⟨given.1, given.2.1, given.2.2⟩, fun ring => ⟨ring.eight, ring.nodup, ring.sides⟩⟩

/-- The faces of a curved hexahedron by local numbers, in the order in which it emits them. -/
def hexahedronRings : List (List Nat) :=
  [[0, 4, 7, 3, 16, 15, 19, 11], [1, 2, 6, 5, 9, 18, 13, 17], [0, 1, 5, 4, 8, 17, 12, 16],
    [3, 7, 6, 2, 19, 14, 18, 10], [0, 3, 2, 1, 11, 10, 9, 8], [4, 5, 6, 7, 12, 13, 14, 15]]

theorem isRing_of_mem : ∀ ring ∈ hexahedronRings, IsRing .quadraticHexahedron ring := by
  decide

/-- Coordinates are weighted and added up each for itself. -/
theorem coordinate_eq (mesh : Mesh) (quad : CurvedQuad) (axis : Point → Float)
    (origin : axis .origin = 0.0) (add : ∀ p q : Point, axis (p.add q) = axis p + axis q)
    (scale : ∀ (p : Point) (weight : Float), axis (p.scale weight) = axis p * weight) :
    quad.coordinate mesh axis = axis (mesh.weighted quad.stencil) := by
  unfold coordinate Mesh.weighted
  rw [← origin]
  refine List.foldl_hom axis fun sum entry => ?_
  rw [add, scale]

theorem weighted_stencil (mesh : Mesh) (quad : CurvedQuad) :
    mesh.weighted quad.stencil =
      ⟨quad.coordinate mesh Point.x, quad.coordinate mesh Point.y, quad.coordinate mesh Point.z⟩ := by
  rw [coordinate_eq mesh quad Point.x rfl (fun _ _ => rfl) fun _ _ => rfl,
    coordinate_eq mesh quad Point.y rfl (fun _ _ => rfl) fun _ _ => rfl,
    coordinate_eq mesh quad Point.z rfl (fun _ _ => rfl) fun _ _ => rfl]

section Triangles

variable {quad : CurvedQuad} {centre : Nat}

/-- They are triangles of the cell of the quad. -/
theorem of_mem_triangles {primitive : Primitive} (h : primitive ∈ quad.triangles centre) :
    primitive.bucket = .polys ∧ primitive.source = quad.cell ∧ primitive.ids.length = 3 := by
  obtain ⟨corners, listed, rfl⟩ := List.mem_map.1 h
  have three : ∀ corners ∈ split, corners.length = 3 := by decide
  exact ⟨rfl, rfl, (List.length_map _).trans (three corners listed)⟩

variable (eight : quad.ids.length = 8) (new : centre ∉ quad.ids)

include eight new

/-- The centre is where the pattern has it. -/
theorem count_pick {corners : List Nat} (listed : corners ∈ split) :
    (pick (quad.ids ++ [centre]) corners).count centre = corners.count 8 := by
  have bounds : ∀ corners ∈ split, ∀ i ∈ corners, i < 9 := by decide
  unfold pick
  rw [List.count_eq_countP, List.countP_map, List.count_eq_countP]
  refine List.countP_congr fun i member => ?_
  have bound := bounds corners listed i member
  by_cases last : i = 8
  · simp [last, List.getD, ← eight]
  · have old : i < quad.ids.length := by omega
    have other : quad.ids[i] ≠ centre := fun same => new (same ▸ List.getElem_mem old)
    simp [last, List.getD, List.getElem?_append_left old, old, other]

/-- Six of the triangles have the centre as a corner, each once. -/
theorem map_count_triangles :
    (quad.triangles centre).map (fun primitive => primitive.ids.count centre) =
      [1, 1, 0, 1, 1, 1, 1, 0] := by
  unfold triangles
  rw [List.map_map]
  exact List.map_congr_left fun corners listed => count_pick eight new listed

end Triangles

end CurvedQuad

/-- The quad that a piece is. -/
def Piece.quad? : Piece → Option (List Nat)
  | .primitive _ _ => none
  | .quad ids => some ids

theorem pick_range (ids : List Nat) : pick ids (List.range ids.length) = ids := by
  unfold pick
  refine List.ext_getElem (by simp) fun i _ inside => ?_
  simp [List.getD, inside]

/-- The place in one of many lists. -/
theorem exists_of_getElem?_flatMap {α β : Type} {items : List α} {lists : α → List β} {j : Nat}
    {found : β} (h : (items.flatMap lists)[j]? = some found) :
    ∃ i item k, items[i]? = some item ∧ (lists item)[k]? = some found ∧
      j = ((items.take i).flatMap lists).length + k := by
  induction items generalizing j with
  | nil => simp at h
  | cons item rest ih =>
    rw [List.flatMap_cons, List.getElem?_append] at h
    split at h
    · exact ⟨0, item, j, rfl, h, by simp⟩
    · rename_i beyond
      obtain ⟨i, other, k, listed, own, place⟩ := ih h
      refine ⟨i + 1, other, k, listed, own, ?_⟩
      rw [List.take_succ_cons, List.flatMap_cons, List.length_append]
      omega

namespace Skin

section Pieces

variable {mesh : Mesh} {pieces : List Piece}

/-- Every quad needs one centre, and nothing else needs one. -/
theorem countCentres_eq_length (pieces : List Piece) :
    countCentres pieces = (pieces.filterMap Piece.quad?).length := by
  induction pieces with
  | nil => rfl
  | cons piece rest ih =>
    rw [countCentres, ih]
    cases piece with
    | primitive bucket ids => simp [List.filterMap_cons, Piece.centres, Piece.quad?]
    | quad ids => simp [Piece.centres, Piece.quad?, Nat.add_comm]

/-- The new points are the centres of the quads. -/
theorem flatMap_newPoints (pieces : List Piece) :
    pieces.flatMap (Piece.newPoints mesh) =
      (pieces.filterMap Piece.quad?).map fun ids =>
        ⟨mesh.weighted (quadStencil ids), quadStencil ids⟩ := by
  induction pieces with
  | nil => rfl
  | cons piece rest ih =>
    rw [List.flatMap_cons, ih]
    cases piece <;> rfl

/-- A quad stands behind as many centres as quads. -/
theorem exists_of_getElem?_quad {k : Nat} {ids : List Nat}
    (h : (pieces.filterMap Piece.quad?)[k]? = some ids) :
    ∃ before after, pieces = before ++ .quad ids :: after ∧ countCentres before = k := by
  induction pieces generalizing k with
  | nil => simp at h
  | cons piece rest ih =>
    cases piece with
    | primitive bucket others =>
      have later : (rest.filterMap Piece.quad?)[k]? = some ids := by
        simpa [List.filterMap_cons, Piece.quad?] using h
      obtain ⟨before, after, split, count⟩ := ih later
      refine ⟨.primitive bucket others :: before, after, by rw [split]; rfl, ?_⟩
      rw [countCentres, count, Piece.centres, Nat.zero_add]
    | quad first =>
      cases k with
      | zero =>
        obtain rfl : first = ids := by simpa [Piece.quad?] using h
        exact ⟨[], rest, rfl, rfl⟩
      | succ k =>
        have later : (rest.filterMap Piece.quad?)[k]? = some ids := by
          simpa [Piece.quad?] using h
        obtain ⟨before, after, split, count⟩ := ih later
        refine ⟨.quad first :: before, after, by rw [split]; rfl, ?_⟩
        rw [countCentres, count, Piece.centres, Nat.add_comm]

theorem primitives_append (source centre : Nat) (pieces more : List Piece) :
    primitives source centre (pieces ++ more) =
      primitives source centre pieces ++
        primitives source (centre + countCentres pieces) more := by
  induction pieces generalizing centre with
  | nil => rfl
  | cons piece rest ih =>
    rw [List.cons_append, primitives, primitives, ih, countCentres, List.append_assoc, Nat.add_assoc]

end Pieces

variable (mesh : Mesh) (options : Options)

/-- The curved quads that a cell contributes, in the order of its faces. -/
def quads (cell : Cell) : List CurvedQuad :=
  match cell.kind with
  | .quadraticQuad => [⟨cell.id, 0, cell.points⟩]
  | .quadraticHexahedron =>
    ((CurvedQuad.hexahedronRings.map (pick cell.points)).zipIdx.filter
        fun (face, _) => isKept mesh options cell face).map
      fun (face, place) => ⟨cell.id, place, face⟩
  | _ => []

/-- The quads of the cells that are extracted among the first ones. -/
def quadsBefore (done : Nat) : List CurvedQuad :=
  ((mesh.cellList.take done).filter (isExtracted mesh options)).flatMap (quads mesh options)

/-- The quads that a cell emits. -/
def emittedQuads (cell : Cell) : List CurvedQuad :=
  if isExtracted mesh options cell then quads mesh options cell else []

variable {mesh options}

theorem faces_eq_of_quadraticHexahedron {cell : Cell} (kind : cell.kind = .quadraticHexahedron) :
    faces cell = CurvedQuad.hexahedronRings.map (pick cell.points) := by
  rw [faces, kind]
  rfl

theorem filterMap_quad?_pieces (cell : Cell) :
    (pieces mesh options cell).filterMap Piece.quad? =
      (quads mesh options cell).map CurvedQuad.ids := by
  unfold pieces quads
  cases kind : cell.kind
  case quadraticHexahedron =>
    have kept : ((faces cell).zipIdx.filter fun (face, _) => isKept mesh options cell face).map
        Prod.fst = keptFaces mesh options cell := by
      conv_rhs => rw [keptFaces, ← List.zipIdx_map_fst 0 (faces cell), List.filter_map]
      rfl
    rw [← kept, faces_eq_of_quadraticHexahedron kind]
    simp [Piece.quad?, Function.comp_def]
  all_goals simp [Piece.quad?, List.filterMap_flatMap]

theorem filterMap_quad?_emitted (cell : Cell) :
    (emitted mesh options cell).filterMap Piece.quad? =
      (emittedQuads mesh options cell).map CurvedQuad.ids := by
  unfold emitted emittedQuads
  split
  · exact filterMap_quad?_pieces cell
  · rfl

theorem newPoints_eq_map (cell : Cell) :
    newPoints mesh options cell = (emittedQuads mesh options cell).map (CurvedQuad.centre mesh) := by
  rw [newPoints, flatMap_newPoints, filterMap_quad?_emitted, List.map_map]
  rfl

theorem quadsBefore_eq_flatMap (done : Nat) :
    quadsBefore mesh options done =
      (mesh.cellList.take done).flatMap (emittedQuads mesh options) := by
  unfold quadsBefore
  induction mesh.cellList.take done with
  | nil => rfl
  | cons cell rest ih =>
    rw [List.flatMap_cons, ← ih, List.filter_cons, emittedQuads]
    split
    · rw [List.flatMap_cons]
    · rfl

/-- The first cells have as many centres as quads. -/
theorem firstCentre_eq_length (done : Nat) :
    firstCentre mesh options done = mesh.numPoints + (quadsBefore mesh options done).length := by
  rw [firstCentre, countCentres_eq_length, List.filterMap_flatMap, quadsBefore_eq_flatMap,
    ← List.length_map CurvedQuad.ids, List.map_flatMap]
  simp only [filterMap_quad?_emitted]

theorem cell_of_mem_quads {cell : Cell} {quad : CurvedQuad} (h : quad ∈ quads mesh options cell) :
    quad.cell = cell.id := by
  unfold quads at h
  split at h
  · rw [List.mem_singleton.1 h]
  · obtain ⟨face, _, rfl⟩ := List.mem_map.1 h
    rfl
  · cases h

/-- The points of a quad are those of a ring of its cell. -/
theorem exists_ring {cell : Cell} (h : cell ∈ mesh.cellList) {quad : CurvedQuad}
    (member : quad ∈ quads mesh options cell) :
    ∃ ring, CurvedQuad.IsRing cell.kind ring ∧ quad.ids = pick cell.points ring := by
  unfold quads at member
  split at member
  · rename_i kind
    have eight : cell.points.length = 8 := Mesh.length_points_of_mem h (kind ▸ rfl)
    rw [List.mem_singleton.1 member, kind]
    exact ⟨List.range 8, by decide, eight ▸ (pick_range cell.points).symm⟩
  · rename_i kind
    obtain ⟨⟨face, place⟩, kept, rfl⟩ := List.mem_map.1 member
    obtain ⟨ring, among, rfl⟩ :=
      List.mem_map.1 (List.fst_mem_of_mem_zipIdx (List.mem_filter.1 kept).1)
    rw [kind]
    exact ⟨ring, CurvedQuad.isRing_of_mem ring among, rfl⟩
  · cases member

/-- The quads are in order. -/
theorem pairwise_quadsBefore (done : Nat) :
    (quadsBefore mesh options done).Pairwise CurvedQuad.Precedes := by
  unfold quadsBefore
  rw [List.pairwise_flatMap]
  constructor
  · intro cell _
    unfold quads
    split
    · exact List.pairwise_singleton _ _
    · have places : (CurvedQuad.hexahedronRings.map (pick cell.points)).zipIdx.Pairwise
          fun first second => first.2 < second.2 := by
        rw [← List.pairwise_map, List.zipIdx_map_snd]
        exact List.pairwise_lt_range'
      rw [List.pairwise_map]
      exact (places.filter _).imp fun before => Or.inr ⟨rfl, before⟩
    · exact .nil
  · refine ((mesh.pairwise_id_cellList.sublist (List.take_sublist _ _)).filter _).imp ?_
    intro cell later before quad member other member'
    exact Or.inl (by rwa [cell_of_mem_quads member, cell_of_mem_quads member'])

/-- The quad of a centre is one of the pieces of an extracted cell, and it stands behind as many
quads as its centre stands behind centres. -/
theorem exists_quad {done j : Nat} {quad : CurvedQuad}
    (h : (quadsBefore mesh options done)[j]? = some quad) :
    ∃ cell ∈ (mesh.cellList.take done).filter (isExtracted mesh options),
      quad ∈ quads mesh options cell ∧ ∃ before after,
        emitted mesh options cell = before ++ .quad quad.ids :: after ∧
          mesh.numPoints + j = firstCentre mesh options cell.id + countCentres before := by
  rw [quadsBefore_eq_flatMap] at h
  obtain ⟨i, cell, k, listed, own, place⟩ := exists_of_getElem?_flatMap h
  have extracted : isExtracted mesh options cell = true := by
    unfold emittedQuads at own
    split at own
    · assumption
    · cases own
  have found : ((emitted mesh options cell).filterMap Piece.quad?)[k]? = some quad.ids := by
    rw [filterMap_quad?_emitted, List.getElem?_map, own]
    rfl
  obtain ⟨before, after, split, count⟩ := exists_of_getElem?_quad found
  rw [emittedQuads, if_pos extracted] at own
  refine ⟨cell, List.mem_filter.2 ⟨List.mem_of_getElem? listed, extracted⟩,
    List.mem_of_getElem? own, before, after, split, ?_⟩
  obtain ⟨early, inside⟩ : i < done ∧ mesh.cellList[i]? = some cell := by
    rw [List.getElem?_take] at listed
    split at listed
    · exact ⟨by assumption, listed⟩
    · cases listed
  have id_eq : cell.id = i := by
    obtain ⟨bound, same⟩ := List.getElem?_eq_some_iff.1 inside
    rw [← same]
    simp [Mesh.cellList, Mesh.cellAt_id]
  rw [List.take_take, Nat.min_eq_left (Nat.le_of_lt early), ← quadsBefore_eq_flatMap] at place
  rw [id_eq, firstCentre_eq_length, count, place, Nat.add_assoc]

section Triangles

variable {cell : Cell} {quad : CurvedQuad} {before after : List Piece}
  (own : quad.cell = cell.id)
  (split : emitted mesh options cell = before ++ .quad quad.ids :: after)

include own split

/-- The triangles of a quad stand where its piece stands. -/
theorem contribution_eq_append :
    contribution mesh options cell =
      primitives cell.id (firstCentre mesh options cell.id) before ++
        (quad.triangles (firstCentre mesh options cell.id + countCentres before) ++
          primitives cell.id (firstCentre mesh options cell.id + countCentres before + 1) after) := by
  rw [contribution, split, primitives_append, primitives, Piece.cells, List.map_map,
    Piece.centres, CurvedQuad.triangles, own]
  rfl

variable (listed : cell ∈ mesh.cellList) {done : Nat} (early : cell.id < done)

include listed early

/-- In every bucket the triangles of a quad stand one behind the other, if they go to that bucket, and
no other primitive has the centre of the quad. -/
theorem exists_triangles (bucket : Bucket) :
    ∃ front back, inBucketBefore mesh options done bucket =
        front ++ (quad.triangles (firstCentre mesh options cell.id + countCentres before)).filter
          (fun primitive => primitive.bucket == bucket) ++ back ∧
      ∀ primitive ∈ front ++ back,
        firstCentre mesh options cell.id + countCentres before ∉ primitive.ids := by
  obtain ⟨bound, same⟩ := Mesh.mem_cellList.1 listed
  have start : mesh.numPoints ≤ firstCentre mesh options cell.id := numPoints_le_firstCentre _
  have fits : ∀ piece ∈ before ++ .quad quad.ids :: after, piece.Fits mesh := by
    rw [← split]
    exact fun _ => fits_of_mem_emitted listed
  refine ⟨inBucketBefore mesh options cell.id bucket ++
      (primitives cell.id (firstCentre mesh options cell.id) before).filter
        (fun primitive => primitive.bucket == bucket),
    (primitives cell.id (firstCentre mesh options cell.id + countCentres before + 1) after).filter
        (fun primitive => primitive.bucket == bucket) ++
      ((mesh.cellList.drop (cell.id + 1)).take (done - (cell.id + 1))).flatMap fun other =>
        (contribution mesh options other).filter fun primitive => primitive.bucket == bucket,
    ?_, ?_⟩
  · rw [inBucketBefore, Mesh.take_cellList_eq_append listed early, List.flatMap_append,
      List.flatMap_cons, contribution_eq_append own split, List.filter_append,
      List.filter_append, inBucketBefore]
    simp only [List.append_assoc]
  · intro primitive member holds
    simp only [List.mem_append] at member
    rcases member with (earlier | sooner) | (next | later)
    · obtain ⟨other, taken, emits, _⟩ := mem_inBucketBefore.1 earlier
      have below := ids_of_mem_contribution (List.mem_of_mem_take taken) emits holds
      have mono : firstCentre mesh options (other.id + 1) ≤ firstCentre mesh options cell.id :=
        firstCentre_mono (Mesh.id_lt_of_mem_take taken)
      omega
    · rcases ids_of_mem_primitives (fun piece here => fits piece (List.mem_append_left _ here))
        (List.mem_filter.1 sooner).1 holds with point | centres <;> omega
    · rcases ids_of_mem_primitives
        (fun piece here => fits piece (List.mem_append_right _ (List.mem_cons_of_mem _ here)))
        (List.mem_filter.1 next).1 holds with point | centres <;> omega
    · obtain ⟨other, taken, kept⟩ := List.mem_flatMap.1 later
      have dropped := List.mem_of_mem_take taken
      have next : firstCentre mesh options (cell.id + 1) = firstCentre mesh options cell.id +
          countCentres (emitted mesh options (mesh.cellAt cell.id)) := firstCentre_succ bound
      rw [← same, split, countCentres_append, countCentres, Piece.centres] at next
      have mono : firstCentre mesh options (cell.id + 1) ≤ firstCentre mesh options other.id :=
        firstCentre_mono (Mesh.le_id_of_mem_drop dropped)
      rcases ids_of_mem_primitives
        (fun _ emits => fits_of_mem_emitted (List.mem_of_mem_drop dropped) emits)
        (List.mem_filter.1 kept).1 holds with point | centres <;> omega

end Triangles

end Skin
end MeshSkin
