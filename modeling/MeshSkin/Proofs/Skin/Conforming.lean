import Mathlib.Data.Finset.Card
import MeshSkin.Proofs.Skin.Reveal

/-!
# Conforming meshes

On a conforming mesh cells meet in whole faces only: two visible solids that have three points
in common have a face in common. There, looking for another cell that contains the points of a
face is the same as looking for another cell that has this face (`Conforming.isHidden_eq`),
because no face of a solid lies inside another face of the same solid.
-/

namespace MeshSkin

/-- Solids with straight edges. -/
def CellKind.isLinearSolid (kind : CellKind) : Bool := kind.faceTable?.isSome && !kind.isQuadratic

/-- A face has each of its points once. -/
theorem faceTable_nodup :
    ∀ kind ∈ CellKind.named, ∀ table ∈ kind.faceTable?, ∀ face ∈ table.faces, face.Nodup := by
  decide

/-- A face that lies inside another one of the same solid is that face. -/
theorem faceTable_antichain :
    ∀ kind ∈ CellKind.named, ∀ table ∈ kind.faceTable?, ∀ face ∈ table.faces,
      ∀ other ∈ table.faces, face ⊆ other → other ⊆ face := by
  decide

section Pick

variable {points locals others : List Nat}

theorem eq_of_getD_eq (nodup : points.Nodup) {i j : Nat} (hi : i < points.length)
    (hj : j < points.length) (same : points.getD i 0 = points.getD j 0) : i = j := by
  simp only [List.getD, List.getElem?_eq_getElem hi, List.getElem?_eq_getElem hj,
    Option.getD_some] at same
  exact nodup.getElem_inj_iff.1 same

theorem nodup_pick (nodup : points.Nodup) (inside : ∀ i ∈ locals, i < points.length)
    (distinct : locals.Nodup) : (pick points locals).Nodup :=
  List.Nodup.map_on
    (fun i hi j hj same => eq_of_getD_eq nodup (inside i hi) (inside j hj) same) distinct

/-- Among distinct points, picked points lie inside others only if their numbers do. -/
theorem subset_of_pick_subset (nodup : points.Nodup) (inside : ∀ i ∈ locals, i < points.length)
    (inside' : ∀ i ∈ others, i < points.length) (h : pick points locals ⊆ pick points others) :
    locals ⊆ others := by
  intro i member
  obtain ⟨j, listed, same⟩ := List.mem_map.1 (h (List.mem_map.2 ⟨i, member, rfl⟩))
  rwa [← eq_of_getD_eq nodup (inside' j listed) (inside i member) same]

end Pick

namespace Skin

variable (mesh : Mesh) (options : Options)

/-- The points that two cells have in common. -/
def sharedPoints (first second : Cell) : Finset Nat :=
  first.points.toFinset ∩ second.points.toFinset

/-- All visible cells are solids with straight edges and without repeated points, and any two of
them that share three points share exactly the points of a face of either. -/
structure Conforming : Prop where
  linear : ∀ cell ∈ mesh.cellList, isVisible mesh options cell = true →
    cell.kind.isLinearSolid = true
  nodup : ∀ cell ∈ mesh.cellList, isVisible mesh options cell = true → cell.points.Nodup
  meets : ∀ first ∈ mesh.cellList, ∀ second ∈ mesh.cellList,
    isVisible mesh options first = true → isVisible mesh options second = true →
      first.id ≠ second.id → 3 ≤ (sharedPoints first second).card →
        (∃ face ∈ faces first, face.toFinset = sharedPoints first second) ∧
          ∃ face ∈ faces second, face.toFinset = sharedPoints first second

/-- Another visible cell has a face on the same points, in whatever order. -/
def isMatched (owner : Cell) (face : List Nat) : Bool :=
  mesh.cellList.any fun other =>
    other.id != owner.id && isVisible mesh options other &&
      (faces other).any fun candidate => decide (candidate.toFinset = face.toFinset)

/-- The faces of a cell that no other visible cell has. -/
def unmatchedFaces (cell : Cell) : List (List Nat) :=
  (faces cell).filter fun face => !isMatched mesh options cell face

variable {mesh options} {cell : Cell} {face other : List Nat}

theorem exists_of_mem_faces (member : face ∈ faces cell) :
    ∃ table, cell.kind.faceTable? = some table ∧
      ∃ locals ∈ table.faces, face = pick cell.points locals := by
  unfold faces at member
  split at member
  · rename_i table solid
    obtain ⟨locals, listed, rfl⟩ := List.mem_map.1 member
    exact ⟨table, solid, locals, listed, rfl⟩
  · cases member

/-- A face of a cell without repeated points has at least three points. -/
theorem three_le_card_of_mem_faces (listed : cell ∈ mesh.cellList) (nodup : cell.points.Nodup)
    (member : face ∈ faces cell) : 3 ≤ face.toFinset.card := by
  obtain ⟨table, solid, locals, named, rfl⟩ := exists_of_mem_faces member
  have kind := CellKind.mem_named_of_faceTable? solid
  have distinct := faceTable_nodup _ kind table solid locals named
  have inside := Contribution.local_lt_of_mem listed solid named
  rw [List.toFinset_card_of_nodup (nodup_pick nodup inside distinct), pick, List.length_map]
  exact three_le_length_face _ kind table solid locals named

/-- No face of a cell without repeated points lies inside another one. -/
theorem faces_antichain (listed : cell ∈ mesh.cellList) (nodup : cell.points.Nodup)
    (member : face ∈ faces cell) (member' : other ∈ faces cell)
    (h : face.toFinset ⊆ other.toFinset) : face.toFinset = other.toFinset := by
  obtain ⟨table, solid, locals, named, rfl⟩ := exists_of_mem_faces member
  obtain ⟨table', solid', others, named', rfl⟩ := exists_of_mem_faces member'
  obtain rfl : table = table' := Option.some.inj (solid.symm.trans solid')
  have kind := CellKind.mem_named_of_faceTable? solid
  have sub : locals ⊆ others := by
    apply subset_of_pick_subset nodup (Contribution.local_lt_of_mem listed solid named)
      (Contribution.local_lt_of_mem listed solid named')
    intro point picked
    exact List.mem_toFinset.1 (h (List.mem_toFinset.2 picked))
  have back := faceTable_antichain _ kind table solid locals named others named' sub
  apply Finset.Subset.antisymm h
  intro point picked
  obtain ⟨i, used, rfl⟩ := List.mem_map.1 (List.mem_toFinset.1 picked)
  exact List.mem_toFinset.2 (List.mem_map.2 ⟨i, back used, rfl⟩)

theorem mem_points_of_mem_faces (listed : cell ∈ mesh.cellList) (member : face ∈ faces cell) :
    ∀ id ∈ face, id ∈ cell.points := by
  obtain ⟨table, solid, locals, named, rfl⟩ := exists_of_mem_faces member
  exact fun id picked => mem_of_mem_pick (Contribution.local_lt_of_mem listed solid named) picked

/-- Two visible cells of which one contains a face of the other have that face in common. -/
theorem Conforming.exists_face (conforming : Conforming mesh options) {owner : Cell}
    (owned : owner ∈ mesh.cellList) (seen : isVisible mesh options owner = true)
    (listed : cell ∈ mesh.cellList) (visible : isVisible mesh options cell = true)
    (different : cell.id ≠ owner.id) (member : face ∈ faces owner)
    (contains : ∀ id ∈ face, id ∈ cell.points) :
    ∃ candidate ∈ faces cell, candidate.toFinset = face.toFinset := by
  have nodup := conforming.nodup owner owned seen
  have sub : face.toFinset ⊆ sharedPoints cell owner := by
    intro id used
    have named := List.mem_toFinset.1 used
    exact Finset.mem_inter.2 ⟨List.mem_toFinset.2 (contains id named),
      List.mem_toFinset.2 (mem_points_of_mem_faces owned member id named)⟩
  have three : 3 ≤ (sharedPoints cell owner).card :=
    Nat.le_trans (three_le_card_of_mem_faces owned nodup member) (Finset.card_le_card sub)
  obtain ⟨⟨candidate, of_cell, same⟩, ⟨other, of_owner, same'⟩⟩ :=
    conforming.meets cell listed owner owned visible seen different three
  -- The given face lies inside the one in which the cells meet, so it is that one.
  refine ⟨candidate, of_cell, ?_⟩
  rw [same, ← same']
  exact (faces_antichain owned nodup member of_owner (same' ▸ sub)).symm

/-- Containing the points of a face is the same as having that face. -/
theorem Conforming.isHidden_eq (conforming : Conforming mesh options) {owner : Cell}
    (owned : owner ∈ mesh.cellList) (seen : isVisible mesh options owner = true)
    (member : face ∈ faces owner) :
    isHidden mesh options owner face = isMatched mesh options owner face := by
  unfold isHidden isMatched
  rw [Bool.eq_iff_iff, List.any_eq_true, List.any_eq_true]
  simp only [Bool.and_eq_true, bne_iff_ne, ne_eq, List.all_eq_true, List.contains_iff_mem,
    List.any_eq_true, decide_eq_true_eq]
  constructor
  · intro given
    obtain ⟨cell, listed, ⟨different, visible⟩, contains⟩ := given
    exact ⟨cell, listed, ⟨different, visible⟩,
      conforming.exists_face owned seen listed visible different member contains⟩
  · intro given
    obtain ⟨cell, listed, others, candidate, of_cell, same⟩ := given
    refine ⟨cell, listed, others, fun id used => ?_⟩
    apply mem_points_of_mem_faces listed of_cell
    rw [← List.mem_toFinset, same, List.mem_toFinset]
    exact used

/-- Unless interior faces are shown, a face is kept exactly if it is unmatched. -/
theorem Conforming.isKept_eq (conforming : Conforming mesh options)
    (solid : options.interiorFaces = false) (listed : cell ∈ mesh.cellList)
    (visible : isVisible mesh options cell = true) (member : face ∈ faces cell) :
    isKept mesh options cell face = !isMatched mesh options cell face := by
  rw [isKept, solid, Bool.false_or, conforming.isHidden_eq listed visible member]

theorem Conforming.keptFaces_eq (conforming : Conforming mesh options)
    (solid : options.interiorFaces = false) (listed : cell ∈ mesh.cellList)
    (visible : isVisible mesh options cell = true) :
    keptFaces mesh options cell = unmatchedFaces mesh options cell :=
  List.filter_congr fun _ member => conforming.isKept_eq solid listed visible member

/-- A solid with straight edges contributes one polygon for each kept face. -/
theorem pieces_of_linear (linear : cell.kind.isLinearSolid = true) :
    ∃ outline : List Nat → List Nat, pieces mesh options cell =
      ((keptFaces mesh options cell).map outline).map (.primitive .polys) := by
  unfold pieces
  cases kind : cell.kind <;> rw [kind] at linear <;> try cases linear
  case tetra | hexahedron | wedge | pyramid => exact ⟨id, by rw [List.map_id]⟩
  case voxel => exact ⟨fun face => pick face [0, 1, 3, 2], by rw [List.map_map]; rfl⟩

end Skin
end MeshSkin
