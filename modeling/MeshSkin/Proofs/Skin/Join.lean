import MeshSkin.Proofs.Mesh.Join
import MeshSkin.Proofs.Skin.Carried

/-!
# The skin of two meshes side by side

Under options that do not ask for ids the skin of joined meshes is the skin of the first and then
that of the second: each mesh is found in the joined one (`Skin.foundIn_join_left` and
`Skin.foundIn_join_right`), where no cell hides a face of the other mesh. The centres of the first
mesh make room for the points of the second, and those of the second for all of the first
(`Skin.inBucket_join`).
-/

namespace MeshSkin

/-- Where a point of the first mesh, or a centre in it, is in the joined mesh. -/
def Mesh.leftId (first second : Mesh) (id : Nat) : Nat :=
  if id < first.numPoints then id else second.numPoints + id

/-- Where a point of the second mesh, or a centre in it, is in the joined mesh, if the first mesh
has so many centres. -/
def Mesh.rightId (first second : Mesh) (centres id : Nat) : Nat :=
  if id < second.numPoints then first.numPoints + id else first.numPoints + centres + id

namespace Skin

variable {first second : Mesh} (joinable : first.Joinable second) {options : Options}

/-- Options that do not ask for ids. -/
structure AsksNoIds (options : Options) : Prop where
  cells : options.cellIds = none
  points : options.pointIds = none

section Options

variable (asks : AsksNoIds options)

include asks

theorem AsksNoIds.keepsCell (σ : Nat → Nat) (id : Nat) :
    options.keepsCell (σ id) = options.keepsCell id := by
  rw [Options.keepsCell, Options.keepsCell, asks.cells]
  rfl

theorem AsksNoIds.keepsPoint (ρ : Nat → Nat) (id : Nat) (point : Point) :
    options.keepsPoint (ρ id) point = options.keepsPoint id point := by
  rw [Options.keepsPoint, Options.keepsPoint, asks.points]
  rfl

/-- The first mesh is found as it is; the cells of the second are on other points. -/
theorem foundIn_join_left : first.FoundIn (first.join second joinable) options id id where
  cells_injective := Function.injective_id
  points_injective := Function.injective_id
  mem cell listed := by
    rw [renumber_id, Mesh.cellList_join]
    exact List.mem_append_left _ listed
  apart cell listed := by
    rw [Mesh.cellList_join] at listed
    rcases List.mem_append.1 listed with here | there
    · exact Or.inl ⟨cell, here, (renumber_id cell).symm⟩
    · right
      intro id bound used
      obtain ⟨source, _, rfl⟩ := List.mem_map.1 there
      obtain ⟨point, _, same⟩ := List.mem_map.1 used
      simp only [id_eq] at same
      omega
  point_eq _ := Mesh.point?_join_left joinable
  isGhost_eq _ := isGhost_within joinable.cells.within_left
  isVisible_eq _ := isVisible_within (fun _ => Mesh.point?_join_left joinable) (asks.keepsCell id)
    (asks.keepsPoint id)

/-- The second mesh is found behind the first, whose cells are on other points. -/
theorem foundIn_join_right : second.FoundIn (first.join second joinable) options
    (first.numCells + ·) (first.numPoints + ·) where
  cells_injective := add_right_injective _
  points_injective := add_right_injective _
  mem cell listed := by
    rw [Mesh.cellList_join]
    exact List.mem_append_right _ (List.mem_map_of_mem listed)
  apart cell listed := by
    rw [Mesh.cellList_join] at listed
    rcases List.mem_append.1 listed with here | there
    · right
      intro id _ used
      have inside := Mesh.points_lt_of_mem here _ used
      omega
    · obtain ⟨source, present, rfl⟩ := List.mem_map.1 there
      exact Or.inl ⟨source, present, rfl⟩
  point_eq id _ := Mesh.point?_join_right joinable id
  isGhost_eq _ := isGhost_within joinable.cells.within_right
  isVisible_eq _ := isVisible_within (fun id _ => Mesh.point?_join_right joinable id)
    (asks.keepsCell _) (asks.keepsPoint _)

end Options

section Joined

variable (asks : AsksNoIds options)

include asks

/-- The centres of the first mesh come behind the points of the second. -/
theorem firstCentre_join_left {id : Nat} (h : id ≤ first.numCells) :
    firstCentre (first.join second joinable) options id =
      second.numPoints + firstCentre first options id := by
  have centres := countCentres_flatMap_renumber (foundIn_join_left joinable asks)
    fun cell (taken : cell ∈ first.cellList.take id) => List.mem_of_mem_take taken
  have bound : id ≤ first.cellList.length := by rwa [Mesh.length_cellList]
  rw [map_cell_renumber_id] at centres
  rw [firstCentre, Mesh.cellList_join, Mesh.joinedCells, List.take_append_of_le_length bound, centres,
    firstCentre, Mesh.numPoints_join]
  omega

/-- The centres of the second mesh come behind all of the first. -/
theorem firstCentre_join_right (id : Nat) :
    firstCentre (first.join second joinable) options (first.numCells + id) =
      first.numPoints + numCentres first options + firstCentre second options id := by
  -- Before this cell come all of the first mesh and those of the second that were before it.
  have all := firstCentre_join_left joinable asks (Nat.le_refl first.numCells)
  have centres := countCentres_flatMap_renumber (foundIn_join_right joinable asks)
    fun cell (taken : cell ∈ second.cellList.take id) => List.mem_of_mem_take taken
  rw [firstCentre, firstCentre, first.take_numCells_cellList, Mesh.cellList_join, Mesh.joinedCells,
    ← first.length_cellList, List.take_left, ← numCentres] at all
  rw [firstCentre, Mesh.cellList_join, Mesh.joinedCells, ← first.length_cellList,
    List.take_length_add_append, List.flatMap_append, countCentres_append, ← List.map_take,
    first.length_cellList, centres, firstCentre]
  omega

theorem numCentres_join : numCentres (first.join second joinable) options =
    numCentres first options + numCentres second options := by
  have left := countCentres_flatMap_renumber (foundIn_join_left joinable asks) fun _ => id
  have right := countCentres_flatMap_renumber (foundIn_join_right joinable asks) fun _ => id
  rw [map_cell_renumber_id] at left
  rw [numCentres, Mesh.cellList_join, Mesh.joinedCells, List.flatMap_append, countCentres_append, left,
    right, numCentres, numCentres]

theorem carried_join_left :
    Carried first (first.join second joinable) options options id id (first.leftId second) := by
  refine carried_of_found (foundIn_join_left joinable asks) (fun id bound => if_pos bound) ?_
  intro cell listed k _
  have behind : first.numPoints ≤ firstCentre first options cell.id := numPoints_le_firstCentre _
  rw [Mesh.leftId, if_neg (by omega), id_eq,
    firstCentre_join_left joinable asks (Nat.le_of_lt (Mesh.mem_cellList.1 listed).1)]
  omega

theorem carried_join_right :
    Carried second (first.join second joinable) options options (first.numCells + ·)
      (first.numPoints + ·) (first.rightId second (numCentres first options)) := by
  refine carried_of_found (foundIn_join_right joinable asks) (fun id bound => if_pos bound) ?_
  intro cell listed k _
  have behind : second.numPoints ≤ firstCentre second options cell.id := numPoints_le_firstCentre _
  rw [Mesh.rightId, if_neg (by omega), firstCentre_join_right joinable asks]
  omega

/-- A bucket of the joined mesh is that of the first and then that of the second. -/
theorem inBucket_join (bucket : Bucket) :
    inBucket (first.join second joinable) options bucket =
      (inBucket first options bucket).map (Primitive.renumber id (first.leftId second)) ++
        (inBucket second options bucket).map (Primitive.renumber (first.numCells + ·)
          (first.rightId second (numCentres first options))) := by
  have left := carried_join_left joinable asks
  have right := carried_join_right joinable asks
  rw [← inBucket_renumber (foundIn_join_left joinable asks) left.points left.centres,
    ← inBucket_renumber (foundIn_join_right joinable asks) right.points right.centres,
    map_cell_renumber_id, ← List.flatMap_append, inBucket, Mesh.cellList_join, Mesh.joinedCells]

end Joined

end Skin
end MeshSkin
