import MeshSkin.Proofs.Extraction.Run
import MeshSkin.Proofs.Mesh.Building
import MeshSkin.Proofs.Surface.Renumbered

/-!
# Point numbers are only names

Over a mesh with its points renumbered, a run stops at the same tick and gives the same surface with
the same numbers changed: in every bucket the ids of the points are replaced, the new points keep
theirs, and each point and its attributes are at the new place
(`Extraction.run_pointsRenumbered`). The search for the cells that share a face starts at other
points, but what it finds is the same.
-/

namespace MeshSkin

variable {mesh other : Mesh} {ρ : Equiv.Perm Nat} {options : Options}

/-- A surface with other ids for its points. -/
structure Surface.PointsRenumbered (surface other : Surface) (ρ : Equiv.Perm Nat) : Prop where
  numPoints_eq : other.numPoints = surface.numPoints
  point_eq : ∀ id < surface.numPoints, other.points[ρ id]? = surface.points[id]?
  pointData : surface.pointData.Moved surface.numPoints ρ other.pointData
  bucket_eq : ∀ bucket,
    (other.bucket bucket).toLists = (surface.bucket bucket).toLists.map (List.map ρ)
  origins_eq : other.origins = surface.origins
  cellData_eq : other.cellData = surface.cellData
  stats_eq : other.stats = surface.stats
  aborted_eq : other.aborted = surface.aborted
  borrowed_eq : other.borrowed = surface.borrowed

namespace Skin

section PointNumbers

variable (renumbered : mesh.Renumbered other (Equiv.refl Nat) ρ)
  (ignores : options.Ignores (Equiv.refl Nat) ρ)

include renumbered ignores

/-- Centres keep their ids. -/
theorem firstCentre_renumber (id : Nat) :
    firstCentre other options id = firstCentre mesh options id := by
  unfold firstCentre
  rw [renumbered.flatMap_take fun _ => emitted_renumber (foundIn_renumber renumbered ignores),
    countCentres_renumber, renumbered.numPoints_eq]

theorem tracks_points : Tracks mesh other options (Equiv.refl Nat) ρ ρ where
  points _ _ := rfl
  centres cell _ k _ := by
    have behind : mesh.numPoints ≤ firstCentre mesh options cell.id + k :=
      Nat.le_trans (numPoints_le_firstCentre cell.id) (Nat.le_add_right _ _)
    rw [renumbered.points_fixed _ behind, Equiv.refl_apply, firstCentre_renumber renumbered ignores]

/-- The first cells contribute the same primitives to a bucket. -/
theorem inBucketBefore_renumber (done : Nat) (bucket : Bucket) :
    inBucketBefore other options done bucket =
      (inBucketBefore mesh options done bucket).map (Primitive.renumber (Equiv.refl Nat) ρ) := by
  apply renumbered.flatMap_take
  intro cell listed
  rw [(tracks_points renumbered ignores).contribution_eq (foundIn_renumber renumbered ignores) listed,
    List.filter_map]
  rfl

end PointNumbers

end Skin

namespace Assembly

variable (renumbered : mesh.Renumbered other (Equiv.refl Nat) ρ)
  (ignores : options.Ignores (Equiv.refl Nat) ρ)

include renumbered ignores

theorem newPoints_after_renumber (done : Nat) :
    (after other options done).newPoints =
      (after mesh options done).newPoints.map (NewPoint.renumber ρ) := by
  unfold after
  rw [newPoints_append, newPoints_append,
    renumbered.flatMap_take fun cell listed => Skin.newPoints_renumber renumbered.point_eq listed
      (Skin.emitted_renumber (Skin.foundIn_renumber renumbered ignores) listed)]
  simp [empty]

theorem follows_after (done : Nat) :
    Follows mesh (after mesh options done) (after other options done) ρ ρ where
  points _ _ := rfl
  numNewPoints_eq := by
    unfold numNewPoints
    rw [newPoints_after_renumber renumbered ignores, Array.size_map]
  new j point found := by
    refine ⟨j, ?_, renumbered.points_fixed _ (Nat.le_add_right _ _)⟩
    rw [newPoints_after_renumber renumbered ignores, Array.getElem?_map, found]
    rfl

theorem origins_after_renumber (done : Nat) :
    (after other options done).origins = (after mesh options done).origins := by
  rw [origins_after, origins_after]
  apply List.flatMap_congr
  intro bucket _
  rw [Skin.inBucketBefore_renumber renumbered ignores, List.map_map]
  rfl

/-- The surfaces of the first cells. -/
theorem pointsRenumbered (shaped : ∀ array ∈ mesh.pointData.arrays, array.WellShaped) {done : Nat}
    {surface made : Surface} {stats : Stats} {aborted : Bool}
    (some_surface : (after mesh options done).finish mesh stats aborted = some surface)
    (some_made : (after other options done).finish other stats aborted = some made) :
    surface.PointsRenumbered made ρ := by
  have sound : (after mesh options done).Sound mesh := sound_after done
  have sound' : (after other options done).Sound other := sound_after done
  obtain ⟨finished, stats_eq, aborted_eq⟩ := finished_of_finish sound some_surface
  obtain ⟨finished', stats_eq', aborted_eq'⟩ := finished_of_finish sound' some_made
  have follows := follows_after renumbered ignores done
  have origins := origins_after_renumber renumbered ignores done
  refine ⟨follows.numPoints_eq renumbered sound sound' some_surface some_made,
    fun id => follows.point_eq renumbered sound sound' some_surface some_made,
    follows.pointData renumbered sound sound' some_surface some_made shaped, fun bucket => ?_, ?_,
    ?_, stats_eq'.trans stats_eq.symm, aborted_eq'.trans aborted_eq.symm, ?_⟩
  · rw [finished'.bucket_eq, finished.bucket_eq, cells_after, cells_after,
      Skin.inBucketBefore_renumber renumbered ignores, List.map_map, List.map_map]
    rfl
  · apply Array.toList_inj.1
    rw [finished'.origins_eq, finished.origins_eq, origins]
  · have same := renumbered.cellData.gather_eq sound.origins
    rw [Equiv.coe_refl, List.map_id, gather_of_finish some_surface, ← origins,
      gather_of_finish some_made] at same
    exact Option.some.inj same
  · rw [finished'.borrowed_eq, finished.borrowed_eq, newPoints_after_renumber renumbered ignores,
      Array.isEmpty, Array.size_map, Array.isEmpty]

/-- A run counts the same. -/
theorem counts_renumber {cadence : Cadence} {stop : Option Nat} :
    (Pass.ended other options cadence stop).counts =
      (Pass.ended mesh options cadence stop).counts := by
  have stats : ∀ done, (other.cellList.take done).map (fun cell =>
        (Skin.visit other options cell).stats) =
      (mesh.cellList.take done).map fun cell => (Skin.visit mesh options cell).stats := by
    intro done
    rw [renumbered.take_cellList, List.map_map]
    exact List.map_congr_left fun cell taken =>
      Skin.stats_renumber (Skin.foundIn_renumber renumbered ignores) (List.mem_of_mem_take taken)
  rw [Pass.counts_ended, Pass.counts_ended, renumbered.numCells_eq, stats,
    (follows_after renumbered ignores _).numNewPoints_eq]

end Assembly

/-- Over a mesh with its points renumbered a run gives the same surface, its points renumbered,
whatever the answers to its polls are. -/
theorem Extraction.run_pointsRenumbered (renumbered : mesh.Renumbered other (Equiv.refl Nat) ρ)
    (nonempty : 0 < mesh.numCells) (built : mesh.Built) (options : Options)
    (unclipped : ∀ range ∈ options.pointIds, range.isValid = false) (cadence : Cadence)
    (poll : Nat → Bool) :
    ∃ run run', Extraction.run mesh options.normalized cadence poll = some run ∧
      Extraction.run other options.normalized cadence poll = some run' ∧
      run.surface.PointsRenumbered run'.surface ρ := by
  have ignores := Options.ignores_points ρ unclipped
  have nonempty' : 0 < other.numCells := renumbered.numCells_eq ▸ nonempty
  have stops : cadence.stop? other.numCells poll = cadence.stop? mesh.numCells poll := by
    rw [renumbered.numCells_eq]
  obtain ⟨_, surface, _, some_surface, runs⟩ :=
    run_eq_some nonempty options.normalized (rfl : cadence.stop? mesh.numCells poll = _)
  obtain ⟨_, made, _, some_made, runs'⟩ := run_eq_some nonempty' options.normalized stops
  rw [Assembly.counts_renumber renumbered ignores, renumbered.numCells_eq] at some_made
  exact ⟨_, _, runs, runs', Assembly.pointsRenumbered renumbered ignores
    (Mesh.built_iff.1 built).1.1 some_surface some_made⟩

/-- Two curved quads with two points exchanged, under a range of points that is dropped, in a run
that is stopped before the second quad. -/
theorem twoSheets_pointsRenumbered :
    Mesh.twoSheets.Renumbered .twoSheetsRenamed (Equiv.refl Nat) (Equiv.swap 0 1) ∧
      0 < Mesh.twoSheets.numCells ∧ Mesh.twoSheets.Built ∧
      (∀ range ∈ some (IdRange.mk 2 1), range.isValid = false) ∧
      ∃ run run',
        Extraction.run .twoSheets { Options.standard with pointIds := some ⟨2, 1⟩ }.normalized
          .standard (fun cell => cell == 1) = some run ∧
        Extraction.run .twoSheetsRenamed
          { Options.standard with pointIds := some ⟨2, 1⟩ }.normalized .standard
          (fun cell => cell == 1) = some run' ∧
        run.surface.PointsRenumbered run'.surface (Equiv.swap 0 1) := by
  have unclipped : ∀ range ∈ some (IdRange.mk 2 1), range.isValid = false := by decide
  refine ⟨Mesh.twoSheets_renamed, by decide, Mesh.twoSheets_built, unclipped, ?_⟩
  exact Extraction.run_pointsRenumbered Mesh.twoSheets_renamed (by decide) Mesh.twoSheets_built
    { Options.standard with pointIds := some ⟨2, 1⟩ } unclipped .standard fun cell => cell == 1

end MeshSkin
