import MeshSkin.Proofs.Extraction.Run
import MeshSkin.Proofs.Skin.Cyclic

/-!
# Lexicographic and cyclic cells are interchangeable

A run over a mesh with any of its pixels and voxels replaced by the quads and hexahedra on the same
points is the same run: it gives the same surface, entry by entry and with the same counts, and the
same reports and events, wherever it is stopped (`Extraction.run_cyclic`). Two face tables that were
written down independently and the order in which corners are listed come to the same.
-/

namespace MeshSkin

variable (mesh : Mesh) (options : Options) (chosen : Nat → Bool)

theorem Mesh.take_cellList_cyclic (done : Nat) :
    (mesh.cyclic chosen).cellList.take done =
      (mesh.cellList.take done).map (Cell.cyclicAmong chosen) := by
  rw [cellList_cyclic, List.map_take]

/-- What the first cells give together, if every cell gives the same. -/
theorem Mesh.flatMap_take_cyclic {α : Type} {f g : Cell → List α}
    (same : ∀ cell ∈ mesh.cellList, f (cell.cyclicAmong chosen) = g cell) (done : Nat) :
    ((mesh.cyclic chosen).cellList.take done).flatMap f = (mesh.cellList.take done).flatMap g := by
  rw [take_cellList_cyclic, List.flatMap_map]
  exact List.flatMap_congr fun cell taken => same cell (List.mem_of_mem_take taken)

/-- The cells get the same tags. -/
theorem Visibility.classify_cyclic :
    classify (mesh.cyclic chosen) options = classify mesh options := by
  have tag : ∀ id ∈ List.range mesh.numCells,
      keepsCell? mesh options id = some (Skin.isVisible mesh options (mesh.cellAt id)) :=
    fun id member => keepsCell?_eq_some (Mesh.cellAt_mem (List.mem_range.1 member))
  have tag' : ∀ id ∈ List.range mesh.numCells, keepsCell? (mesh.cyclic chosen) options id =
      some (Skin.isVisible mesh options (mesh.cellAt id)) := by
    intro id member
    have cell := Mesh.cellAt_mem (List.mem_range.1 member)
    have cell' : (mesh.cellAt id).cyclicAmong chosen ∈ (mesh.cyclic chosen).cellList := by
      rw [Mesh.cellList_cyclic]
      exact List.mem_map_of_mem cell
    have found : keepsCell? (mesh.cyclic chosen) options ((mesh.cellAt id).cyclicAmong chosen).id =
        some (Skin.isVisible (mesh.cyclic chosen) options ((mesh.cellAt id).cyclicAmong chosen)) :=
      keepsCell?_eq_some cell'
    rwa [Cell.id_cyclicAmong, Skin.isVisible_cyclic chosen cell] at found
  unfold classify
  rw [Mesh.numCells_cyclic, Checked.mapM_eq_map tag, Checked.mapM_eq_map tag']

namespace Assembly

/-- The first cells emit the same. -/
theorem after_cyclic (done : Nat) :
    after (mesh.cyclic chosen) options done = after mesh options done := by
  have centres : ∀ id, Skin.firstCentre (mesh.cyclic chosen) options id =
      Skin.firstCentre mesh options id := by
    intro id
    unfold Skin.firstCentre
    rw [mesh.flatMap_take_cyclic chosen fun cell listed => Skin.emitted_cyclic chosen listed]
    rfl
  have primitives : ∀ cell ∈ mesh.cellList,
      Skin.contribution (mesh.cyclic chosen) options (cell.cyclicAmong chosen) =
        Skin.contribution mesh options cell := by
    intro cell listed
    unfold Skin.contribution
    rw [Cell.id_cyclicAmong, centres, Skin.emitted_cyclic chosen listed]
  have points : ∀ cell ∈ mesh.cellList,
      Skin.newPoints (mesh.cyclic chosen) options (cell.cyclicAmong chosen) =
        Skin.newPoints mesh options cell := by
    intro cell listed
    unfold Skin.newPoints
    rw [Skin.emitted_cyclic chosen listed]
    rfl
  unfold after
  rw [mesh.flatMap_take_cyclic chosen primitives, mesh.flatMap_take_cyclic chosen points,
    Mesh.numCells_cyclic]
  rfl

end Assembly

/-- A pass comes to the same end. -/
theorem Pass.ended_cyclic (cadence : Cadence) (stop : Option Nat) :
    ended (mesh.cyclic chosen) options cadence stop = ended mesh options cadence stop := by
  have same : ∀ done, after (mesh.cyclic chosen) options cadence done =
      after mesh options cadence done := by
    intro done
    have stats : (((mesh.cyclic chosen).cellList.take done).map fun cell =>
        (Skin.visit (mesh.cyclic chosen) options cell).stats) =
          (mesh.cellList.take done).map fun cell => (Skin.visit mesh options cell).stats := by
      rw [Mesh.take_cellList_cyclic, List.map_map]
      exact List.map_congr_left fun cell taken =>
        Skin.stats_cyclic chosen (List.mem_of_mem_take taken)
    unfold after
    rw [Assembly.after_cyclic, stats, Mesh.numCells_cyclic]
  cases stop with
  | none => rw [ended, ended, Mesh.numCells_cyclic, same]
  | some cell => rw [ended, ended, Mesh.numCells_cyclic, same]

/-- Whichever pixels and voxels are made quads and hexahedra, the run is the same, whatever the
options and the answers to its polls. -/
theorem Extraction.run_cyclic (cadence : Cadence) (poll : Nat → Bool) :
    ∃ run, Extraction.run mesh options cadence poll = some run ∧
      Extraction.run (mesh.cyclic chosen) options cadence poll = some run := by
  have numCells := mesh.numCells_cyclic chosen
  by_cases nonempty : 0 < mesh.numCells
  · have nonempty' : 0 < (mesh.cyclic chosen).numCells := by rwa [numCells]
    have stops : cadence.stop? (mesh.cyclic chosen).numCells poll =
        cadence.stop? mesh.numCells poll := by rw [numCells]
    obtain ⟨survey, surface, surveyed, finished, runs⟩ :=
      run_eq_some nonempty options (rfl : cadence.stop? mesh.numCells poll = _)
    obtain ⟨survey', surface', surveyed', finished', runs'⟩ :=
      run_eq_some nonempty' options stops
    rw [numCells, Assembly.after_cyclic, Pass.ended_cyclic] at finished'
    obtain rfl : surface' = surface := Option.some.inj (finished'.symm.trans finished)
    -- Of the incidences, which are built from other lists of points, the events tell the size only.
    obtain ⟨visibility, classified, _⟩ := Visibility.classify_exact mesh options
    obtain ⟨incidence, built, exact⟩ := Incidence.ofMesh_exact mesh
    obtain ⟨incidence', built', exact'⟩ := Incidence.ofMesh_exact (mesh.cyclic chosen)
    have numPoints : incidence'.numPoints = incidence.numPoints :=
      exact'.numPoints_eq.trans exact.numPoints_eq.symm
    unfold Survey.ofMesh at surveyed surveyed'
    rw [classified, built] at surveyed
    rw [Visibility.classify_cyclic, classified, built'] at surveyed'
    cases surveyed
    cases surveyed'
    refine ⟨_, runs, ?_⟩
    rw [runs', Pass.ended_cyclic]
    unfold events
    rw [numCells, numPoints]
    rfl
  · have none : mesh.numCells = 0 := by omega
    have none' : (mesh.cyclic chosen).numCells = 0 := by omega
    refine ⟨emptyRun mesh, by rw [run, if_pos (Mesh.isEmpty_iff.2 none)], ?_⟩
    rw [run, if_pos (Mesh.isEmpty_iff.2 none'), emptyRun, emptyRun, numCells]
    rfl

end MeshSkin
