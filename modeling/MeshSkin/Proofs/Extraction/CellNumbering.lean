import Mathlib.Data.List.Perm.Basic
import MeshSkin.Proofs.Extraction.Carried
import MeshSkin.Proofs.Extraction.Full
import MeshSkin.Proofs.Mesh.Building
import MeshSkin.Proofs.Surface.Renumbered

/-!
# Cell numbers are only names

Over a mesh with its cells renumbered, a run that is not stopped visits the cells in another order,
so its primitives come in another order and its centres have other ids. But every cell contributes
the same primitives: there is a permutation of the ids of the surface that fixes the points of the
mesh, takes each point to one with the same coordinates and attributes, and turns the entries of
every cell into those of the cell under its new id (`Extraction.run_cellsRenumbered`).
-/

namespace MeshSkin

variable {mesh other : Mesh} {σ ρ τ : Equiv.Perm Nat} {options : Options}

namespace Surface

/-- A surface over the same mesh with other ids for its cells, by `σ`; its own points have other
ids by `τ`. -/
structure CellsRenumbered (surface other : Surface) (mesh : Mesh) (σ τ : Equiv.Perm Nat) :
    Prop where
  numPoints_eq : other.numPoints = surface.numPoints
  points_fixed : ∀ id < mesh.numPoints, τ id = id
  outside_fixed : ∀ id, surface.numPoints ≤ id → τ id = id
  node_eq : ∀ id < surface.numPoints, ∃ node,
    surface.node? id = some node ∧ other.node? (τ id) = some node
  entries_eq : ∀ cell < mesh.numCells, ∀ bucket, ∃ entries,
    surface.entriesOf? bucket cell = some entries ∧
      other.entriesOf? bucket (σ cell) = some (entries.map (Entry.renumber σ τ))
  stats_eq : other.stats = surface.stats

end Surface

namespace Skin

variable (renumbered : mesh.Renumbered other σ ρ) (ignores : options.Ignores σ ρ)

include renumbered ignores

/-- There are as many centres. -/
theorem firstCentre_numCells_renumber :
    firstCentre other options other.numCells = firstCentre mesh options mesh.numCells := by
  have counts := (renumbered.cellList_perm.map fun cell =>
    countCentres (emitted other options cell)).sum_eq
  rw [List.map_map] at counts
  unfold firstCentre
  rw [Mesh.take_numCells_cellList, Mesh.take_numCells_cellList, countCentres_flatMap,
    countCentres_flatMap, renumbered.numPoints_eq, counts]
  apply congrArg (mesh.numPoints + ·)
  apply congrArg List.sum
  apply List.map_congr_left
  intro cell listed
  simp only [Function.comp_apply, emitted_renumber (foundIn_renumber renumbered ignores) listed,
    countCentres_renumber]

/-- Renumbered cells have their centres in the same blocks. -/
theorem reordered_centreBlocks :
    (centreBlocks mesh options).Reordered (centreBlocks other options) σ where
  count_eq := renumbered.numCells_eq
  lt_iff id := by
    have inside : σ id < other.numCells ↔ id < mesh.numCells := renumbered.cell_lt
    rwa [renumbered.numCells_eq] at inside
  start_eq := renumbered.numPoints_eq
  stop_eq := firstCentre_numCells_renumber renumbered ignores
  size_eq id h := by
    rw [size_centreBlocks (renumbered.cell_lt.2 h), size_centreBlocks h, renumbered.cellAt_eq h,
      emitted_renumber (foundIn_renumber renumbered ignores) (Mesh.cellAt_mem h),
      countCentres_renumber]

/-- A numbering that moves points as the mesh says and centres along with their cells. -/
theorem exists_tracks :
    ∃ τ, Tracks mesh other options σ ρ τ ∧
      ∀ id, firstCentre mesh options mesh.numCells ≤ id → τ id = id := by
  have reordered := reordered_centreBlocks renumbered ignores
  refine ⟨ρ.trans reordered.perm, ⟨fun id bound => ?_, fun cell listed k bound => ?_⟩,
    fun id behind => ?_⟩
  · rw [Equiv.trans_apply]
    apply reordered.perm_of_outside (Or.inl _)
    rw [← renumbered.point_lt, renumbered.numPoints_eq] at bound
    exact bound
  · obtain ⟨inside, same⟩ := Mesh.mem_cellList.1 listed
    have fixed : ρ (firstCentre mesh options cell.id + k) = firstCentre mesh options cell.id + k :=
      renumbered.points_fixed _
        (Nat.le_trans (numPoints_le_firstCentre cell.id) (Nat.le_add_right _ _))
    rw [same, ← size_centreBlocks inside] at bound
    rw [Equiv.trans_apply, fixed]
    exact reordered.perm_add inside bound
  · have fixed : ρ id = id :=
      renumbered.points_fixed _ (Nat.le_trans (numPoints_le_firstCentre mesh.numCells) behind)
    rw [Equiv.trans_apply, fixed]
    exact reordered.perm_of_outside (Or.inr behind)

end Skin

namespace Assembly

section Renumbered

variable (renumbered : mesh.Renumbered other σ ρ) (ignores : options.Ignores σ ρ)
  (tracks : Skin.Tracks mesh other options σ ρ τ)

include renumbered ignores tracks

/-- The new points of all cells, each with its own. -/
theorem follows_after_numCells :
    Follows mesh (after mesh options mesh.numCells) (after other options other.numCells) ρ τ where
  points := tracks.points
  numNewPoints_eq := by
    apply Nat.add_left_cancel (n := mesh.numPoints)
    rw [← renumbered.numPoints_eq, numPoints_add_numNewPoints_after, renumbered.numPoints_eq,
      numPoints_add_numNewPoints_after, Skin.firstCentre_numCells_renumber renumbered ignores]
  new j point found := by
    obtain ⟨listed, _⟩ := Array.getElem?_eq_some_iff.1 found
    have high : mesh.numPoints + j < Skin.firstCentre mesh options mesh.numCells := by
      rw [← numPoints_add_numNewPoints_after]
      exact Nat.add_lt_add_left listed mesh.numPoints
    obtain ⟨id, inside, k, bound, place⟩ :=
      (Skin.centreBlocks mesh options).exists_place (Nat.le_add_right mesh.numPoints j) high
    have cell := Mesh.cellAt_mem inside
    rw [Skin.size_centreBlocks inside] at bound
    have centre : τ (mesh.numPoints + j) = Skin.firstCentre other options (σ id) + k := by
      rw [place]
      exact tracks.centres _ cell k bound
    have start : other.numPoints ≤ Skin.firstCentre other options (σ id) :=
      Skin.numPoints_le_firstCentre (σ id)
    obtain ⟨i, first⟩ := Nat.exists_eq_add_of_le (Nat.le_trans start (Nat.le_add_right _ k))
    have emits := Skin.emitted_renumber (Skin.foundIn_renumber renumbered ignores) cell
    have bound' : k < Skin.countCentres
        (Skin.emitted other options ((mesh.cellAt id).renumber σ ρ)) := by
      rwa [emits, Skin.countCentres_renumber]
    refine ⟨i, ?_, by rw [centre, first, renumbered.numPoints_eq]⟩
    rw [getElem?_newPoints_after (renumbered.mem_cellList cell) bound' first.symm,
      Skin.newPoints_renumber renumbered.point_eq cell emits, List.getElem?_map,
      ← getElem?_newPoints_after cell bound place, found]
    rfl

end Renumbered

end Assembly

/-- The order of summands does not matter. -/
theorem Stats.sum_perm {all others : List Stats} (h : all.Perm others) : sum all = sum others := by
  unfold sum
  apply h.foldl_eq'
  intro first _ second _ start
  unfold add
  simp only [Nat.add_right_comm]

section Renumbered

variable (renumbered : mesh.Renumbered other σ ρ) (ignores : options.Ignores σ ρ)

include renumbered ignores in
/-- A full run counts the same. -/
theorem Pass.counts_ended_renumber {cadence cadence' : Cadence} :
    (ended other options cadence' none).counts = (ended mesh options cadence none).counts := by
  obtain ⟨τ, tracks, _⟩ := Skin.exists_tracks renumbered ignores
  have visited := (renumbered.cellList_perm.map fun cell => (Skin.visit other options cell).stats)
  have same : (mesh.cellList.map (Cell.renumber σ ρ)).map
      (fun cell => (Skin.visit other options cell).stats) =
        mesh.cellList.map fun cell => (Skin.visit mesh options cell).stats := by
    rw [List.map_map]
    exact List.map_congr_left fun cell listed =>
      Skin.stats_renumber (Skin.foundIn_renumber renumbered ignores) listed
  rw [counts_ended, counts_ended, Option.getD_none, Option.getD_none, Mesh.take_numCells_cellList,
    Mesh.take_numCells_cellList, Stats.sum_perm visited, same,
    (Assembly.follows_after_numCells renumbered ignores tracks).numNewPoints_eq]

/-- What a surface has from a cell is what the cell contributes. -/
theorem Surface.HoldsSkin.entriesOf?_eq {surface : Surface} (holds : surface.HoldsSkin mesh options)
    {cell : Cell} (listed : cell ∈ mesh.cellList) (bucket : Bucket) :
    surface.entriesOf? bucket cell.id =
      some (((Skin.contribution mesh options cell).filter fun primitive =>
        primitive.bucket == bucket).map (Primitive.entry mesh)) := by
  unfold entriesOf?
  rw [holds.entries?_eq, Option.map_some, List.filter_map, ← Skin.filter_source_inBucket listed]
  rfl

include renumbered ignores in
/-- Every cell contributes the same entries. -/
theorem Surface.HoldsSkin.entries_renumber (tracks : Skin.Tracks mesh other options σ ρ τ)
    {surface made : Surface} (holds : surface.HoldsSkin mesh options)
    (holds' : made.HoldsSkin other options) {id : Nat} (h : id < mesh.numCells) (bucket : Bucket) :
    ∃ entries, surface.entriesOf? bucket id = some entries ∧
      made.entriesOf? bucket (σ id) = some (entries.map (Entry.renumber σ τ)) := by
  have cell := Mesh.cellAt_mem h
  refine ⟨_, holds.entriesOf?_eq cell bucket, ?_⟩
  have moved := holds'.entriesOf?_eq (renumbered.mem_cellList cell) bucket
  rw [tracks.contribution_eq (Skin.foundIn_renumber renumbered ignores) cell, List.filter_map,
    List.map_map] at moved
  refine moved.trans (congrArg some ?_)
  rw [List.map_map]
  apply List.map_congr_left
  intro primitive member
  have source := Skin.source_of_mem_contribution (List.mem_filter.1 member).1
  exact Primitive.entry_renumber renumbered.cellData.within (source ▸ h)

end Renumbered

/-- The surfaces of all cells. -/
theorem Assembly.cellsRenumbered (renumbered : mesh.Renumbered other σ (Equiv.refl Nat))
    (ignores : options.Ignores σ (Equiv.refl Nat))
    (shaped : ∀ array ∈ mesh.pointData.arrays, array.WellShaped)
    {surface made : Surface} {stats : Stats}
    (some_surface : (after mesh options mesh.numCells).finish mesh stats false = some surface)
    (some_made : (after other options other.numCells).finish other stats false = some made) :
    ∃ τ, surface.CellsRenumbered made mesh σ τ := by
  obtain ⟨τ, tracks, behind⟩ := Skin.exists_tracks renumbered ignores
  have sound : (after mesh options mesh.numCells).Sound mesh := sound_after mesh.numCells
  have sound' : (after other options other.numCells).Sound other := sound_after other.numCells
  obtain ⟨finished, stats_eq, _⟩ := finished_of_finish sound some_surface
  obtain ⟨finished', stats_eq', _⟩ := finished_of_finish sound' some_made
  have follows := follows_after_numCells renumbered ignores tracks
  refine ⟨τ, follows.numPoints_eq renumbered sound sound' some_surface some_made, tracks.points,
    fun id outside => behind id ?_,
    fun id => follows.node?_eq_some renumbered sound sound' some_surface some_made shaped,
    fun cell bound bucket => finished.holdsSkin.entries_renumber renumbered ignores tracks
      finished'.holdsSkin bound bucket,
    stats_eq'.trans stats_eq.symm⟩
  rwa [← numPoints_add_numNewPoints_after, ← finished.numPoints_eq]

/-- The surface of a mesh without cells. -/
theorem Surface.cellsRenumbered_empty (none : mesh.isEmpty = true) :
    Surface.empty.CellsRenumbered .empty mesh σ (Equiv.refl Nat) := by
  have no_cells := Mesh.isEmpty_iff.1 none
  refine ⟨rfl, fun _ _ => rfl, fun _ _ => rfl, fun id bound => ?_, fun cell bound => ?_, rfl⟩
  · cases bound
  · omega

/-- Over a mesh with its cells renumbered a run that is not asked to stop gives, cell by cell, the
same primitives on the same points, and the same counts. -/
theorem Extraction.run_cellsRenumbered (renumbered : mesh.Renumbered other σ (Equiv.refl Nat))
    (built : mesh.Built) (options : Options)
    (unclipped : ∀ range ∈ options.cellIds, range.isValid = false) {cadence cadence' : Cadence}
    {poll poll' : Nat → Bool} (quiet : cadence.Quiet mesh.numCells poll)
    (quiet' : cadence'.Quiet other.numCells poll') :
    ∃ run run', Extraction.run mesh options.normalized cadence poll = some run ∧
      Extraction.run other options.normalized cadence' poll' = some run' ∧
      ∃ τ, run.surface.CellsRenumbered run'.surface mesh σ τ := by
  by_cases nonempty : 0 < mesh.numCells
  · have ignores := Options.ignores_cells σ unclipped
    have nonempty' : 0 < other.numCells := renumbered.numCells_eq ▸ nonempty
    obtain ⟨_, surface, _, some_surface, runs⟩ :=
      run_eq_some nonempty options.normalized (Cadence.stop?_eq_none_iff.2 quiet)
    obtain ⟨_, made, _, some_made, runs'⟩ :=
      run_eq_some nonempty' options.normalized (Cadence.stop?_eq_none_iff.2 quiet')
    rw [Pass.counts_ended_renumber renumbered ignores] at some_made
    exact ⟨_, _, runs, runs', Assembly.cellsRenumbered renumbered ignores
      (Mesh.built_iff.1 built).1.1 some_surface some_made⟩
  · have none : mesh.isEmpty = true := Mesh.isEmpty_iff.2 (by omega)
    have none' : other.isEmpty = true := by
      rw [Mesh.isEmpty_iff, renumbered.numCells_eq]
      omega
    exact ⟨emptyRun mesh, emptyRun other, by rw [run, if_pos none], by rw [run, if_pos none'],
      Equiv.refl Nat, Surface.cellsRenumbered_empty none⟩

/-- Two curved quads in either order. -/
theorem twoSheets_cellsRenumbered :
    Mesh.twoSheets.Renumbered .twoSheetsExchanged (Equiv.swap 0 1) (Equiv.refl Nat) ∧
      Mesh.twoSheets.Built ∧ (∀ range ∈ Options.standard.cellIds, range.isValid = false) ∧
      Cadence.standard.Quiet Mesh.twoSheets.numCells (fun _ => false) ∧
      Cadence.standard.Quiet Mesh.twoSheetsExchanged.numCells (fun _ => false) ∧
      ∃ run run',
        Extraction.run .twoSheets Options.standard.normalized .standard (fun _ => false) =
          some run ∧
        Extraction.run .twoSheetsExchanged Options.standard.normalized .standard (fun _ => false) =
          some run' ∧
        ∃ τ, run.surface.CellsRenumbered run'.surface .twoSheets (Equiv.swap 0 1) τ := by
  have unclipped : ∀ range ∈ Options.standard.cellIds, range.isValid = false := by decide
  have quiet : Cadence.standard.Quiet Mesh.twoSheets.numCells (fun _ => false) := fun _ _ _ => rfl
  have quiet' : Cadence.standard.Quiet Mesh.twoSheetsExchanged.numCells (fun _ => false) :=
    fun _ _ _ => rfl
  refine ⟨Mesh.twoSheets_exchanged, Mesh.twoSheets_built, unclipped, quiet, quiet', ?_⟩
  exact Extraction.run_cellsRenumbered Mesh.twoSheets_exchanged Mesh.twoSheets_built .standard
    unclipped quiet quiet'

end MeshSkin
