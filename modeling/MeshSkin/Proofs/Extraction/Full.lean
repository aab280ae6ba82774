import MeshSkin.Proofs.Extraction.Run

/-!
# Full runs

A run none of whose polls answers yes gives a surface that holds the whole skin
(`Extraction.run_holdsSkin`), also over a mesh without cells. What such a surface has from a
cell are the primitives of the pieces that the cell emits (`Surface.HoldsSkin.draws`).
-/

namespace MeshSkin

variable {mesh : Mesh} {options : Options} {surface : Surface}

/-- No poll of a pass answers yes. -/
def Cadence.Quiet (cadence : Cadence) (numCells : Nat) (poll : Nat → Bool) : Prop :=
  ∀ cell < numCells, cadence.ticksAt numCells cell = true → poll cell = false

/-- A surface that holds the whole skin, with the attributes of the cells of origin. -/
structure Surface.HoldsSkin (surface : Surface) (mesh : Mesh) (options : Options) : Prop where
  bucket_eq : ∀ bucket, (surface.bucket bucket).toLists =
    (Skin.inBucket mesh options bucket).map Primitive.ids
  origins_eq : surface.origins.toList = Bucket.all.flatMap fun bucket =>
    (Skin.inBucket mesh options bucket).map Primitive.source
  entries?_eq : ∀ bucket, surface.entries? bucket =
    some ((Skin.inBucket mesh options bucket).map (Primitive.entry mesh))

theorem Skin.inBucket_of_isEmpty (none : mesh.isEmpty = true) (bucket : Bucket) :
    inBucket mesh options bucket = [] := by
  unfold inBucket Mesh.cellList
  rw [Mesh.isEmpty_iff.1 none]
  rfl

/-- A mesh without cells has an empty skin. -/
theorem Surface.holdsSkin_empty (none : mesh.isEmpty = true) :
    Surface.empty.HoldsSkin mesh options := by
  constructor
  · intro bucket
    rw [Skin.inBucket_of_isEmpty none]
    cases bucket <;> rfl
  · simp only [Skin.inBucket_of_isEmpty none]
    rfl
  · intro bucket
    rw [Skin.inBucket_of_isEmpty none]
    cases bucket <;> rfl

theorem Assembly.Finished.holdsSkin
    (finished : (Assembly.after mesh options mesh.numCells).Finished mesh surface) :
    surface.HoldsSkin mesh options where
  bucket_eq bucket := by
    rw [finished.bucket_eq, cells_after, Skin.inBucketBefore_numCells]
  origins_eq := by
    rw [finished.origins_eq, origins_after]
    simp only [Skin.inBucketBefore_numCells]
  entries?_eq bucket := by
    rw [finished.entries?_after, Skin.inBucketBefore_numCells]

namespace Skin

variable (mesh : Mesh) (options : Options)

/-- What some cells count together when they are visited. -/
def counted (cells : List Cell) : Stats :=
  Stats.sum (cells.map fun cell => (visit mesh options cell).stats)

/-- What all cells of a mesh count, with their centres. -/
def totals : Stats :=
  { counted mesh options mesh.cellList with pointsSynthesized := numCentres mesh options }

end Skin

/-- What a full run gives; without a cell the surface has no points either. -/
structure Surface.Full (surface : Surface) (mesh : Mesh) (options : Options) : Prop where
  holds : surface.HoldsSkin mesh options
  stats_eq : surface.stats = Skin.totals mesh options
  finished : 0 < mesh.numCells →
    (Assembly.after mesh options mesh.numCells).Finished mesh surface
  no_points : mesh.numCells = 0 → surface.numPoints = 0

/-- A pass over all cells counts them all. -/
theorem Pass.counts_ended_none (cadence : Cadence) :
    (ended mesh options cadence none).counts = Skin.totals mesh options := by
  have centres : mesh.numPoints + (Assembly.after mesh options mesh.numCells).numNewPoints =
      Skin.firstCentre mesh options mesh.numCells := Assembly.numPoints_add_numNewPoints_after _
  rw [Skin.firstCentre, mesh.take_numCells_cellList] at centres
  rw [counts_ended, Option.getD_none, mesh.take_numCells_cellList, Skin.totals,
    Skin.counted, Nat.add_left_cancel centres, Skin.numCentres]

/-- A run that is not asked to stop visits all cells. -/
theorem Extraction.run_full (mesh : Mesh) (options : Options) {cadence : Cadence}
    {poll : Nat → Bool} (quiet : cadence.Quiet mesh.numCells poll) :
    ∃ run, Extraction.run mesh options cadence poll = some run ∧ run.surface.Full mesh options := by
  by_cases nonempty : 0 < mesh.numCells
  · obtain ⟨run, runs, finished, stats, _⟩ := run_finished nonempty options cadence poll
    rw [Cadence.stop?_eq_none_iff.2 quiet] at finished stats
    rw [Pass.counts_ended_none] at stats
    exact ⟨run, runs, finished.holdsSkin, stats, fun _ => finished, fun none => by omega⟩
  · have none : mesh.isEmpty = true := Mesh.isEmpty_iff.2 (by omega)
    have no_cells : mesh.cellList = [] := by
      rw [← List.length_eq_zero_iff, Mesh.length_cellList]
      omega
    refine ⟨emptyRun mesh, by rw [run, if_pos none], Surface.holdsSkin_empty none, ?_,
      fun some => absurd some nonempty, fun _ => rfl⟩
    rw [Skin.totals, Skin.counted, Skin.numCentres, no_cells]
    rfl

/-- A run that is not asked to stop gives the whole skin. -/
theorem Extraction.run_holdsSkin (mesh : Mesh) (options : Options) {cadence : Cadence}
    {poll : Nat → Bool} (quiet : cadence.Quiet mesh.numCells poll) :
    ∃ run, Extraction.run mesh options cadence poll = some run ∧
      run.surface.HoldsSkin mesh options := by
  obtain ⟨run, runs, full⟩ := run_full mesh options quiet
  exact ⟨run, runs, full.holds⟩

namespace Surface.HoldsSkin

/-- What the surface has from a cell are the pieces that the cell emits. -/
theorem draws (holds : surface.HoldsSkin mesh options) {cell : Cell}
    (listed : cell ∈ mesh.cellList) :
    surface.Draws mesh cell.id (Skin.emitted mesh options cell) := by
  refine ⟨Skin.firstCentre mesh options cell.id, Skin.numPoints_le_firstCentre _, fun bucket => ?_⟩
  unfold primitivesOf?
  rw [holds.entries?_eq, Option.map_some, List.filter_map, List.map_map, ← Skin.contribution,
    ← Skin.filter_source_inBucket listed]
  rfl

theorem draws_pieces (holds : surface.HoldsSkin mesh options) {cell : Cell}
    (listed : cell ∈ mesh.cellList) (extracted : Skin.isExtracted mesh options cell = true) :
    surface.Draws mesh cell.id (Skin.pieces mesh options cell) := by
  have drawn := holds.draws listed
  rwa [Skin.emitted, if_pos extracted] at drawn

end Surface.HoldsSkin
end MeshSkin
