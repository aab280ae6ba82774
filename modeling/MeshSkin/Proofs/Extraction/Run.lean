import MeshSkin.Extraction
import MeshSkin.Proofs.Extraction.Pass
import MeshSkin.Proofs.Skin.Primitives
import MeshSkin.Proofs.Surface.Parts

/-!
# What a run gives

A run never fails. Over a mesh with cells its surface is made from what the cells that it
visited contribute (`Extraction.run_finished`), so a run that is not asked to stop gives the
skin as it is defined: every bucket holds, cell by cell, what the cells contribute to it
(`Extraction.run_eq_skin`).
-/

namespace MeshSkin

variable {mesh : Mesh} {options : Options}

namespace Assembly

/-- What the first cells contribute to a bucket is all that the bucket holds. -/
theorem bucket_after (done : Nat) (bucket : Bucket) :
    (after mesh options done).bucket bucket =
      (PrimitiveList.empty (mesh.numCells / capacityDivisor + 1)).pushEach
        (Skin.inBucketBefore mesh options done bucket) := by
  unfold after
  rw [bucket_append, List.filter_flatMap, Skin.inBucketBefore]
  cases bucket <;> rfl

theorem cells_after (done : Nat) (bucket : Bucket) :
    ((after mesh options done).bucket bucket).cells.toLists =
      (Skin.inBucketBefore mesh options done bucket).map Primitive.ids := by
  rw [bucket_after, PrimitiveList.cells_pushEach]
  rfl

theorem sources_after (done : Nat) (bucket : Bucket) :
    ((after mesh options done).bucket bucket).sources.toList =
      (Skin.inBucketBefore mesh options done bucket).map Primitive.source := by
  rw [bucket_after, PrimitiveList.sources_pushEach]
  rfl

theorem paired_after (done : Nat) : (after mesh options done).Paired := by
  intro bucket
  rw [← Connectivity.length_toLists, cells_after, List.length_map, ← Array.length_toList,
    sources_after, List.length_map]

theorem origins_after (done : Nat) :
    (after mesh options done).origins =
      Bucket.all.flatMap fun bucket =>
        (Skin.inBucketBefore mesh options done bucket).map Primitive.source := by
  apply List.flatMap_congr
  intro bucket _
  exact sources_after done bucket

/-- Origins are cells that emit something. -/
theorem exists_of_mem_origins_after {done origin : Nat}
    (h : origin ∈ (after mesh options done).origins) :
    ∃ cell ∈ mesh.cellList, cell.id = origin ∧
      ∃ primitive, primitive ∈ Skin.contribution mesh options cell := by
  rw [origins_after] at h
  obtain ⟨bucket, _, member⟩ := List.mem_flatMap.1 h
  obtain ⟨primitive, held, rfl⟩ := List.mem_map.1 member
  obtain ⟨cell, taken, emits, _⟩ := Skin.mem_inBucketBefore.1 held
  exact ⟨cell, List.mem_of_mem_take taken, (Skin.source_of_mem_contribution emits).symm,
    primitive, emits⟩

theorem mem_newPoints_after {done : Nat} {point : NewPoint} :
    point ∈ (after mesh options done).newPoints.toList ↔
      ∃ cell ∈ mesh.cellList.take done, point ∈ Skin.newPoints mesh options cell := by
  simp [after, newPoints_append, empty]

theorem sound_after (done : Nat) : (after mesh options done).Sound mesh where
  origins := by
    intro origin member
    obtain ⟨cell, listed, rfl, _⟩ := exists_of_mem_origins_after member
    exact (Mesh.mem_cellList.1 listed).1
  stencils := by
    intro point member entry weighted
    obtain ⟨cell, taken, emits⟩ := mem_newPoints_after.1 member
    obtain ⟨piece, emitted, made⟩ := List.mem_flatMap.1 emits
    have fits := Skin.fits_of_mem_emitted (List.mem_of_mem_take taken) emitted
    cases piece with
    | primitive bucket ids => cases made
    | quad ids =>
      rw [List.mem_singleton.1 made] at weighted
      exact fits.2 entry.1 (List.of_mem_zip weighted).1

/-- The entries of a bucket are what the first cells contribute to it. -/
theorem Finished.entries?_after {done : Nat} {surface : Surface}
    (finished : (after mesh options done).Finished mesh surface) (bucket : Bucket) :
    surface.entries? bucket =
      some ((Skin.inBucketBefore mesh options done bucket).map (Primitive.entry mesh)) :=
  finished.entries?_eq (paired_after done) (cells_after done bucket) (sources_after done bucket)

end Assembly

namespace Extraction

/-- A run over a mesh with cells: its surface is finished from what the pass holds at its stop. -/
theorem run_eq_some (nonempty : 0 < mesh.numCells) (options : Options) {cadence : Cadence}
    {poll : Nat → Bool} {stop : Option Nat} (stops : cadence.stop? mesh.numCells poll = stop) :
    ∃ survey surface, Survey.ofMesh mesh options = some survey ∧
      (Assembly.after mesh options (stop.getD mesh.numCells)).finish mesh
        (Pass.ended mesh options cadence stop).counts stop.isSome = some surface ∧
      Extraction.run mesh options cadence poll =
        some ⟨surface, (Pass.ended mesh options cadence stop).reports.toList,
          events mesh survey (Pass.ended mesh options cadence stop) surface⟩ := by
  obtain ⟨survey, surveyed, exact⟩ := Survey.ofMesh_exact mesh options
  have passed : Pass.visitAll mesh options survey cadence poll mesh.cellList (.start mesh) =
      some (Pass.ended mesh options cadence stop) :=
    stops ▸ Pass.visitAll_eq_some exact
  have stopped : (Pass.ended mesh options cadence stop).stoppedAt.isSome = stop.isSome := by
    cases stop <;> rfl
  obtain ⟨surface, finished, _⟩ :=
    Assembly.finish_eq_some (Assembly.sound_after (stop.getD mesh.numCells))
      (Pass.ended mesh options cadence stop).counts stop.isSome
  have cells : ¬ mesh.isEmpty = true := by
    rw [Mesh.isEmpty_iff]
    omega
  refine ⟨survey, surface, surveyed, finished, ?_⟩
  unfold run
  rw [if_neg cells]
  simp only [surveyed, mesh.allCells?_eq_some, passed, Pass.assembly_ended, stopped, finished,
    Option.bind_eq_bind, Option.bind_some]
  rfl

/-- A run over a mesh with cells gives the surface of the cells before its stop. -/
theorem run_finished (nonempty : 0 < mesh.numCells) (options : Options) (cadence : Cadence)
    (poll : Nat → Bool) :
    ∃ run, Extraction.run mesh options cadence poll = some run ∧
      (Assembly.after mesh options
        ((cadence.stop? mesh.numCells poll).getD mesh.numCells)).Finished mesh run.surface ∧
      run.surface.stats =
        (Pass.ended mesh options cadence (cadence.stop? mesh.numCells poll)).counts ∧
      run.surface.aborted = (cadence.stop? mesh.numCells poll).isSome := by
  obtain ⟨_, _, _, finished, runs⟩ :=
    run_eq_some nonempty options (rfl : cadence.stop? mesh.numCells poll = _)
  exact ⟨_, runs, Assembly.finished_of_finish (Assembly.sound_after _) finished⟩

/-- A run depends on its polls only by the tick at which it stops. -/
theorem run_congr (mesh : Mesh) (options : Options) {cadence : Cadence} {poll other : Nat → Bool}
    (same : cadence.stop? mesh.numCells poll = cadence.stop? mesh.numCells other) :
    Extraction.run mesh options cadence poll = Extraction.run mesh options cadence other := by
  by_cases nonempty : 0 < mesh.numCells
  · obtain ⟨survey, surface, surveyed, finished, runs⟩ := run_eq_some nonempty options same
    obtain ⟨again, made, found, also, reruns⟩ :=
      run_eq_some nonempty options (rfl : cadence.stop? mesh.numCells other = _)
    obtain rfl : survey = again := Option.some.inj (surveyed.symm.trans found)
    obtain rfl : surface = made := Option.some.inj (finished.symm.trans also)
    rw [runs, reruns]
  · have none : mesh.isEmpty = true := Mesh.isEmpty_iff.2 (by omega)
    rw [run, run, if_pos none, if_pos none]

/-- Whatever the mesh, the options, the cadence and the answers to its polls, a run has a
result, and none of its intervals is zero. -/
theorem run_total (mesh : Mesh) (options : Options) (cadence : Cadence) (poll : Nat → Bool) :
    (∃ run, Extraction.run mesh options cadence poll = some run) ∧
      0 < cadence.divisions ∧ 0 < cadence.interval mesh.numCells := by
  refine ⟨?_, cadence.divisions_pos, cadence.interval_pos mesh.numCells⟩
  by_cases nonempty : 0 < mesh.numCells
  · obtain ⟨run, runs, _⟩ := run_finished nonempty options cadence poll
    exact ⟨run, runs⟩
  · have none : mesh.isEmpty = true := Mesh.isEmpty_iff.2 (by omega)
    exact ⟨emptyRun mesh, by rw [run, if_pos none]⟩

/-- A run that is not asked to stop gives the skin by definition, bucket by bucket, with the
cells of origin in the same order. -/
theorem run_eq_skin (mesh : Mesh) (options : Options) (cadence : Cadence) (poll : Nat → Bool)
    (nonempty : 0 < mesh.numCells)
    (quiet : ∀ cell < mesh.numCells,
      cadence.ticksAt mesh.numCells cell = true → poll cell = false) :
    ∃ run, Extraction.run mesh options.normalized cadence poll = some run ∧
      (∀ bucket, (run.surface.bucket bucket).toLists =
        (Skin.inBucket mesh options.normalized bucket).map Primitive.ids) ∧
      run.surface.origins.toList = Bucket.all.flatMap fun bucket =>
        (Skin.inBucket mesh options.normalized bucket).map Primitive.source := by
  obtain ⟨run, runs, finished, _, _⟩ := run_finished nonempty options.normalized cadence poll
  rw [Cadence.stop?_eq_none_iff.2 quiet, Option.getD_none] at finished
  refine ⟨run, runs, fun bucket => ?_, ?_⟩
  · rw [finished.bucket_eq, Assembly.cells_after, Skin.inBucketBefore_numCells]
  · rw [finished.origins_eq, Assembly.origins_after]
    simp only [Skin.inBucketBefore_numCells]

end Extraction

/-- Two tetrahedra on either side of a triangle. -/
def Mesh.twoTetras : Mesh where
  points := #[⟨0.0, 0.0, 0.0⟩, ⟨1.0, 0.0, 0.0⟩, ⟨0.0, 1.0, 0.0⟩, ⟨0.0, 0.0, 1.0⟩, ⟨0.0, 0.0, -1.0⟩]
  kinds := #[.tetra, .tetra]
  cells := .ofLists [[0, 1, 2, 3], [0, 2, 1, 4]]
  pointData := .empty
  cellData := .empty
  valid := check_eq_ok_iff.1 (by decide)

/-- The skin of the two tetrahedra lacks the triangle between them. -/
theorem twoTetras_skin :
    0 < Mesh.twoTetras.numCells ∧
      ∃ run, Extraction.run Mesh.twoTetras Options.standard.normalized .standard
          (fun _ => false) = some run ∧
        run.surface.polys.toLists =
          [[0, 1, 3], [1, 2, 3], [2, 0, 3], [0, 2, 4], [2, 1, 4], [1, 0, 4]] ∧
        run.surface.origins.toList = [0, 0, 0, 1, 1, 1] := by
  refine ⟨by decide, ?_⟩
  obtain ⟨run, runs, buckets, origins⟩ :=
    Extraction.run_eq_skin Mesh.twoTetras Options.standard .standard (fun _ => false) (by decide)
      fun _ _ _ => rfl
  exact ⟨run, runs, (buckets .polys).trans (by decide), origins.trans (by decide)⟩

end MeshSkin
