import MeshSkin.Proofs.Extraction.Run

/-!
# Stopped runs

A run that is asked to stop at a tick gives what the full run has from the cells before that
tick, in the same order: every bucket is a prefix of the full one, with the same cells of
origin and the same attributes, and so are the points (`Extraction.run_stopped`). Whether a
face is kept does not depend on the stop: it is asked of the whole mesh.
-/

namespace MeshSkin

variable {mesh : Mesh} {options : Options} {cadence : Cadence}

/-- A surface that was stopped before a cell, beside the full surface over the same mesh. -/
structure Surface.StoppedBefore (surface full : Surface) (mesh : Mesh) (cell : Nat) : Prop where
  aborted_eq : surface.aborted = true
  cellsVisited_eq : surface.stats.cellsVisited = cell
  entries_prefix : ∀ bucket, ∃ held all, surface.entries? bucket = some held ∧
    full.entries? bucket = some all ∧ held <+: all ∧
      held = all.filter fun entry => decide (entry.origin < cell)
  nodes_prefix : ∃ held all, surface.nodes? = some held ∧ full.nodes? = some all ∧ held <+: all
  /-- Behind the points of the mesh there are the new ones only. -/
  numPoints_eq : surface.numPoints = mesh.numPoints + surface.stats.pointsSynthesized
  numPoints_full_eq : full.numPoints = mesh.numPoints + full.stats.pointsSynthesized

namespace Assembly

/-- Entries of the first cells among those of all cells. -/
theorem Finished.entries?_isPrefix {done : Nat} {surface full : Surface}
    (finished : (after mesh options done).Finished mesh surface)
    (finished_full : (after mesh options mesh.numCells).Finished mesh full) (bucket : Bucket) :
    ∃ held all, surface.entries? bucket = some held ∧ full.entries? bucket = some all ∧
      held <+: all ∧ held = all.filter fun entry => decide (entry.origin < done) := by
  refine ⟨_, _, finished.entries?_after bucket, finished_full.entries?_after bucket, ?_, ?_⟩
  · rw [Skin.inBucketBefore_numCells]
    exact (Skin.inBucketBefore_isPrefix done bucket).map _
  · rw [Skin.inBucketBefore_numCells, Skin.inBucketBefore_eq_filter, List.filter_map]
    rfl

/-- The surface of the cells before a stop beside that of all cells. -/
theorem stoppedBefore {tick : Nat} {part whole : Surface} (bound : tick < mesh.numCells)
    (some_part : (after mesh options tick).finish mesh
      (Pass.ended mesh options cadence (some tick)).counts true = some part)
    (some_whole : (after mesh options mesh.numCells).finish mesh
      (Pass.ended mesh options cadence none).counts false = some whole) :
    part.StoppedBefore whole mesh tick := by
  obtain ⟨finished, stats, aborted⟩ := finished_of_finish (sound_after tick) some_part
  obtain ⟨finished_whole, stats_whole, _⟩ := finished_of_finish (sound_after _) some_whole
  have visited : (Pass.ended mesh options cadence (some tick)).counts.cellsVisited = tick :=
    Pass.cellsVisited_ended (Nat.le_of_lt bound)
  refine ⟨aborted, by rw [stats, visited], finished.entries?_isPrefix finished_whole, ?_, ?_, ?_⟩
  · exact nodes?_isPrefix (sound_after tick) (sound_after _) (newPoints_after_numCells tick)
      some_part some_whole
  · rw [finished.numPoints_eq, stats, Pass.counts, Pass.assembly_ended, Option.getD_some]
  · rw [finished_whole.numPoints_eq, stats_whole, Pass.counts, Pass.assembly_ended,
      Option.getD_none]

end Assembly

/-- A run whose polls all answer no is the full run, and one with a first poll that answers yes
gives what the full run has from the cells before. -/
theorem Extraction.run_stopped (nonempty : 0 < mesh.numCells) (options : Options)
    (cadence : Cadence) (poll : Nat → Bool) :
    ∃ full run, Extraction.run mesh options.normalized cadence (fun _ => false) = some full ∧
      Extraction.run mesh options.normalized cadence poll = some run ∧
      full.surface.aborted = false ∧
      ((∀ cell < mesh.numCells, cadence.ticksAt mesh.numCells cell = true → poll cell = false) →
        run = full) ∧
      ∀ tick < mesh.numCells, cadence.ticksAt mesh.numCells tick = true → poll tick = true →
        (∀ cell < tick, cadence.ticksAt mesh.numCells cell = true → poll cell = false) →
          cadence.interval mesh.numCells ∣ tick ∧
            run.surface.StoppedBefore full.surface mesh tick := by
  have never : cadence.stop? mesh.numCells (fun _ => false) = none :=
    Cadence.stop?_eq_none_iff.2 fun _ _ _ => rfl
  obtain ⟨_, whole, _, some_whole, runs_whole⟩ := run_eq_some nonempty options.normalized never
  have aborted := (Assembly.finished_of_finish (Assembly.sound_after _) some_whole).2.2
  obtain ⟨run, runs⟩ := (run_total mesh options.normalized cadence poll).1
  refine ⟨_, run, runs_whole, runs, aborted, fun quiet => ?_, ?_⟩
  · have same := run_congr mesh options.normalized
      ((Cadence.stop?_eq_none_iff.2 quiet).trans never.symm)
    rw [runs, runs_whole] at same
    exact Option.some.inj same
  · intro tick bound ticks asked early
    have multiple : tick % cadence.interval mesh.numCells = 0 := by
      simpa [Cadence.ticksAt] using ticks
    obtain ⟨_, part, _, some_part, runs_part⟩ := run_eq_some nonempty options.normalized
      (Cadence.stop?_eq_some_iff.2 ⟨bound, ticks, asked, early⟩)
    obtain rfl := Option.some.inj (runs.symm.trans runs_part)
    exact ⟨Nat.dvd_of_mod_eq_zero multiple, Assembly.stoppedBefore bound some_part some_whole⟩

/-- Two tetrahedra of which the second is not reached. -/
theorem twoTetras_stopped :
    0 < Mesh.twoTetras.numCells ∧
      ∃ full run,
        Extraction.run Mesh.twoTetras Options.standard.normalized .standard (fun _ => false) =
          some full ∧
        Extraction.run Mesh.twoTetras Options.standard.normalized .standard
          (fun cell => cell == 1) = some run ∧
        Cadence.standard.interval Mesh.twoTetras.numCells ∣ 1 ∧
        run.surface.StoppedBefore full.surface Mesh.twoTetras 1 := by
  have nonempty : 0 < Mesh.twoTetras.numCells := by decide
  obtain ⟨full, run, runs_full, runs, _, _, stopped⟩ :=
    Extraction.run_stopped nonempty Options.standard .standard fun cell => cell == 1
  exact ⟨nonempty, full, run, runs_full, runs, stopped 1 (by decide) (by decide) rfl (by decide)⟩

end MeshSkin
