import MeshSkin.Proofs.Extraction.Run

/-!
# Well-formed surfaces

Whatever the options and wherever a run is stopped, its surface is a surface over the mesh:
it has the points of the mesh and the new ones, its ids are ids of these points, every
primitive comes from a cell that emits, and there is one tuple of every attribute for each
point and for each primitive.
-/

namespace MeshSkin

variable {mesh : Mesh} {options : Options} {cadence : Cadence} {poll : Nat → Bool}

/-- A surface over a mesh, extracted under the given options. -/
structure Surface.WellFormed (surface : Surface) (mesh : Mesh) (options : Options) : Prop where
  numPoints_eq : surface.numPoints = mesh.numPoints + surface.stats.pointsSynthesized
  points_prefix : mesh.points.toList <+: surface.points.toList
  ids_lt : ∀ bucket, ∀ ids ∈ (surface.bucket bucket).toLists, ∀ id ∈ ids, id < surface.numPoints
  numCells_eq : surface.numCells =
    surface.verts.size + surface.lines.size + surface.polys.size + surface.strips.size
  origins_lt : ∀ origin ∈ surface.origins, origin < mesh.numCells
  origins_visible : ∀ origin ∈ surface.origins,
    Skin.isVisible mesh options (mesh.cellAt origin) = true
  origins_not_ghost : ∀ origin ∈ surface.origins,
    Skin.isGhost mesh options (mesh.cellAt origin) = false
  pointData : List.Forall₂ (Attribute.Extended mesh.numPoints surface.stats.pointsSynthesized)
    mesh.pointData.arrays surface.pointData.arrays
  cellData : List.Forall₂ (Attribute.Gathered surface.origins.toList)
    mesh.cellData.arrays surface.cellData.arrays
  borrowed_iff : surface.borrowed = true ↔ surface.stats.pointsSynthesized = 0

namespace Assembly

/-- Every id in use is an id of the mesh or of a new point. -/
theorem ids_lt_after {done : Nat} {bucket : Bucket} {primitive : Primitive}
    (member : primitive ∈ Skin.inBucketBefore mesh options done bucket) {id : Nat}
    (used : id ∈ primitive.ids) :
    id < mesh.numPoints + (after mesh options done).numNewPoints := by
  obtain ⟨cell, taken, emits, _⟩ := Skin.mem_inBucketBefore.1 member
  have own := Skin.ids_of_mem_contribution (List.mem_of_mem_take taken) emits used
  have later : Skin.firstCentre mesh options (cell.id + 1) ≤ Skin.firstCentre mesh options done :=
    Skin.firstCentre_mono (Mesh.id_lt_of_mem_take taken)
  rw [numPoints_add_numNewPoints_after]
  exact Nat.lt_of_lt_of_le own later

/-- Origins are extracted cells. -/
theorem isExtracted_of_mem_origins_after {done origin : Nat}
    (h : origin ∈ (after mesh options done).origins) :
    Skin.isExtracted mesh options (mesh.cellAt origin) = true := by
  obtain ⟨cell, listed, rfl, primitive, emits⟩ := exists_of_mem_origins_after h
  rw [← (Mesh.mem_cellList.1 listed).2]
  exact Skin.isExtracted_of_mem_contribution emits

/-- There is one origin for each primitive. -/
theorem length_origins_after (done : Nat) :
    (after mesh options done).origins.length =
      (after mesh options done).verts.cells.size + (after mesh options done).lines.cells.size +
        (after mesh options done).polys.cells.size + (after mesh options done).strips.cells.size := by
  have paired : (after mesh options done).Paired := paired_after done
  have verts := paired .verts
  have lines := paired .lines
  have polys := paired .polys
  have strips := paired .strips
  simp only [bucket] at verts lines polys strips
  simp only [origins, Bucket.all, List.flatMap_cons, List.flatMap_nil, List.length_append, bucket,
    Array.length_toList, List.length_nil, verts, lines, polys, strips]
  omega

/-- The surface of what the first cells contribute is well-formed. -/
theorem Finished.wellFormed {done : Nat} {surface : Surface}
    (finished : (after mesh options done).Finished mesh surface)
    (counted : surface.stats.pointsSynthesized = (after mesh options done).numNewPoints) :
    surface.WellFormed mesh options := by
  have numPoints : surface.numPoints = mesh.numPoints + surface.stats.pointsSynthesized := by
    rw [counted, finished.numPoints_eq]
  have extracted : ∀ origin ∈ surface.origins,
      Skin.isGhost mesh options (mesh.cellAt origin) = false ∧
        Skin.isVisible mesh options (mesh.cellAt origin) = true := by
    intro origin member
    rw [← Array.mem_toList_iff, finished.origins_eq] at member
    simpa [Skin.isExtracted] using isExtracted_of_mem_origins_after member
  refine ⟨numPoints, ?_, ?_, ?_, ?_, fun origin member => (extracted origin member).2,
    fun origin member => (extracted origin member).1, ?_, finished.cellData, ?_⟩
  · rw [finished.points_eq, Array.toList_append]
    exact List.prefix_append _ _
  · intro bucket ids member id used
    rw [finished.bucket_eq, cells_after] at member
    obtain ⟨primitive, held, rfl⟩ := List.mem_map.1 member
    rw [numPoints, counted]
    exact ids_lt_after held used
  · have verts := finished.bucket_eq .verts
    have lines := finished.bucket_eq .lines
    have polys := finished.bucket_eq .polys
    have strips := finished.bucket_eq .strips
    simp only [Surface.bucket, bucket] at verts lines polys strips
    rw [Surface.numCells, ← Array.length_toList, finished.origins_eq, length_origins_after, verts,
      lines, polys, strips]
  · intro origin member
    rw [← Array.mem_toList_iff, finished.origins_eq] at member
    exact (sound_after done).origins origin member
  · rw [counted]
    exact finished.pointData
  · rw [finished.borrowed_eq, counted, Array.isEmpty_iff_size_eq_zero, numNewPoints]

end Assembly

/-- Every run over a mesh with cells, stopped or not, gives a well-formed surface. -/
theorem Extraction.run_wellFormed (nonempty : 0 < mesh.numCells) (options : Options)
    (cadence : Cadence) (poll : Nat → Bool) :
    ∃ run, Extraction.run mesh options.normalized cadence poll = some run ∧
      run.surface.WellFormed mesh options.normalized := by
  obtain ⟨run, runs, finished, stats, _⟩ := run_finished nonempty options.normalized cadence poll
  refine ⟨run, runs, finished.wellFormed ?_⟩
  rw [stats, Pass.counts, Pass.assembly_ended]

/-- A run over two tetrahedra that is stopped before the second one. -/
theorem twoTetras_stopped_wellFormed :
    0 < Mesh.twoTetras.numCells ∧
      ∃ run, Extraction.run Mesh.twoTetras Options.standard.normalized .standard
          (fun cell => cell == 1) = some run ∧
        run.surface.WellFormed Mesh.twoTetras Options.standard.normalized :=
  ⟨by decide, Extraction.run_wellFormed (by decide) .standard .standard fun cell => cell == 1⟩

end MeshSkin
