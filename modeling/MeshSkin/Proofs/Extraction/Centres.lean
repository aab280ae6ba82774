import MeshSkin.Proofs.Attribute.Stored
import MeshSkin.Proofs.Extraction.Counts
import MeshSkin.Proofs.Mesh.Renumbered
import MeshSkin.Proofs.Skin.Centres

/-!
# The centres of a run

A run gives every new point the id at which it will stand before the points are appended, and keeps
the positions, the stencils and the triangles apart. In the surface they still belong together
(`Extraction.run_centred`): the quads of the cells that were extracted, in their order, are as many as
the new points, and the point with the number of a quad is a corner of the triangles of this quad and
of nothing else, it stands where the weights of the quad put it, and its attributes are their weighted
sums, rounded where they are stored as whole numbers. This holds wherever the run was stopped.
-/

namespace MeshSkin

open Skin (quadsBefore)

namespace Surface

/-- The curved quads of the cells that were extracted. -/
def quads (surface : Surface) (mesh : Mesh) (options : Options) : List CurvedQuad :=
  (surface.extracted mesh options).flatMap (Skin.quads mesh options)

/-- A point of a surface is the centre of a quad. -/
structure Centred (surface : Surface) (mesh : Mesh) (options : Options) (centre : Nat)
    (quad : CurvedQuad) : Prop where
  /-- The quad is a kept face of an extracted cell or such a cell itself, its points in ring order. -/
  drawn : ∃ cell ∈ surface.extracted mesh options, quad ∈ Skin.quads mesh options cell ∧
    ∃ ring, CurvedQuad.IsRing cell.kind ring ∧ quad.ids = pick cell.points ring
  eight : quad.ids.length = 8
  position : surface.points[centre]? = some
    ⟨quad.coordinate mesh Point.x, quad.coordinate mesh Point.y, quad.coordinate mesh Point.z⟩
  attributes : List.Forall₂ (Attribute.WeighedAt centre quad.stencil) mesh.pointData.arrays
    surface.pointData.arrays
  /-- Six of eight triangles in a row have the centre, each once, and no other polygon has it. -/
  triangles : ∃ front fan back, surface.entries? .polys = some (front ++ fan ++ back) ∧
    fan.map Entry.ids = CurvedQuad.split.map (pick (quad.ids ++ [centre])) ∧
    (∀ entry ∈ fan, entry.origin = quad.cell ∧ entry.ids.length = 3) ∧
    (fan.map fun entry => entry.ids.count centre) = [1, 1, 0, 1, 1, 1, 1, 0] ∧
    ∀ entry ∈ front ++ back, centre ∉ entry.ids
  /-- Nothing in the other buckets has it. -/
  elsewhere : ∀ bucket, bucket ≠ .polys → ∃ entries, surface.entries? bucket = some entries ∧
    ∀ entry ∈ entries, centre ∉ entry.ids

end Surface

namespace Assembly

variable {mesh : Mesh} {options : Options} {done : Nat}

/-- The new points are the centres of the quads in their order. -/
theorem newPoints_after (done : Nat) :
    (after mesh options done).newPoints.toList =
      (quadsBefore mesh options done).map (CurvedQuad.centre mesh) := by
  rw [after, newPoints_append, Skin.quadsBefore_eq_flatMap, List.map_flatMap,
    ← List.flatMap_congr fun cell _ => Skin.newPoints_eq_map cell]
  simp [empty]

theorem stencil_after {j : Nat} {quad : CurvedQuad}
    (listed : (quadsBefore mesh options done)[j]? = some quad) :
    ((after mesh options done).newPoints.toList.map NewPoint.stencil)[j]? = some quad.stencil := by
  rw [newPoints_after, List.map_map, List.getElem?_map, listed]
  rfl

variable {surface : Surface} {stats : Stats} {aborted : Bool}
  (made : (after mesh options done).finish mesh stats aborted = some surface)

include made

/-- Every array of the points has one more tuple for each new point. -/
theorem appended_after (built : mesh.Built) :
    List.Forall₂ (Attribute.Appended mesh.numPoints
        ((after mesh options done).newPoints.toList.map NewPoint.stencil))
      mesh.pointData.arrays surface.pointData.arrays := by
  obtain ⟨extended, found, appended⟩ := AttributeTable.extend_appended mesh.valid.pointTuples
    (Mesh.built_iff.1 built).1.1 (sound_after done).entry_lt
  obtain rfl := Option.some.inj (found.symm.trans (extend_of_finish made))
  exact appended

variable {j : Nat} {quad : CurvedQuad} (listed : (quadsBefore mesh options done)[j]? = some quad)

include listed

/-- The centre stands where the quad puts it. -/
theorem position_centre :
    surface.points[mesh.numPoints + j]? = some (mesh.weighted quad.stencil) := by
  obtain ⟨finished, _⟩ := finished_of_finish (sound_after done) made
  rw [finished.point?_new, ← Array.getElem?_toList, newPoints_after, List.getElem?_map, listed]
  rfl

/-- The triangles of a quad are in every bucket they go to, and nothing else has its centre. -/
theorem triangles_centre (bucket : Bucket) :
    quad.ids.length = 8 ∧ mesh.numPoints + j ∉ quad.ids ∧
      ∃ front back, surface.entries? bucket = some (front ++
          ((quad.triangles (mesh.numPoints + j)).filter fun primitive =>
            primitive.bucket == bucket).map (Primitive.entry mesh) ++ back) ∧
        ∀ entry ∈ front ++ back, mesh.numPoints + j ∉ entry.ids := by
  obtain ⟨finished, _⟩ := finished_of_finish (sound_after done) made
  obtain ⟨cell, extracted, own, before, after, split, place⟩ := Skin.exists_quad listed
  have taken := (List.mem_filter.1 extracted).1
  have present := List.mem_of_mem_take taken
  have fits : (Piece.quad quad.ids).Fits mesh :=
    Skin.fits_of_mem_emitted present (split ▸ List.mem_append_right _ List.mem_cons_self)
  obtain ⟨front, back, bucket_eq, apart⟩ := Skin.exists_triangles (Skin.cell_of_mem_quads own) split
    present (Mesh.id_lt_of_mem_take taken) bucket
  rw [← place] at bucket_eq apart
  refine ⟨fits.1, fun member => ?_, front.map (Primitive.entry mesh), back.map (Primitive.entry mesh),
    ?_, ?_⟩
  · have old := fits.2 _ member
    omega
  · rw [finished.entries?_after, bucket_eq, List.map_append, List.map_append]
  · rw [← List.map_append]
    intro entry member
    obtain ⟨primitive, listed, rfl⟩ := List.mem_map.1 member
    exact apart primitive listed

/-- A new point is the centre of the quad with its number. -/
theorem centred (built : mesh.Built) (visited : surface.stats.cellsVisited = done) :
    surface.Centred mesh options (mesh.numPoints + j) quad where
  drawn := by
    obtain ⟨cell, extracted, own, _⟩ := Skin.exists_quad listed
    have present := List.mem_of_mem_take (List.mem_filter.1 extracted).1
    rw [← visited] at extracted
    exact ⟨cell, extracted, own, Skin.exists_ring present own⟩
  eight := (triangles_centre made listed .polys).1
  position := by rw [position_centre made listed, CurvedQuad.weighted_stencil]
  attributes := (appended_after made built).imp fun _ _ appended =>
    appended.weighedAt (stencil_after listed)
  triangles := by
    obtain ⟨eight, new, front, back, entries, apart⟩ := triangles_centre made listed .polys
    have all : (quad.triangles (mesh.numPoints + j)).filter
        (fun primitive => primitive.bucket == .polys) = quad.triangles (mesh.numPoints + j) := by
      refine List.filter_eq_self.2 fun primitive member => ?_
      rw [(CurvedQuad.of_mem_triangles member).1]
      rfl
    rw [all] at entries
    refine ⟨front, _, back, entries, ?_, fun entry member => ?_, ?_, apart⟩
    · rw [List.map_map, CurvedQuad.triangles, List.map_map]
      rfl
    · obtain ⟨primitive, listed, rfl⟩ := List.mem_map.1 member
      exact (CurvedQuad.of_mem_triangles listed).2
    · rw [List.map_map]
      exact CurvedQuad.map_count_triangles eight new
  elsewhere := by
    intro bucket other
    obtain ⟨_, _, front, back, entries, apart⟩ := triangles_centre made listed bucket
    have none : (quad.triangles (mesh.numPoints + j)).filter
        (fun primitive => primitive.bucket == bucket) = [] := by
      refine List.filter_eq_nil_iff.2 fun primitive member => ?_
      rw [(CurvedQuad.of_mem_triangles member).1, beq_iff_eq]
      exact other.symm
    rw [none, List.map_nil, List.append_nil] at entries
    exact ⟨front ++ back, entries, apart⟩

end Assembly

/-- The new points of a run are the centres of the curved quads of its extracted cells, one for each
quad and in their order, wherever the run was stopped. -/
theorem Extraction.run_centred (mesh : Mesh) (options : Options) (cadence : Cadence)
    (poll : Nat → Bool) (built : mesh.Built) (nonempty : 0 < mesh.numCells) :
    ∃ run, Extraction.run mesh options cadence poll = some run ∧
      (run.surface.quads mesh options).length = run.surface.stats.pointsSynthesized ∧
      (run.surface.quads mesh options).Pairwise CurvedQuad.Precedes ∧
      ∀ (j : Nat) (quad : CurvedQuad), (run.surface.quads mesh options)[j]? = some quad →
        run.surface.Centred mesh options (mesh.numPoints + j) quad := by
  obtain ⟨survey, surface, _, made, runs⟩ :=
    run_eq_some nonempty options (rfl : cadence.stop? mesh.numCells poll = _)
  obtain ⟨_, stats_eq, _⟩ := Assembly.finished_of_finish (Assembly.sound_after _) made
  have visited : surface.stats.cellsVisited =
      (cadence.stop? mesh.numCells poll).getD mesh.numCells := by
    rw [stats_eq, Pass.cellsVisited_ended (Cadence.getD_stop?_le _)]
  have quads_eq : surface.quads mesh options =
      quadsBefore mesh options ((cadence.stop? mesh.numCells poll).getD mesh.numCells) := by
    rw [Surface.quads, Surface.extracted, visited, quadsBefore]
  refine ⟨_, runs, ?_, ?_, ?_⟩ <;> simp only [quads_eq]
  · rw [stats_eq, Pass.counts_ended]
    show _ = Array.size _
    rw [← Array.length_toList, Assembly.newPoints_after, List.length_map]
  · exact Skin.pairwise_quadsBefore _
  · exact fun j quad listed => Assembly.centred made listed built visited

/-- Two sheets give two centres, and the second one is that of the second sheet. The bytes at it stop
at 255, and minus two and a half goes away from zero. -/
theorem twoSheets_centred :
    Mesh.twoSheets.Built ∧ 0 < Mesh.twoSheets.numCells ∧
      ∃ run, Extraction.run Mesh.twoSheets Options.standard.normalized .standard
          (fun _ => false) = some run ∧
        run.surface.stats.pointsSynthesized = 2 ∧
        run.surface.Centred Mesh.twoSheets Options.standard.normalized 9
          ⟨1, 0, [0, 3, 2, 1, 7, 6, 5, 4]⟩ ∧
        run.surface.points[9]? = some ⟨1.0, 1.0, 2.0⟩ ∧
        ∃ heat layer depth, run.surface.pointData.arrays = [heat, layer, depth] ∧
          heat.component? 9 0 = some (.real 9.5) ∧ layer.component? 9 0 = some (.byte 255) ∧
          depth.component? 9 0 = some (.integer (-3)) := by
  refine ⟨Mesh.twoSheets_built, by decide, ?_⟩
  obtain ⟨run, runs, length, _, centred⟩ :=
    Extraction.run_centred Mesh.twoSheets Options.standard.normalized .standard (fun _ => false)
      Mesh.twoSheets_built (by decide)
  have quiet : Cadence.standard.Quiet Mesh.twoSheets.numCells fun _ => false := fun _ _ _ => rfl
  obtain ⟨_, again, full⟩ := Extraction.run_full Mesh.twoSheets Options.standard.normalized quiet
  obtain rfl := Option.some.inj (runs.symm.trans again)
  have quads_eq : run.surface.quads Mesh.twoSheets Options.standard.normalized =
      [⟨0, 0, [0, 1, 2, 3, 4, 5, 6, 7]⟩, ⟨1, 0, [0, 3, 2, 1, 7, 6, 5, 4]⟩] := by
    rw [Surface.quads, Surface.extracted, full.stats_eq]
    decide
  have computed : (Extraction.run Mesh.twoSheets Options.standard.normalized .standard
      fun _ => false).map (fun run => (run.surface.points[9]?, run.surface.pointData.arrays)) =
      some (some ⟨1.0, 1.0, 2.0⟩,
        [⟨"heat", 1, .reals #[0.0, 1.0, 2.0, 3.0, 4.0, 5.0, 6.0, 7.0, 9.5, 9.5]⟩,
          ⟨"layer", 1, .bytes #[0, 10, 20, 30, 200, 200, 200, 200, 255, 255]⟩,
          ⟨"depth", 1, .integers #[1, 2, 3, 4, 0, 0, 0, 0, -3, -3]⟩]) := by
    decide +kernel
  rw [runs, Option.map_some, Option.some.injEq] at computed
  exact ⟨run, runs, by rw [← length, quads_eq]; rfl, centred 1 _ (by rw [quads_eq]; rfl),
    congrArg Prod.fst computed, _, _, _, congrArg Prod.snd computed, by decide, by decide, by decide⟩

end MeshSkin
