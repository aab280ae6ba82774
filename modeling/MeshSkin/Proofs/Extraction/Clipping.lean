import MeshSkin.Proofs.Extraction.Full
import MeshSkin.Proofs.Skin.Balance

/-!
# Clipping to a range of cells

A smaller range of cells drops primitives with the cells that leave it, and reveals those faces
of the remaining cells that only dropped cells were hiding. The two numbers are all that changes
(`Extraction.run_narrowed`), and the second may be the greater one: a tetrahedron among four
ghosts shows nothing until one of them is clipped (`narrowing_not_monotone`).
-/

namespace MeshSkin

theorem length_flatMap_filter_bucket (primitives : List Primitive) :
    (Bucket.all.flatMap fun bucket =>
      primitives.filter fun primitive => primitive.bucket == bucket).length = primitives.length := by
  simp only [Bucket.all, List.flatMap_cons, List.flatMap_nil, List.append_nil, List.length_append]
  induction primitives with
  | nil => rfl
  | cons primitive rest ih =>
    simp only [List.filter_cons, List.length_cons, ← ih]
    cases primitive.bucket <;> simp <;> omega

/-- The whole skin counted cell by cell. -/
theorem Surface.HoldsSkin.numCells_eq {surface : Surface} {mesh : Mesh} {options : Options}
    (holds : surface.HoldsSkin mesh options) : surface.numCells = Skin.size mesh options := by
  have buckets : (Bucket.all.flatMap fun bucket => Skin.inBucket mesh options bucket) =
      Bucket.all.flatMap fun bucket =>
        (mesh.cellList.flatMap (Skin.contribution mesh options)).filter fun primitive =>
          primitive.bucket == bucket := by
    apply List.flatMap_congr
    intro bucket _
    rw [List.filter_flatMap, Skin.inBucket]
  rw [numCells, ← Array.length_toList, holds.origins_eq, ← List.map_flatMap, List.length_map,
    buckets, length_flatMap_filter_bucket, List.length_flatMap, Skin.size]
  exact congrArg List.sum (List.map_congr_left fun cell _ => Skin.length_primitives _ _ _)

/-- Clipping to a smaller range of cells: together with the primitives that were lost there are as
many as before together with those that are revealed. So there are no more than before exactly if
no more are revealed than lost, and never more if interior faces are shown. -/
theorem Extraction.run_narrowed (mesh : Mesh) (options : Options) {cadence : Cadence}
    {poll : Nat → Bool} (quiet : cadence.Quiet mesh.numCells poll) {outer inner : IdRange}
    (valid : inner.isValid = true) (low : outer.min ≤ inner.min) (high : inner.max ≤ outer.max) :
    ∃ wide narrow,
      Extraction.run mesh (options.within outer).normalized cadence poll = some wide ∧
      Extraction.run mesh (options.within inner).normalized cadence poll = some narrow ∧
      narrow.surface.numCells +
          Skin.lost mesh (options.within outer).normalized (options.within inner).normalized =
        wide.surface.numCells +
          Skin.revealed mesh (options.within outer).normalized
            (options.within inner).normalized ∧
      (narrow.surface.numCells ≤ wide.surface.numCells ↔
        Skin.revealed mesh (options.within outer).normalized (options.within inner).normalized ≤
          Skin.lost mesh (options.within outer).normalized (options.within inner).normalized) ∧
      (options.interiorFaces = true → narrow.surface.numCells ≤ wide.surface.numCells) := by
  have reveals := Skin.reveals_within mesh options valid low high
  obtain ⟨wide, runs_wide, holds_wide⟩ := run_holdsSkin mesh (options.within outer).normalized quiet
  obtain ⟨narrow, runs_narrow, holds_narrow⟩ :=
    run_holdsSkin mesh (options.within inner).normalized quiet
  have balance := reveals.size_add_lost
  rw [← holds_wide.numCells_eq, ← holds_narrow.numCells_eq] at balance
  refine ⟨wide, narrow, runs_wide, runs_narrow, balance, by omega, fun shown => ?_⟩
  have none : Skin.revealed mesh (options.within outer).normalized
      (options.within inner).normalized = 0 := Skin.revealed_eq_zero shown
  omega

/-- A tetrahedron with a ghost on each of its four faces. -/
def Mesh.haloTetra : Mesh where
  points := #[⟨0.0, 0.0, 0.0⟩, ⟨1.0, 0.0, 0.0⟩, ⟨0.0, 1.0, 0.0⟩, ⟨0.0, 0.0, 1.0⟩,
    ⟨0.0, -1.0, 0.0⟩, ⟨1.0, 1.0, 1.0⟩, ⟨-1.0, 0.0, 0.0⟩, ⟨0.0, 0.0, -1.0⟩]
  kinds := #[.tetra, .tetra, .tetra, .tetra, .tetra]
  cells := .ofLists [[0, 1, 2, 3], [0, 1, 3, 4], [1, 2, 3, 5], [2, 0, 3, 6], [0, 2, 1, 7]]
  pointData := .empty
  cellData := ⟨[⟨AttributeTable.ghostLevelsName, 1, .bytes #[0, 1, 1, 1, 1]⟩]⟩
  valid := check_eq_ok_iff.1 (by decide)

/-- Clipping the last ghost loses nothing and reveals one face. -/
theorem haloTetra_narrowed :
    (IdRange.mk 0 3).isValid = true ∧
      ∃ wide narrow,
        Extraction.run Mesh.haloTetra (Options.standard.within ⟨0, 4⟩).normalized .standard
          (fun _ => false) = some wide ∧
        Extraction.run Mesh.haloTetra (Options.standard.within ⟨0, 3⟩).normalized .standard
          (fun _ => false) = some narrow ∧
        narrow.surface.numCells + 0 = wide.surface.numCells + 1 := by
  have valid : (IdRange.mk 0 3).isValid = true := by decide
  have low : (IdRange.mk 0 4).min ≤ (IdRange.mk 0 3).min := by decide
  have high : (IdRange.mk 0 3).max ≤ (IdRange.mk 0 4).max := by decide
  obtain ⟨wide, narrow, runs_wide, runs_narrow, balance, _⟩ :=
    Extraction.run_narrowed Mesh.haloTetra Options.standard (fun _ _ _ => rfl) valid low high
  have lost : Skin.lost Mesh.haloTetra (Options.standard.within ⟨0, 4⟩).normalized
      (Options.standard.within ⟨0, 3⟩).normalized = 0 := by decide
  have revealed : Skin.revealed Mesh.haloTetra (Options.standard.within ⟨0, 4⟩).normalized
      (Options.standard.within ⟨0, 3⟩).normalized = 1 := by decide
  rw [lost, revealed] at balance
  exact ⟨valid, wide, narrow, runs_wide, runs_narrow, balance⟩

/-- Fewer cells can show more: all five cells show nothing, the first four show a face. -/
theorem narrowing_not_monotone :
    ∃ wide narrow,
      Extraction.run Mesh.haloTetra (Options.standard.within ⟨0, 4⟩).normalized .standard
        (fun _ => false) = some wide ∧
      Extraction.run Mesh.haloTetra (Options.standard.within ⟨0, 3⟩).normalized .standard
        (fun _ => false) = some narrow ∧
      wide.surface.numCells = 0 ∧ narrow.surface.numCells = 1 := by
  obtain ⟨wide, runs_wide, holds_wide⟩ := Extraction.run_holdsSkin Mesh.haloTetra
    (Options.standard.within ⟨0, 4⟩).normalized fun _ _ _ => rfl
  obtain ⟨narrow, runs_narrow, holds_narrow⟩ := Extraction.run_holdsSkin Mesh.haloTetra
    (Options.standard.within ⟨0, 3⟩).normalized fun _ _ _ => rfl
  refine ⟨wide, narrow, runs_wide, runs_narrow, ?_, ?_⟩
  · rw [holds_wide.numCells_eq]
    decide
  · rw [holds_narrow.numCells_eq]
    decide

end MeshSkin
