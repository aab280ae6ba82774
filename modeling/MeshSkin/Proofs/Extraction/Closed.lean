import MeshSkin.Proofs.Extraction.Run
import MeshSkin.Proofs.Skin.Ring

/-!
# Closed surfaces

If only solids contribute polygons and the faces that they suppress match one another, then
the skin is closed and consistently oriented: every edge of its polygons comes as often as
the edge in the other direction. Each solid is closed, so what is missing from its kept faces
is what its suppressed faces would add, and these cancel over the whole mesh.
-/

namespace MeshSkin

variable {mesh : Mesh} {options : Options}

namespace Skin

/-- The walks around the suppressed faces of all extracted cells. -/
def suppressedRings (mesh : Mesh) (options : Options) : List (List Nat) :=
  mesh.cellList.flatMap fun cell =>
    if isExtracted mesh options cell then (suppressedFaces mesh options cell).map (ring cell.kind)
    else []

/-- Only solids contribute polygons. -/
def OnlySolids (mesh : Mesh) (options : Options) : Prop :=
  ∀ cell ∈ mesh.cellList,
    (∃ primitive ∈ contribution mesh options cell, primitive.bucket = .polys) →
      cell.kind.faceTable?.isSome = true

/-- The suppressed faces can be assigned to one another, one to one, so that the walk around the
partner of each is the walk around it backwards, from wherever it starts. -/
def Matched (mesh : Mesh) (options : Options) : Prop :=
  ∃ partner : Equiv.Perm (Fin (suppressedRings mesh options).length),
    ∀ i, (suppressedRings mesh options)[partner i] ~r (suppressedRings mesh options)[i].reverse

theorem polygons_eq_nil {primitives : List Primitive}
    (h : ∀ primitive ∈ primitives, primitive.bucket ≠ .polys) : polygons primitives = [] := by
  unfold polygons
  rw [List.map_eq_nil_iff, List.filter_eq_nil_iff]
  intro primitive member
  simpa using h primitive member

/-- What a cell contributes has the opposite flow of what it suppresses. -/
theorem flow_polygons_contribution (solids : OnlySolids mesh options) {cell : Cell}
    (h : cell ∈ mesh.cellList) (a b : Nat) :
    flow ((polygons (contribution mesh options cell)).flatMap edges) a b =
      -flow ((if isExtracted mesh options cell then
        (suppressedFaces mesh options cell).map (ring cell.kind) else []).flatMap edges) a b := by
  by_cases extracted : isExtracted mesh options cell = true
  · rw [if_pos extracted, List.flatMap_map]
    cases solid : cell.kind.faceTable? with
    | some table => exact flow_contribution h solid extracted
    | none =>
      have no_polygons : polygons (contribution mesh options cell) = [] := by
        apply polygons_eq_nil
        intro primitive member polys
        have some_table := solids cell h ⟨primitive, member, polys⟩
        rw [solid] at some_table
        cases some_table
      rw [no_polygons, suppressedFaces, faces, solid]
      rfl
  · have nothing : contribution mesh options cell = [] := by
      unfold contribution emitted
      rw [if_neg extracted]
      rfl
    rw [if_neg extracted, nothing]
    rfl

/-- The flow of all polygons is the opposite of that of all suppressed faces. -/
theorem flow_polys (solids : OnlySolids mesh options) (a b : Nat) :
    flow (((inBucket mesh options .polys).map Primitive.ids).flatMap edges) a b =
      -flow ((suppressedRings mesh options).flatMap edges) a b := by
  have by_cell : ((inBucket mesh options .polys).map Primitive.ids).flatMap edges =
      mesh.cellList.flatMap fun cell =>
        (polygons (contribution mesh options cell)).flatMap edges := by
    unfold inBucket
    rw [List.map_flatMap, List.flatMap_assoc]
    rfl
  rw [by_cell, suppressedRings, List.flatMap_assoc, ← flow_map_swap, List.map_flatMap]
  apply flow_flatMap_congr
  intro cell member
  rw [flow_map_swap]
  exact flow_polygons_contribution solids member a b

/-- With interior faces shown, nothing is suppressed. -/
theorem suppressedRings_eq_nil (shown : options.interiorFaces = true) :
    suppressedRings mesh options = [] := by
  unfold suppressedRings
  rw [List.flatMap_eq_nil_iff]
  intro cell _
  have none : suppressedFaces mesh options cell = [] := by
    unfold suppressedFaces
    rw [List.filter_eq_nil_iff]
    intro face _
    simp [isKept, shown]
  rw [none, List.map_nil, ite_self]

/-- Suppressed faces that are matched cancel. -/
theorem flow_suppressedRings (h : options.interiorFaces = true ∨ Matched mesh options) (a b : Nat) :
    flow ((suppressedRings mesh options).flatMap edges) a b = 0 := by
  rcases h with shown | ⟨partner, opposite⟩
  · rw [suppressedRings_eq_nil shown]
    rfl
  · exact flow_eq_zero_of_partners partner opposite a b

end Skin

/-- The surface of a run that is not asked to stop is closed and consistently oriented, if only
solids contribute polygons and no face is suppressed from one side only. -/
theorem Extraction.run_closed (mesh : Mesh) (options : Options) (cadence : Cadence)
    (poll : Nat → Bool)
    (quiet : ∀ cell < mesh.numCells,
      cadence.ticksAt mesh.numCells cell = true → poll cell = false)
    (solids : Skin.OnlySolids mesh options.normalized)
    (matched : options.interiorFaces = true ∨ Skin.Matched mesh options.normalized) :
    ∃ run, Extraction.run mesh options.normalized cadence poll = some run ∧
      Balanced (run.surface.polys.toLists.flatMap edges) := by
  by_cases nonempty : 0 < mesh.numCells
  · obtain ⟨run, runs, finished, _, _⟩ := run_finished nonempty options.normalized cadence poll
    rw [Cadence.stop?_eq_none_iff.2 quiet, Option.getD_none] at finished
    have polys : run.surface.polys.toLists =
        (Skin.inBucket mesh options.normalized .polys).map Primitive.ids := by
      have held := finished.bucket_eq .polys
      rw [← Skin.inBucketBefore_numCells, ← Assembly.cells_after, ← held]
      rfl
    refine ⟨run, runs, balanced_iff_flow.2 fun a b => ?_⟩
    rw [polys, Skin.flow_polys solids, Skin.flow_suppressedRings matched, Int.neg_zero]
  · have none : mesh.isEmpty = true := Mesh.isEmpty_iff.2 (by omega)
    exact ⟨emptyRun mesh, by rw [run, if_pos none], fun _ _ => rfl⟩

/-- Two tetrahedra suppress the triangle between them from both sides, in opposite directions. -/
theorem twoTetras_closed :
    Skin.OnlySolids Mesh.twoTetras Options.standard.normalized ∧
      Skin.Matched Mesh.twoTetras Options.standard.normalized ∧
      ∃ run, Extraction.run Mesh.twoTetras Options.standard.normalized .standard
          (fun _ => false) = some run ∧
        Balanced (run.surface.polys.toLists.flatMap edges) := by
  have solids : Skin.OnlySolids Mesh.twoTetras Options.standard.normalized := by
    intro cell member _
    revert cell
    decide
  have matched : Skin.Matched Mesh.twoTetras Options.standard.normalized :=
    ⟨Equiv.swap ⟨0, by decide⟩ ⟨1, by decide⟩, by decide⟩
  exact ⟨solids, matched, Extraction.run_closed _ _ _ (fun _ => false) (fun _ _ _ => rfl) solids
    (Or.inr matched)⟩

end MeshSkin
