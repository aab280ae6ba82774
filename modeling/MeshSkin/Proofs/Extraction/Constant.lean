import MeshSkin.Proofs.Attribute.Constant
import MeshSkin.Proofs.Extraction.Centres

/-!
# Constant fields of a run

Where an array of bytes or integers has one value at all eight points of an emitted quad, its centre
has this value too, wherever the run was stopped (`Extraction.run_keepsConstants`). The one limit is
that of floats: an integer of more than 53 binary digits becomes the nearest one of 53
(`oneSheet_rounded`), except for the greatest, which the limit of 64 bits brings back.
-/

namespace MeshSkin

open Skin (quadsBefore)

namespace Assembly

variable {mesh : Mesh} {options : Options} {done : Nat}

/-- Every array of the points keeps the constants of a quad at its centre. -/
theorem keepsConstants_centre {surface : Surface} {stats : Stats} {aborted : Bool}
    (made : (after mesh options done).finish mesh stats aborted = some surface) {j : Nat}
    {quad : CurvedQuad} (listed : (quadsBefore mesh options done)[j]? = some quad)
    (built : mesh.Built) :
    List.Forall₂ (Attribute.KeepsConstants (mesh.numPoints + j) quad.ids) mesh.pointData.arrays
      surface.pointData.arrays := by
  exact (appended_after made built).imp fun _ _ appended =>
    appended.keepsConstants (stencil_after listed) (triangles_centre made listed .polys).1

end Assembly

/-- A run keeps constants of bytes, and those of integers as far as a float can hold them. -/
theorem Extraction.run_keepsConstants (mesh : Mesh) (options : Options) (cadence : Cadence)
    (poll : Nat → Bool) (built : mesh.Built) :
    ∃ run, Extraction.run mesh options cadence poll = some run ∧
      ∀ (j : Nat) (quad : CurvedQuad), (run.surface.quads mesh options)[j]? = some quad →
        run.surface.Centred mesh options (mesh.numPoints + j) quad ∧
          List.Forall₂ (Attribute.KeepsConstants (mesh.numPoints + j) quad.ids)
            mesh.pointData.arrays run.surface.pointData.arrays := by
  by_cases nonempty : 0 < mesh.numCells
  · obtain ⟨survey, surface, _, made, runs⟩ :=
      run_eq_some nonempty options (rfl : cadence.stop? mesh.numCells poll = _)
    obtain ⟨_, stats_eq, _⟩ := Assembly.finished_of_finish (Assembly.sound_after _) made
    have visited : surface.stats.cellsVisited =
        (cadence.stop? mesh.numCells poll).getD mesh.numCells := by
      rw [stats_eq, Pass.cellsVisited_ended (Cadence.getD_stop?_le _)]
    have quads_eq : surface.quads mesh options =
        quadsBefore mesh options ((cadence.stop? mesh.numCells poll).getD mesh.numCells) := by
      rw [Surface.quads, Surface.extracted, visited, quadsBefore]
    refine ⟨_, runs, fun j quad listed => ?_⟩
    replace listed : (quadsBefore mesh options _)[j]? = some quad := quads_eq ▸ listed
    exact ⟨Assembly.centred made listed built visited, Assembly.keepsConstants_centre made listed built⟩
  · have none : mesh.isEmpty = true := Mesh.isEmpty_iff.2 (by omega)
    refine ⟨emptyRun mesh, by rw [run, if_pos none], fun j quad listed => ?_⟩
    have nothing : (emptyRun mesh).surface.quads mesh options = [] := rfl
    rw [nothing] at listed
    cases listed

/-- A curved quad with one byte and two integers at every point. -/
def Mesh.oneSheet : Mesh where
  points := #[⟨0.0, 0.0, 0.0⟩, ⟨2.0, 0.0, 0.0⟩, ⟨2.0, 2.0, 0.0⟩, ⟨0.0, 2.0, 0.0⟩,
    ⟨1.0, 0.0, 0.0⟩, ⟨2.0, 1.0, 0.0⟩, ⟨1.0, 2.0, 0.0⟩, ⟨0.0, 1.0, 0.0⟩]
  kinds := #[.quadraticQuad]
  cells := .ofLists [[0, 1, 2, 3, 4, 5, 6, 7]]
  pointData := ⟨[⟨"layer", 1, .bytes (Array.replicate 8 255)⟩,
    ⟨"id", 2, .integers (Array.ofFn fun i : Fin 16 =>
      if i.val % 2 = 0 then -9007199254740991 else 9007199254740993)⟩]⟩
  cellData := .empty
  valid := Mesh.check_eq_ok_iff.1 (by decide)

theorem Mesh.oneSheet_built : Mesh.oneSheet.Built := Mesh.built_iff.2 (by decide)

/-- The byte and the integer of 53 digits are found again at the centre. -/
theorem oneSheet_keepsConstants :
    Mesh.oneSheet.Built ∧
      ∃ run, Extraction.run Mesh.oneSheet Options.standard.normalized .standard
          (fun _ => false) = some run ∧
        ∃ layer id, run.surface.pointData.arrays = [layer, id] ∧
          layer.component? 8 0 = some (.byte 255) ∧
          id.component? 8 0 = some (.integer (-9007199254740991)) := by
  refine ⟨Mesh.oneSheet_built, ?_⟩
  obtain ⟨run, runs, centres⟩ := Extraction.run_keepsConstants Mesh.oneSheet
    Options.standard.normalized .standard (fun _ => false) Mesh.oneSheet_built
  have quiet : Cadence.standard.Quiet Mesh.oneSheet.numCells fun _ => false := fun _ _ _ => rfl
  obtain ⟨_, again, full⟩ := Extraction.run_full Mesh.oneSheet Options.standard.normalized quiet
  obtain rfl := Option.some.inj (runs.symm.trans again)
  have quads_eq : run.surface.quads Mesh.oneSheet Options.standard.normalized =
      [⟨0, 0, [0, 1, 2, 3, 4, 5, 6, 7]⟩] := by
    rw [Surface.quads, Surface.extracted, full.stats_eq]
    decide
  have kept := (centres 0 _ (by rw [quads_eq]; rfl)).2
  obtain ⟨layer, _, bytes, others, arrays_eq⟩ := List.forall₂_cons_left_iff.1 kept
  obtain ⟨id, _, integers, none, rfl⟩ := List.forall₂_cons_left_iff.1 others
  obtain rfl := List.forall₂_nil_left_iff.1 none
  exact ⟨run, runs, layer, id, arrays_eq, bytes.bytes 0 255 (by decide),
    (integers.unchanged 0 _ (by decide)).2
      (Or.inl ⟨-9007199254740991, 0, by decide, by decide⟩)⟩

/-- An integer of 54 digits at all points of a quad is another one at its centre. -/
theorem oneSheet_rounded :
    Mesh.oneSheet.Built ∧ ∃ run, Extraction.run Mesh.oneSheet Options.standard.normalized .standard
        (fun _ => false) = some run ∧
      run.surface.quads Mesh.oneSheet Options.standard.normalized =
        [⟨0, 0, [0, 1, 2, 3, 4, 5, 6, 7]⟩] ∧
      ∃ layer id layer' id', Mesh.oneSheet.pointData.arrays = [layer, id] ∧
        run.surface.pointData.arrays = [layer', id'] ∧
        (∀ point ∈ [0, 1, 2, 3, 4, 5, 6, 7],
          id.component? point 1 = some (.integer 9007199254740993)) ∧
        id'.component? 8 1 = some (.integer 9007199254740992) := by
  have computed : (Extraction.run Mesh.oneSheet Options.standard.normalized .standard
      fun _ => false).map (fun run => (run.surface.quads Mesh.oneSheet Options.standard.normalized,
        run.surface.pointData.arrays)) =
      some ([⟨0, 0, [0, 1, 2, 3, 4, 5, 6, 7]⟩], [⟨"layer", 1, .bytes (Array.replicate 9 255)⟩,
        ⟨"id", 2, .integers (Array.ofFn fun i : Fin 18 => if i.val % 2 = 0 then -9007199254740991
          else if i.val = 17 then 9007199254740992 else 9007199254740993)⟩]) := by
    decide +kernel
  obtain ⟨run, runs, both⟩ := Option.map_eq_some_iff.1 computed
  exact ⟨Mesh.oneSheet_built, run, runs, congrArg Prod.fst both, _, _, _, _, rfl,
    congrArg Prod.snd both, by decide, by decide⟩

end MeshSkin
