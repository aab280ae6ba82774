import MeshSkin.Proofs.Extraction.Carried
import MeshSkin.Proofs.Skin.GhostLevels

/-!
# Runs up to a ghost level

Two full runs over one mesh that differ in the level up to which cells emit. The run of the lower
level has exactly those primitives of the other that come from cells up to this level, in the same
order and on the same points, apart from the ids of the centres (`Extraction.run_ghostLevels`).
So what a cell contributes does not depend on whether the ghosts around it emit.
-/

namespace MeshSkin

namespace Surface

/-- A surface that has of another one the primitives of the owned cells and no others. Its points
are points of the other under the ids that `τ` gives, which leaves those of the mesh and the order
of the rest alone. -/
structure OwnedPart (few many : Surface) (mesh : Mesh) (owned : Nat → Prop) [DecidablePred owned]
    (τ : Nat → Nat) : Prop where
  points_fixed : ∀ id < mesh.numPoints, τ id = id
  increasing : ∀ early late, early < late → late < few.numPoints → τ early < τ late
  point_eq : ∀ id < few.numPoints, many.points[τ id]? = few.points[id]?
  entries_eq : ∀ bucket, ∃ held all,
    few.entries? bucket = some held ∧ many.entries? bucket = some all ∧
      (all.filter fun entry => decide (owned entry.origin)) = held.map (Entry.renumber id τ)
  entriesOf_eq : ∀ cell, owned cell → ∀ bucket, ∃ held,
    few.entriesOf? bucket cell = some held ∧
      many.entriesOf? bucket cell = some (held.map (Entry.renumber id τ))
  entriesOf_eq_nil : ∀ cell, ¬ owned cell → ∀ bucket, few.entriesOf? bucket cell = some []

section Filtered

variable {few many : Surface} (owned : Nat → Prop) [DecidablePred owned] {τ : Nat → Nat}
  {bucket : Bucket} {held all : List Entry} (some_held : few.entries? bucket = some held)
  (filtered : (all.filter fun entry => decide (owned entry.origin)) =
    held.map (Entry.renumber id τ))

include some_held filtered

/-- Owned cells have the same primitives in both surfaces. -/
theorem entriesOf?_of_owned (some_all : many.entries? bucket = some all) {cell : Nat}
    (own : owned cell) :
    ∃ entries, few.entriesOf? bucket cell = some entries ∧
      many.entriesOf? bucket cell = some (entries.map (Entry.renumber id τ)) := by
  refine ⟨_, by rw [entriesOf?, some_held]; rfl, ?_⟩
  have redundant : ∀ entry ∈ all, (entry.origin == cell && decide (owned entry.origin)) =
      (entry.origin == cell) := by
    intro entry _
    by_cases here : entry.origin = cell
    · simp [here, own]
    · simp [here]
  have again := congrArg (List.filter fun entry => entry.origin == cell) filtered
  rw [List.filter_filter, List.filter_congr redundant, List.filter_map] at again
  rw [entriesOf?, some_all, Option.map_some, again]
  rfl

/-- The others have none in the smaller one. -/
theorem entriesOf?_of_not_owned {cell : Nat} (foreign : ¬ owned cell) :
    few.entriesOf? bucket cell = some [] := by
  have all_owned : ∀ entry ∈ held, owned entry.origin := by
    intro entry member
    have moved : entry.renumber id τ ∈ held.map (Entry.renumber id τ) :=
      List.mem_map_of_mem member
    rw [← filtered] at moved
    exact of_decide_eq_true (List.mem_filter.1 moved).2
  rw [entriesOf?, some_held, Option.map_some, Option.some.injEq, List.filter_eq_nil_iff]
  intro entry member here
  exact foreign (beq_iff_eq.1 here ▸ all_owned entry member)

end Filtered

end Surface

namespace Extraction

/-- The entries of the owned cells, read off the skin. -/
theorem filter_owned_entries {mesh : Mesh} (options : Options) {levels : Array UInt8}
    (usable : mesh.ghostLevels? = some levels) {low high : UInt8} (ordered : low ≤ high)
    (bucket : Bucket) :
    (((Skin.inBucket mesh (options.upTo high) bucket).map (Primitive.entry mesh)).filter
        fun entry => decide (levels.getD entry.origin 0 ≤ low)) =
      ((Skin.inBucket mesh (options.upTo low) bucket).map (Primitive.entry mesh)).map
        (Surface.Entry.renumber id (Skin.makeRoom mesh options low high)) := by
  have parted := congrArg (List.map (Primitive.entry mesh))
    (Skin.filter_owned_inBucket options usable ordered bucket)
  rw [List.map_map] at parted
  rw [List.filter_map, List.map_map]
  exact parted

/-- Of two levels the lower one gives the primitives of the cells up to it, as they are under the
higher one. -/
theorem run_ghostLevels (mesh : Mesh) (options : Options) {levels : Array UInt8}
    (usable : mesh.ghostLevels? = some levels) {low high : UInt8} (ordered : low ≤ high)
    {cadence cadence' : Cadence} {poll poll' : Nat → Bool}
    (quiet : cadence.Quiet mesh.numCells poll) (quiet' : cadence'.Quiet mesh.numCells poll') :
    ∃ few many, Extraction.run mesh (options.upTo low).normalized cadence poll = some few ∧
      Extraction.run mesh (options.upTo high).normalized cadence' poll' = some many ∧
      ∃ τ, few.surface.OwnedPart many.surface mesh (fun cell => levels.getD cell 0 ≤ low) τ := by
  rw [Options.normalized_upTo, Options.normalized_upTo]
  generalize options.normalized = options
  obtain ⟨few, runs, full⟩ := run_full mesh (options.upTo low) quiet
  obtain ⟨many, runs', full'⟩ := run_full mesh (options.upTo high) quiet'
  have held := full.holds.entries?_eq
  have all := full'.holds.entries?_eq
  have carried : Skin.Carried mesh mesh (options.upTo low) (options.upTo high) id id
      (Skin.makeRoom mesh options low high) := Skin.carried_upTo usable ordered
  have filtered := filter_owned_entries options usable ordered
  let owned : Nat → Prop := fun cell => levels.getD cell 0 ≤ low
  refine ⟨few, many, runs, runs', _, ⟨fun _ => Skin.makeRoom_of_lt, ?_,
    fun id => full.point?_carried full' carried fun some => some,
    fun bucket => ⟨_, _, held bucket, all bucket, filtered bucket⟩, fun cell own bucket =>
      Surface.entriesOf?_of_owned owned (held bucket) (filtered bucket) (all bucket) own,
    fun cell foreign bucket =>
      Surface.entriesOf?_of_not_owned owned (held bucket) (filtered bucket) foreign⟩⟩
  intro early late before inside
  -- Without cells the surface leaves out even the points of the mesh.
  by_cases nonempty : 0 < mesh.numCells
  · rw [full.numPoints_eq nonempty] at inside
    exact Skin.makeRoom_lt usable ordered before inside
  · rw [full.no_points (by omega)] at inside
    cases inside

end Extraction

/-- Two curved quads, the first of them a ghost. -/
def Mesh.ghostSheet : Mesh where
  points := twoSheets.points
  kinds := twoSheets.kinds
  cells := twoSheets.cells
  pointData := twoSheets.pointData
  cellData := ⟨[⟨AttributeTable.ghostLevelsName, 1, .bytes #[1, 0]⟩]⟩
  valid := check_eq_ok_iff.1 (by decide)

/-- Up to level 0 there is only the second quad, as it is up to level 1. -/
theorem ghostSheet_ghostLevels :
    Mesh.ghostSheet.ghostLevels? = some #[1, 0] ∧ (0 : UInt8) ≤ 1 ∧
      Cadence.standard.Quiet Mesh.ghostSheet.numCells (fun _ => false) ∧
      ∃ few many,
        Extraction.run Mesh.ghostSheet (Options.standard.upTo 0).normalized .standard
          (fun _ => false) = some few ∧
        Extraction.run Mesh.ghostSheet (Options.standard.upTo 1).normalized .standard
          (fun _ => false) = some many ∧
        (∃ τ, few.surface.OwnedPart many.surface Mesh.ghostSheet
          (fun cell => #[1, 0].getD cell 0 ≤ (0 : UInt8)) τ) ∧
        few.surface.entriesOf? .polys 0 = some [] := by
  have usable : Mesh.ghostSheet.ghostLevels? = some #[1, 0] := by decide
  have ordered : (0 : UInt8) ≤ 1 := by decide
  have quiet : Cadence.standard.Quiet Mesh.ghostSheet.numCells (fun _ => false) :=
    fun _ _ _ => rfl
  obtain ⟨few, many, runs, runs', τ, part⟩ :=
    Extraction.run_ghostLevels Mesh.ghostSheet .standard usable ordered quiet quiet
  exact ⟨usable, ordered, quiet, few, many, runs, runs', ⟨τ, part⟩,
    part.entriesOf_eq_nil 0 (by decide) .polys⟩

end MeshSkin
