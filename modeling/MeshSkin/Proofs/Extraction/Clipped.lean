import MeshSkin.Proofs.Extraction.Counts
import MeshSkin.Proofs.Visibility.Modes

/-!
# Clipped cells

A run under given options clips a cell that it reaches and that is no ghost exactly if the cell fails
a well-formed clipping mode, and it counts these cells (`Extraction.run_clips`). Modes that are
malformed play no part, and neither does the way in which the tags are shared out among workers.
-/

namespace MeshSkin

variable {mesh : Mesh} {options : Options}

/-- What becomes of a cell under the clipping modes. -/
structure Visit.Clipped (visit : Visit) (mesh : Mesh) (options : Options) (cell : Cell) : Prop where
  ghost : visit.fate = .ghost ↔ Skin.isGhost mesh options cell = true
  clipped : visit.fate = .clipped ↔
    Skin.isGhost mesh options cell = false ∧ options.Clips mesh cell

/-- The counts of a run that has reached some cells. -/
structure Surface.CountsClipped (surface : Surface) (mesh : Mesh) (options : Options)
    (reached : List Cell) : Prop where
  visited_eq : surface.stats.cellsVisited = reached.length
  ghosts_eq : surface.stats.ghostCells = reached.countP (Skin.isGhost mesh options)
  clipped_eq : surface.stats.cellsClipped =
    (reached.filter fun cell => !Skin.isGhost mesh options cell).countP fun cell =>
      decide (options.Clips mesh cell)

namespace Skin

theorem isGhost_normalized (cell : Cell) :
    isGhost mesh options.normalized cell = isGhost mesh options cell := rfl

/-- Without malformed modes a cell is hidden exactly if it fails a well-formed one. -/
theorem isVisible_normalized {cell : Cell} (listed : cell ∈ mesh.cellList) :
    isVisible mesh options.normalized cell = !decide (options.Clips mesh cell) := by
  rw [Bool.eq_iff_iff, isVisible_iff listed, Bool.not_eq_true', decide_eq_false_iff_not,
    Options.clips_iff, Decidable.not_not]

theorem clipped_visit {cell : Cell} (listed : cell ∈ mesh.cellList) :
    (visit mesh options.normalized cell).Clipped mesh options cell := by
  have hidden : isVisible mesh options.normalized cell = !decide (options.Clips mesh cell) :=
    isVisible_normalized listed
  constructor
  · unfold visit
    rw [isGhost_normalized]
    cases isGhost mesh options cell <;> cases isVisible mesh options.normalized cell <;> simp
  · unfold visit
    rw [isGhost_normalized, hidden]
    cases isGhost mesh options cell <;> by_cases fails : options.Clips mesh cell <;> simp [fails]

theorem ghostCells_counted (options : Options) (cells : List Cell) :
    (counted mesh options cells).ghostCells = cells.countP (isGhost mesh options) := by
  rw [count_counted mesh options cells Stats.ghostCells rfl fun _ _ => rfl, ← tally_toNat]
  apply tally_congr
  intro cell _
  unfold visit Visit.stats
  cases isGhost mesh options cell <;> cases isVisible mesh options cell <;> rfl

theorem cellsClipped_counted (options : Options) (cells : List Cell) :
    (counted mesh options cells).cellsClipped =
      (cells.filter fun cell => !isGhost mesh options cell).countP fun cell =>
        !isVisible mesh options cell := by
  rw [count_counted mesh options cells Stats.cellsClipped rfl fun _ _ => rfl, List.countP_filter,
    ← tally_toNat]
  apply tally_congr
  intro cell _
  unfold visit Visit.stats
  cases isGhost mesh options cell <;> cases isVisible mesh options cell <;> rfl

end Skin

namespace Extraction

/-- The cells before the one that a run stops at. -/
def reached (mesh : Mesh) (cadence : Cadence) (poll : Nat → Bool) : List Cell :=
  mesh.cellList.take ((cadence.stop? mesh.numCells poll).getD mesh.numCells)

theorem run_countsClipped (mesh : Mesh) (options : Options) (cadence : Cadence)
    (poll : Nat → Bool) :
    ∃ run, Extraction.run mesh options.normalized cadence poll = some run ∧
      run.surface.CountsClipped mesh options (reached mesh cadence poll) := by
  by_cases nonempty : 0 < mesh.numCells
  · obtain ⟨run, runs, _, stats_eq, _⟩ := run_finished nonempty options.normalized cadence poll
    have listed : ∀ cell ∈ reached mesh cadence poll, cell ∈ mesh.cellList :=
      fun _ member => List.mem_of_mem_take member
    rw [Pass.counts_ended] at stats_eq
    refine ⟨run, runs, ?_, ?_, ?_⟩
    · rw [stats_eq]
      show (Skin.counted mesh options.normalized (reached mesh cadence poll)).cellsVisited = _
      rw [Skin.count_counted mesh options.normalized _ Stats.cellsVisited rfl fun _ _ => rfl]
      simp [Skin.tally, Pass.cellsVisited_visit]
    · rw [stats_eq]
      exact Skin.ghostCells_counted options.normalized _
    · rw [stats_eq]
      refine (Skin.cellsClipped_counted options.normalized _).trans ?_
      apply List.countP_congr
      intro cell member
      rw [Skin.isVisible_normalized (listed cell (List.mem_of_mem_filter member)), Bool.not_not]
  · have none : mesh.numCells = 0 := by omega
    have nothing : reached mesh cadence poll = [] := by
      simp [reached, Mesh.cellList, none]
    refine ⟨emptyRun mesh, by rw [run, if_pos (Mesh.isEmpty_iff.2 none)], ?_⟩
    rw [nothing]
    exact ⟨rfl, rfl, rfl⟩

/-- A run clips by the well-formed ones of its modes: normalizing drops the others, the tags tell of
each cell whether it passes what is left, and the cells are counted that do not. -/
theorem run_clips (mesh : Mesh) (options : Options) (cadence : Cadence) (poll : Nat → Bool) :
    options.Normalizes ∧
      (∀ sharing, ∃ visibility, Visibility.classifyShared sharing mesh options = some visibility ∧
        Visibility.classify mesh options = some visibility ∧ visibility.Tells mesh options) ∧
      (∃ survey, Survey.ofMesh mesh options.normalized = some survey ∧
        ∀ cell ∈ mesh.cellList, ∃ visit, Visit.ofCell options.normalized survey cell = some visit ∧
          visit.Clipped mesh options cell) ∧
      (∃ run, Extraction.run mesh options.normalized cadence poll = some run ∧
        run.surface.CountsClipped mesh options (reached mesh cadence poll)) ∧
      ∀ cell, cell.points = [] → (options.Clips mesh cell ↔
        ∃ range, options.cellIds = some range ∧ range.min ≤ range.max ∧
          (cell.id < range.min ∨ range.max < cell.id)) := by
  refine ⟨options.normalizes, fun sharing => ?shared, ?visits,
    run_countsClipped mesh options cadence poll, fun _ none => Options.clips_iff_of_no_points none⟩
  case shared =>
    obtain ⟨visibility, classified, tells⟩ := Visibility.classify_tells mesh options
    exact ⟨visibility, (Visibility.classifyShared_eq sharing mesh options).trans classified,
      classified, tells⟩
  case visits =>
    obtain ⟨survey, surveyed, exact⟩ := Survey.ofMesh_exact mesh options.normalized
    exact ⟨survey, surveyed, fun cell listed =>
      ⟨_, Visit.ofCell_eq_some exact listed, Skin.clipped_visit listed⟩⟩

end Extraction
end MeshSkin
