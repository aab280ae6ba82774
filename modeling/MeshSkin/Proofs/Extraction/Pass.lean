import Mathlib.Algebra.GroupWithZero.Nat
import MeshSkin.Extraction.Pass
import MeshSkin.Proofs.Skin.Placing

/-!
# What a pass has done

After the first cells of a mesh a pass holds what these cells contribute, their counts and
the reports of their ticks (`Pass.after`). Every visit leads from one such state to the next,
so a pass ends in the state of the first tick at which it is asked to stop, or, if there is
none, in the state of all cells (`Pass.visitAll_eq_some`).
-/

namespace MeshSkin

variable {mesh : Mesh} {options : Options} {survey : Survey} {cadence : Cadence}
  {poll : Nat → Bool}

/-- A single count of a sum is the sum of that count. -/
theorem Stats.count_sum (count : Stats → Nat) (count_zero : count .zero = 0)
    (count_add : ∀ a b, count (a.add b) = count a + count b) (all : List Stats) :
    count (sum all) = (all.map count).sum := by
  have from_start : ∀ start, count (all.foldl add start) = count start + (all.map count).sum := by
    induction all with
    | nil => simp
    | cons stats rest ih =>
      intro start
      rw [List.foldl_cons, ih, count_add, List.map_cons, List.sum_cons, Nat.add_assoc]
  rw [sum, from_start, count_zero, Nat.zero_add]

/-- The cell of the first tick at which a pass is asked to stop. -/
def Cadence.stop? (cadence : Cadence) (numCells : Nat) (poll : Nat → Bool) : Option Nat :=
  (List.range numCells).find? fun cell => cadence.ticksAt numCells cell && poll cell

/-- It is a tick, and at none before is the pass asked to stop. -/
theorem Cadence.stop?_eq_some_iff {numCells cell : Nat} :
    cadence.stop? numCells poll = some cell ↔
      cell < numCells ∧ cadence.ticksAt numCells cell = true ∧ poll cell = true ∧
        ∀ early < cell, cadence.ticksAt numCells early = true → poll early = false := by
  unfold stop?
  rw [List.find?_range_eq_some]
  simp only [Bool.and_eq_true, List.mem_range, Bool.not_eq_true', Bool.and_eq_false_imp]
  constructor
  · intro given
    obtain ⟨⟨ticks, asked⟩, bound, early⟩ := given
    exact ⟨bound, ticks, asked, early⟩
  · intro given
    obtain ⟨bound, ticks, asked, early⟩ := given
    exact ⟨⟨ticks, asked⟩, bound, early⟩

/-- A pass that is not asked to stop at any of its ticks has no such cell. -/
theorem Cadence.stop?_eq_none_iff {numCells : Nat} :
    cadence.stop? numCells poll = none ↔
      ∀ cell < numCells, cadence.ticksAt numCells cell = true → poll cell = false := by
  simp [stop?]

/-- A pass visits no more cells than there are. -/
theorem Cadence.getD_stop?_le (numCells : Nat) :
    (cadence.stop? numCells poll).getD numCells ≤ numCells := by
  cases stops : cadence.stop? numCells poll with
  | none => exact Nat.le_refl _
  | some cell => exact Nat.le_of_lt (Cadence.stop?_eq_some_iff.1 stops).1

/-- What the first cells of a mesh contribute, and their centres. -/
def Assembly.after (mesh : Mesh) (options : Options) (done : Nat) : Assembly :=
  (Assembly.empty mesh.numPoints mesh.numCells).append
    ((mesh.cellList.take done).flatMap (Skin.contribution mesh options))
    ((mesh.cellList.take done).flatMap (Skin.newPoints mesh options))

namespace Assembly

theorem after_zero : after mesh options 0 = empty mesh.numPoints mesh.numCells := append_nil _

/-- New points are numbered as the skin numbers its centres. -/
theorem nextPoint_after (done : Nat) :
    (after mesh options done).nextPoint = Skin.firstCentre mesh options done := by
  have made : (mesh.cellList.take done).flatMap (Skin.newPoints mesh options) =
      ((mesh.cellList.take done).flatMap (Skin.emitted mesh options)).flatMap
        (Piece.newPoints mesh) := by
    rw [List.flatMap_assoc]
    rfl
  rw [after, nextPoint_append, made, Skin.length_flatMap_newPoints, Skin.firstCentre]
  rfl

theorem numPoints_add_numNewPoints_after (done : Nat) :
    mesh.numPoints + (after mesh options done).numNewPoints =
      Skin.firstCentre mesh options done := by
  rw [← nextPoint_after, nextPoint, after, firstNew_append]
  rfl

/-- The cells after the first ones add their new points behind those of the first ones. -/
theorem newPoints_after_numCells (done : Nat) :
    (after mesh options mesh.numCells).newPoints.toList =
      (after mesh options done).newPoints.toList ++
        (mesh.cellList.drop done).flatMap (Skin.newPoints mesh options) := by
  unfold after
  rw [newPoints_append, newPoints_append, mesh.take_numCells_cellList]
  simp only [Array.toList_append, List.append_assoc, ← List.flatMap_append,
    List.take_append_drop]

/-- Placing what one more cell emits. -/
theorem placeVisit_after {done : Nat} (h : done < mesh.numCells) :
    (after mesh options done).placeVisit mesh (Skin.visit mesh options (mesh.cellAt done)) =
      some (after mesh options (done + 1)) := by
  have fits : ∀ piece ∈ Skin.emitted mesh options (mesh.cellAt done), piece.Fits mesh :=
    fun _ member => Skin.fits_of_mem_emitted (Mesh.cellAt_mem h) member
  unfold placeVisit
  rw [Skin.pieces_visit, foldlM_place fits, nextPoint_after]
  unfold after
  rw [append_append, Mesh.take_succ_cellList h, List.flatMap_append,
    List.flatMap_append, List.flatMap_singleton, List.flatMap_singleton]
  rfl

end Assembly

namespace Pass

variable (mesh options cadence)

/-- A pass that has visited the first `done` cells and goes on. -/
def after (done : Nat) : Pass where
  assembly := .after mesh options done
  stats := .sum ((mesh.cellList.take done).map fun cell => (Skin.visit mesh options cell).stats)
  reports := (((List.range done).filter (cadence.ticksAt mesh.numCells)).map
    fun cell => ⟨cell, mesh.numCells⟩).toArray
  stoppedAt := none

/-- A pass that has come to its end, before the given cell or after all cells. -/
def ended : Option Nat → Pass
  | none => after mesh options cadence mesh.numCells
  | some cell =>
    { (after mesh options cadence cell).report cadence mesh.numCells cell with
      stoppedAt := some cell }

variable {mesh options cadence}

theorem after_zero : after mesh options cadence 0 = start mesh := by
  unfold after
  rw [Assembly.after_zero]
  rfl

/-- A visit leads from one state to the next. -/
theorem visit_after (exact : survey.Exact mesh options) {done : Nat} (h : done < mesh.numCells) :
    ((after mesh options cadence done).report cadence mesh.numCells done).visit mesh options survey
      (mesh.cellAt done) = some (after mesh options cadence (done + 1)) := by
  have assembly : ((after mesh options cadence done).report cadence mesh.numCells done).assembly =
      .after mesh options done := by
    unfold report
    split <;> rfl
  have reports : ((after mesh options cadence done).report cadence mesh.numCells done).reports =
      (after mesh options cadence (done + 1)).reports := by
    unfold report after
    rw [List.range_succ, List.filter_append]
    cases ticks : cadence.ticksAt mesh.numCells done <;> simp [ticks]
  have stats : (((after mesh options cadence done).report cadence mesh.numCells done).stats).add
      (Skin.visit mesh options (mesh.cellAt done)).stats =
        (after mesh options cadence (done + 1)).stats := by
    unfold report after
    rw [Mesh.take_succ_cellList h, List.map_append, Stats.sum, Stats.sum,
      List.foldl_append]
    split <;> rfl
  have going : ((after mesh options cadence done).report cadence mesh.numCells done).stoppedAt =
      none := by
    unfold report
    split <;> rfl
  unfold visit
  rw [Visit.ofCell_eq_some exact (Mesh.cellAt_mem h), assembly]
  simp only [Option.bind_eq_bind, Option.bind_some, Assembly.placeVisit_after h, stats, reports,
    going]
  rfl

/-- The rest of a pass, by induction on the number of cells that are left. -/
theorem visitAll_range' (exact : survey.Exact mesh options) (left : Nat) {done : Nat}
    (h : done + left = mesh.numCells) :
    visitAll mesh options survey cadence poll ((List.range' done left).map mesh.cellAt)
        (after mesh options cadence done) =
      some (ended mesh options cadence ((List.range' done left).find? fun cell =>
        cadence.ticksAt mesh.numCells cell && poll cell)) := by
  induction left generalizing done with
  | zero =>
    obtain rfl : done = mesh.numCells := h
    rfl
  | succ left ih =>
    rw [List.range'_succ, List.map_cons, visitAll, List.find?_cons, Mesh.cellAt_id]
    cases stops : cadence.ticksAt mesh.numCells done && poll done with
    | true => rfl
    | false =>
      have bound : done < mesh.numCells := by omega
      simp only [Bool.false_eq_true, if_false, visit_after exact bound, Option.bind_eq_bind,
        Option.bind_some]
      exact ih (by omega)

/-- A pass over a mesh never fails. -/
theorem visitAll_eq_some (exact : survey.Exact mesh options) :
    visitAll mesh options survey cadence poll mesh.cellList (start mesh) =
      some (ended mesh options cadence (cadence.stop? mesh.numCells poll)) := by
  have walked : visitAll mesh options survey cadence poll mesh.cellList (after mesh options cadence 0) =
      some (ended mesh options cadence (cadence.stop? mesh.numCells poll)) := by
    rw [Mesh.cellList, List.range_eq_range', visitAll_range' exact _ (Nat.zero_add _), Cadence.stop?,
      List.range_eq_range']
  rwa [after_zero] at walked

theorem cellsVisited_visit (visit : Visit) : visit.stats.cellsVisited = 1 := by
  unfold Visit.stats
  split <;> rfl

/-- The cells that a pass visits come before the one it stops at. -/
theorem assembly_ended (stop : Option Nat) :
    (ended mesh options cadence stop).assembly = .after mesh options (stop.getD mesh.numCells) := by
  cases stop with
  | none => rfl
  | some cell =>
    simp only [ended, report]
    split <;> rfl

/-- A pass counts the cells before its end, and their centres. -/
theorem counts_ended (stop : Option Nat) :
    (ended mesh options cadence stop).counts =
      { Stats.sum ((mesh.cellList.take (stop.getD mesh.numCells)).map fun cell =>
          (Skin.visit mesh options cell).stats) with
        pointsSynthesized :=
          (Assembly.after mesh options (stop.getD mesh.numCells)).numNewPoints } := by
  have stats : (ended mesh options cadence stop).stats =
      (after mesh options cadence (stop.getD mesh.numCells)).stats := by
    cases stop with
    | none => rfl
    | some cell =>
      simp only [ended, report]
      split <;> rfl
  rw [counts, stats, assembly_ended, after]

/-- Every cell before the end counts as visited, and no other. -/
theorem cellsVisited_ended {stop : Option Nat} (h : stop.getD mesh.numCells ≤ mesh.numCells) :
    (ended mesh options cadence stop).counts.cellsVisited = stop.getD mesh.numCells := by
  rw [counts_ended, Stats.count_sum Stats.cellsVisited rfl fun _ _ => rfl, List.map_map]
  simp [Function.comp_def, cellsVisited_visit, Mesh.length_cellList, h]

end Pass
end MeshSkin
