import MeshSkin.Extraction.Trace
import MeshSkin.Proofs.Extraction.Pass
import MeshSkin.Proofs.Ticks

/-!
# What is seen of a run

The trace of a run is determined by the tick at which it stops (`Cadence.traceUntil`), and the run
itself is the one whose polls are the readings of the flag (`Extraction.runTraced_eq`). Every poll
in a trace is answered by the flag as it is at that moment (`Extraction.faithful_of_runTraced`), and
every run is a traced one (`Extraction.run_eq_traced_fst`).
-/

namespace MeshSkin

variable {mesh : Mesh} {options : Options} {survey : Survey} {cadence : Cadence}
  {flag : List Action → Bool} {numCells : Nat}

namespace Cadence

/-- What a pass that goes on does at a cell. -/
def actionsAt (cadence : Cadence) (numCells cell : Nat) : List Action :=
  (if cadence.interval numCells ∣ cell then [.reported ⟨cell, numCells⟩, .polled false] else []) ++
    [.visited cell]

/-- The trace of a pass that comes to a cell, or to the end. -/
def traceBefore (cadence : Cadence) (numCells cell : Nat) : List Action :=
  (List.range cell).flatMap (cadence.actionsAt numCells)

/-- The whole trace of a pass that stops at the tick of a cell, or of one that does not. -/
def traceUntil (cadence : Cadence) (numCells : Nat) : Option Nat → List Action
  | none => cadence.traceBefore numCells numCells
  | some cell =>
    cadence.traceBefore numCells cell ++ [.reported ⟨cell, numCells⟩, .polled true]

/-- What the flag shows at the tick of a cell, if a pass comes to it. -/
def answer (cadence : Cadence) (flag : List Action → Bool) (numCells cell : Nat) : Bool :=
  flag (cadence.traceBefore numCells cell ++ [.reported ⟨cell, numCells⟩])

theorem traceBefore_zero : cadence.traceBefore numCells 0 = [] := rfl

theorem traceBefore_succ (cell : Nat) :
    cadence.traceBefore numCells (cell + 1) =
      cadence.traceBefore numCells cell ++ cadence.actionsAt numCells cell := by
  rw [traceBefore, List.range_succ, List.flatMap_append, List.flatMap_singleton]
  rfl

/-- A pass that goes on has reported at every tick before it. -/
theorem reports_traceBefore (cell : Nat) :
    (cadence.traceBefore numCells cell).filterMap Action.report? =
      ((List.range cell).filter (cadence.ticksAt numCells)).map fun cell => ⟨cell, numCells⟩ := by
  induction cell with
  | zero => rfl
  | succ cell ih =>
    rw [traceBefore_succ, List.range_succ, List.filter_append, List.map_append,
      List.filterMap_append, ih]
    cases ticks : cadence.ticksAt numCells cell <;>
      simp [actionsAt, ← ticksAt_iff, ticks, Action.report?]

/-- Coming to a cell, a pass stops if there is a tick and the flag is up. -/
theorem snd_tick (cell : Nat) :
    (cadence.tick flag numCells cell (cadence.traceBefore numCells cell)).2 =
      (cadence.ticksAt numCells cell && cadence.answer flag numCells cell) := by
  unfold tick
  cases cadence.ticksAt numCells cell <;> rfl

theorem fst_tick_of_stops {cell : Nat}
    (stops : (cadence.ticksAt numCells cell && cadence.answer flag numCells cell) = true) :
    (cadence.tick flag numCells cell (cadence.traceBefore numCells cell)).1 =
      cadence.traceUntil numCells (some cell) := by
  obtain ⟨ticks, raised⟩ := Bool.and_eq_true_iff.1 stops
  unfold answer at raised
  simp [tick, ticks, raised, traceUntil]

theorem fst_tick_of_goes_on {cell : Nat}
    (goes : (cadence.ticksAt numCells cell && cadence.answer flag numCells cell) = false) :
    (cadence.tick flag numCells cell (cadence.traceBefore numCells cell)).1 ++ [.visited cell] =
      cadence.traceBefore numCells (cell + 1) := by
  rw [traceBefore_succ]
  cases ticks : cadence.ticksAt numCells cell with
  | false => simp [tick, actionsAt, ← ticksAt_iff, ticks]
  | true =>
    have down : cadence.answer flag numCells cell = false := by simpa [ticks] using goes
    unfold answer at down
    simp [tick, actionsAt, ← ticksAt_iff, ticks, down]

end Cadence

/-- A traced pass comes to one more cell. -/
theorem Pass.visitAllTraced_cons (cell : Cell) (rest : List Cell) (pass : Pass)
    (trace : List Action) :
    visitAllTraced mesh options survey cadence flag (cell :: rest) pass trace =
      if (cadence.tick flag mesh.numCells cell.id trace).2 then
        some ({ pass.report cadence mesh.numCells cell.id with stoppedAt := some cell.id },
          (cadence.tick flag mesh.numCells cell.id trace).1)
      else
        ((pass.report cadence mesh.numCells cell.id).visit mesh options survey cell).bind
          fun visited => visitAllTraced mesh options survey cadence flag rest visited
            ((cadence.tick flag mesh.numCells cell.id trace).1 ++ [.visited cell.id]) := rfl

/-- Wherever a trace has a poll, it is answered with what the flag shows there. -/
def Faithful (flag : List Action → Bool) (trace : List Action) : Prop :=
  ∀ early answer, early ++ [.polled answer] <+: trace → answer = flag early

namespace Faithful

theorem nil : Faithful flag [] := by
  intro early answer begins
  simp at begins

/-- One more action; if it is a poll, its answer is what the flag shows now. -/
theorem concat {trace : List Action} {action : Action} (faithful : Faithful flag trace)
    (honest : ∀ answer, action = .polled answer → answer = flag trace) :
    Faithful flag (trace ++ [action]) := by
  intro early answer begins
  rcases List.prefix_concat_iff.1 begins with whole | before
  · obtain ⟨rfl, rfl⟩ := List.append_singleton_inj.1 whole
    exact honest answer rfl
  · exact faithful early answer before

theorem tick {trace : List Action} (faithful : Faithful flag trace) (cell : Nat) :
    Faithful flag (cadence.tick flag numCells cell trace).1 := by
  unfold Cadence.tick
  split
  · have told : Faithful flag (trace ++ [.reported ⟨cell, numCells⟩]) :=
      faithful.concat fun answer isPoll => by cases isPoll
    exact told.concat fun answer same => (Action.polled.inj same).symm
  · exact faithful

/-- A pass that starts behind a faithful trace ends with one. -/
theorem visitAllTraced {cells : List Cell} {pass ended : Pass} {trace whole : List Action}
    (faithful : Faithful flag trace)
    (passed : Pass.visitAllTraced mesh options survey cadence flag cells pass trace =
      some (ended, whole)) : Faithful flag whole := by
  induction cells generalizing pass trace with
  | nil =>
    obtain ⟨_, rfl⟩ := Prod.mk.inj (Option.some.inj passed)
    exact faithful
  | cons cell rest ih =>
    have polled : Faithful flag (cadence.tick flag mesh.numCells cell.id trace).1 :=
      faithful.tick cell.id
    rw [Pass.visitAllTraced_cons] at passed
    split at passed
    · obtain ⟨_, rfl⟩ := Prod.mk.inj (Option.some.inj passed)
      exact polled
    · obtain ⟨visited, _, passed⟩ := Option.bind_eq_some_iff.1 passed
      exact ih (polled.concat fun answer isPoll => by cases isPoll) passed

end Faithful

namespace Pass

/-- The rest of a traced pass is that of the pass whose polls are the readings of the flag, by
induction on the number of cells that are left. -/
theorem visitAllTraced_range' (left : Nat) {done : Nat} (h : done + left = mesh.numCells)
    (pass : Pass) :
    visitAllTraced mesh options survey cadence flag ((List.range' done left).map mesh.cellAt) pass
        (cadence.traceBefore mesh.numCells done) =
      (visitAll mesh options survey cadence (cadence.answer flag mesh.numCells)
        ((List.range' done left).map mesh.cellAt) pass).map fun ended =>
          (ended, cadence.traceUntil mesh.numCells ((List.range' done left).find? fun cell =>
            cadence.ticksAt mesh.numCells cell && cadence.answer flag mesh.numCells cell)) := by
  induction left generalizing done pass with
  | zero =>
    obtain rfl : done = mesh.numCells := h
    rfl
  | succ left ih =>
    rw [List.range'_succ, List.map_cons, visitAllTraced_cons, visitAll, List.find?_cons,
      Mesh.cellAt_id, Cadence.snd_tick]
    cases stops : cadence.ticksAt mesh.numCells done && cadence.answer flag mesh.numCells done with
    | true =>
      rw [Cadence.fst_tick_of_stops stops]
      rfl
    | false =>
      rw [Cadence.fst_tick_of_goes_on stops]
      cases (pass.report cadence mesh.numCells done).visit mesh options survey
        (mesh.cellAt done) with
      | none => rfl
      | some visited => exact ih (by omega) visited

/-- A traced pass over a mesh. -/
theorem visitAllTraced_cellList :
    visitAllTraced mesh options survey cadence flag mesh.cellList (start mesh) [] =
      (visitAll mesh options survey cadence (cadence.answer flag mesh.numCells) mesh.cellList
        (start mesh)).map fun ended =>
          (ended, cadence.traceUntil mesh.numCells
            (cadence.stop? mesh.numCells (cadence.answer flag mesh.numCells))) := by
  rw [← Cadence.traceBefore_zero, Mesh.cellList, List.range_eq_range',
    visitAllTraced_range' mesh.numCells (Nat.zero_add _), Cadence.stop?, List.range_eq_range']

end Pass

namespace Extraction

/-- A traced run is the run whose polls are the readings of the flag, and its trace is known from
the tick at which it stops. -/
theorem runTraced_eq :
    runTraced mesh options cadence flag =
      (run mesh options cadence (cadence.answer flag mesh.numCells)).map fun run =>
        (run, cadence.traceUntil mesh.numCells
          (cadence.stop? mesh.numCells (cadence.answer flag mesh.numCells))) := by
  unfold runTraced run
  split
  · rename_i none
    have nothing : mesh.numCells = 0 := Mesh.isEmpty_iff.1 none
    rw [nothing]
    rfl
  · cases Survey.ofMesh mesh options with
    | none => rfl
    | some survey =>
      simp only [mesh.allCells?_eq_some, Pass.visitAllTraced_cellList, Option.bind_eq_bind,
        Option.bind_some]
      cases Pass.visitAll mesh options survey cadence (cadence.answer flag mesh.numCells)
        mesh.cellList (.start mesh) with
      | none => rfl
      | some pass =>
        simp only [Option.map_some, Option.bind_some]
        cases pass.assembly.finish mesh pass.counts pass.stoppedAt.isSome <;> rfl

/-- A flag that shows the answer to the poll of the last report. -/
def readings (poll : Nat → Bool) (trace : List Action) : Bool :=
  match trace.getLast? with
  | some (.reported progress) => poll progress.cell
  | _ => false

/-- Every run is a traced run, whatever the answers to its polls. -/
theorem run_eq_traced_fst (poll : Nat → Bool) :
    run mesh options cadence poll =
      (runTraced mesh options cadence (readings poll)).map Prod.fst := by
  have answers : cadence.answer (readings poll) mesh.numCells = poll := by
    funext cell
    simp [Cadence.answer, readings]
  rw [runTraced_eq, answers, Option.map_map]
  exact Option.map_id'.symm

/-- In the trace of a run every poll is answered by the flag. -/
theorem faithful_of_runTraced {run : Run} {trace : List Action}
    (ran : runTraced mesh options cadence flag = some (run, trace)) : Faithful flag trace := by
  unfold runTraced at ran
  split at ran
  · cases ran
    exact .nil
  · obtain ⟨survey, _, ran⟩ := Option.bind_eq_some_iff.1 ran
    obtain ⟨cells, _, ran⟩ := Option.bind_eq_some_iff.1 ran
    obtain ⟨⟨pass, passed⟩, walked, ran⟩ := Option.bind_eq_some_iff.1 ran
    obtain ⟨surface, _, ran⟩ := Option.bind_eq_some_iff.1 ran
    cases ran
    exact Faithful.nil.visitAllTraced walked

end Extraction
end MeshSkin
