import MeshSkin.Extractor
import MeshSkin.Proofs.Extraction.Run
import MeshSkin.Proofs.Extraction.Trace

/-!
# Ticks of a run

An observer of a run is told of the cells 0, `interval`, twice `interval` and so on, in this order
and each before it is visited, and after every report the flag is read once. A run that finds it up
has come to the last of its reports; any other run reports at all these cells, which are no more
than the divisions of its cadence and, if there are enough cells, at least half as many
(`Extraction.runTraced_ticks`). The runs of an extractor are such runs (`Extractor.run_eq_traced`).
-/

namespace MeshSkin

variable {mesh : Mesh} {options : Options} {cadence : Cadence} {numCells : Nat}

/-- A run that visits every cell. -/
structure Run.Completed (run : Run) (trace : List Action) (cadence : Cadence) (numCells : Nat) :
    Prop where
  reports_eq : run.reports =
    (List.range (cadence.numTicks numCells)).map (cadence.reportAt numCells)
  length_le : run.reports.length ≤ cadence.divisions
  length_eq : numCells < cadence.divisions → run.reports.length = numCells
  le_two_mul_length : cadence.divisions ≤ numCells → cadence.divisions ≤ 2 * run.reports.length
  trace_eq : trace = cadence.traceBefore numCells numCells

/-- A run that stops at a tick, the flag being up there. -/
structure Run.InterruptedAt (run : Run) (trace : List Action) (cadence : Cadence)
    (numCells tick : Nat) : Prop where
  lt_numTicks : tick < cadence.numTicks numCells
  reports_eq : run.reports = (List.range (tick + 1)).map (cadence.reportAt numCells)
  trace_eq : trace = cadence.traceBefore numCells (tick * cadence.interval numCells) ++
    [.reported (cadence.reportAt numCells tick), .polled true]

/-- How many reports there are follows from where they come. -/
theorem Run.Completed.of_reports {run : Run} (reports : run.reports =
    (List.range (cadence.numTicks numCells)).map (cadence.reportAt numCells)) :
    run.Completed (cadence.traceBefore numCells numCells) cadence numCells := by
  have length : run.reports.length = cadence.numTicks numCells := by
    rw [reports, List.length_map, List.length_range]
  constructor
  case reports_eq => exact reports
  case length_le => exact length ▸ Cadence.numTicks_le_divisions
  case length_eq => exact fun few => length.trans (Cadence.numTicks_eq_numCells few)
  case le_two_mul_length => exact fun enough => length ▸ Cadence.divisions_le_two_mul_numTicks enough
  case trace_eq => rfl

namespace Pass

/-- A pass keeps the reports that its trace shows. -/
theorem reports_ended {stop : Option Nat}
    (ticks : ∀ cell ∈ stop, cadence.ticksAt mesh.numCells cell = true) :
    (ended mesh options cadence stop).reports.toList =
      (cadence.traceUntil mesh.numCells stop).filterMap Action.report? := by
  cases stop with
  | none => rw [Cadence.traceUntil, Cadence.reports_traceBefore, ended, after]
  | some cell =>
    rw [Cadence.traceUntil, List.filterMap_append, Cadence.reports_traceBefore]
    simp only [ended, report, after, ticks cell rfl, if_true, Array.toList_push]
    rfl

/-- The reports of a pass that stops at no tick. -/
theorem reports_ended_none :
    (ended mesh options cadence none).reports.toList =
      (List.range (cadence.numTicks mesh.numCells)).map (cadence.reportAt mesh.numCells) := by
  simp only [ended, after, Cadence.filter_ticksAt_range fun _ => Cadence.lt_numTicks_iff,
    List.map_map]
  rfl

/-- The reports of a pass that stops at a tick, the one of that tick included. -/
theorem reports_ended_some (tick : Nat) :
    (ended mesh options cadence (some (tick * cadence.interval mesh.numCells))).reports.toList =
      (List.range (tick + 1)).map (cadence.reportAt mesh.numCells) := by
  rw [List.range_succ, List.map_append]
  simp only [ended, report, after, Cadence.ticksAt_mul, if_true, Cadence.filter_ticksAt_range_mul,
    Array.toList_push, List.map_map]
  rfl

end Pass

namespace Extraction

/-- A run reports what its pass reported, and is aborted if the pass was stopped. -/
theorem exists_run (mesh : Mesh) (options : Options) (cadence : Cadence) (poll : Nat → Bool) :
    ∃ run, Extraction.run mesh options cadence poll = some run ∧
      run.reports =
        (Pass.ended mesh options cadence (cadence.stop? mesh.numCells poll)).reports.toList ∧
      run.surface.aborted = (cadence.stop? mesh.numCells poll).isSome := by
  by_cases nonempty : 0 < mesh.numCells
  · obtain ⟨_, _, _, finished, runs⟩ :=
      run_eq_some nonempty options (rfl : cadence.stop? mesh.numCells poll = _)
    exact ⟨_, runs, rfl, (Assembly.finished_of_finish (Assembly.sound_after _) finished).2.2⟩
  · have nothing : mesh.numCells = 0 := by omega
    have never : cadence.stop? mesh.numCells poll = none := by
      rw [nothing]
      rfl
    refine ⟨emptyRun mesh, by rw [run, if_pos (Mesh.isEmpty_iff.2 nothing)], ?_, ?_⟩
    · rw [never, Pass.ended, Pass.after, nothing]
      rfl
    · rw [never]
      rfl

/-- Whatever the flag shows from one moment to the next, a run has a trace: it tells an observer of
the multiples of the interval below the number of cells, and either completes or stops at the first
of them at which it reads that the flag is up. -/
theorem runTraced_ticks (mesh : Mesh) (options : Options) (cadence : Cadence)
    (flag : List Action → Bool) :
    (∀ tick, tick < cadence.numTicks mesh.numCells ↔
      tick * cadence.interval mesh.numCells < mesh.numCells) ∧
    ∃ run trace, runTraced mesh options cadence flag = some (run, trace) ∧
      Extraction.run mesh options cadence (cadence.answer flag mesh.numCells) = some run ∧
      run.reports = trace.filterMap Action.report? ∧
      Faithful flag trace ∧
      (run.surface.aborted = false → run.Completed trace cadence mesh.numCells) ∧
      (run.surface.aborted = true → ∃ tick, run.InterruptedAt trace cadence mesh.numCells tick) := by
  obtain ⟨run, runs, reports, aborted⟩ :=
    exists_run mesh options cadence (cadence.answer flag mesh.numCells)
  have traced : runTraced mesh options cadence flag =
      some (run, cadence.traceUntil mesh.numCells
        (cadence.stop? mesh.numCells (cadence.answer flag mesh.numCells))) := by
    rw [runTraced_eq, runs, Option.map_some]
  refine ⟨fun _ => Cadence.lt_numTicks_iff, run, _, traced, runs, ?_, faithful_of_runTraced traced,
    fun completed => ?_, fun interrupted => ?_⟩
  · rw [reports]
    exact Pass.reports_ended fun cell stops => (Cadence.stop?_eq_some_iff.1 stops).2.1
  · rw [aborted, Option.isSome_eq_false_iff, Option.isNone_iff_eq_none] at completed
    rw [completed] at reports ⊢
    exact .of_reports (reports.trans Pass.reports_ended_none)
  · rw [aborted] at interrupted
    obtain ⟨cell, stops⟩ := Option.isSome_iff_exists.1 interrupted
    obtain ⟨bound, ticks, _, _⟩ := Cadence.stop?_eq_some_iff.1 stops
    obtain ⟨tick, rfl⟩ := Cadence.ticksAt_iff.1 ticks
    rw [Nat.mul_comm] at stops bound
    rw [stops] at reports ⊢
    exact ⟨tick, Cadence.lt_numTicks_iff.2 bound, reports.trans (Pass.reports_ended_some tick), rfl⟩

end Extraction

namespace Extractor

/-- What the flag of an extractor shows after a trace, with a watcher that raises it at some of the
reports. -/
def shows (extractor : Extractor) (raiseFrom : Option Nat) (trace : List Action) : Bool :=
  extractor.raised ||
    (trace.filterMap Action.report?).any fun report => raisesAt raiseFrom report.cell

/-- A watcher that raises the flag at a cell would do so at all later ones. -/
theorem raisesAt_mono {raiseFrom : Option Nat} {early late : Nat} (le : early ≤ late)
    (raises : raisesAt raiseFrom early = true) : raisesAt raiseFrom late = true := by
  cases raiseFrom with
  | none => cases raises
  | some cell =>
    have reached : cell ≤ early := of_decide_eq_true raises
    exact decide_eq_true (Nat.le_trans reached le)

/-- The watcher is told of a tick before the flag is read there, so that it can stop the run at that
very tick. -/
theorem answer_shows (extractor : Extractor) (raiseFrom : Option Nat) (cadence : Cadence)
    (numCells cell : Nat) :
    cadence.answer (extractor.shows raiseFrom) numCells cell =
      (extractor.raised || raisesAt raiseFrom cell) := by
  have told : (cadence.traceBefore numCells cell ++ [Action.reported ⟨cell, numCells⟩]).filterMap
      Action.report? =
        ((List.range cell).filter (cadence.ticksAt numCells)).map (⟨·, numCells⟩) ++
          [⟨cell, numCells⟩] := by
    rw [List.filterMap_append, Cadence.reports_traceBefore]
    rfl
  unfold Cadence.answer shows
  rw [told, List.any_append, List.any_map, List.any_cons, List.any_nil, Bool.or_false]
  congr 1
  cases raises : raisesAt raiseFrom cell with
  | true => rw [Bool.or_true]
  | false =>
    rw [Bool.or_false, List.any_eq_false]
    intro early member raises_early
    have before := List.mem_range.1 (List.mem_of_mem_filter member)
    rw [raisesAt_mono (Nat.le_of_lt before) raises_early] at raises
    cases raises

/-- The runs of an extractor are traced runs that read its flag, and leave it as it is shown then. -/
theorem run_eq_traced (extractor : Extractor) (mesh : Mesh) (raiseFrom : Option Nat) :
    extractor.run mesh raiseFrom =
      (Extraction.runTraced mesh extractor.options extractor.cadence
        (extractor.shows raiseFrom)).map fun (run, trace) =>
          (run, { extractor with raised := extractor.shows raiseFrom trace }) := by
  have readings := funext (extractor.answer_shows raiseFrom extractor.cadence mesh.numCells)
  obtain ⟨result, runs, reports, _⟩ := Extraction.exists_run mesh extractor.options
    extractor.cadence fun tick => extractor.raised || raisesAt raiseFrom tick
  rw [Pass.reports_ended fun cell stops => (Cadence.stop?_eq_some_iff.1 stops).2.1] at reports
  rw [Extraction.runTraced_eq, readings, Extractor.run, runs]
  simp only [Option.map_some, shows, reports]

end Extractor
end MeshSkin
