import MeshSkin.Extraction.Pass

/-!
# Extraction

The run over a mesh: a survey of visibility and incidence, one pass over the cells, and the
surface of everything the pass emitted. A pass that was stopped gives the surface of the
cells before its last tick. A mesh without cells has an empty surface.
-/

namespace MeshSkin

/-- A finished run: its surface, its reports of progress and its events, in order. -/
structure Run where
  surface : Surface
  reports : List Progress
  log : List Event
  deriving DecidableEq, Repr

namespace Extraction

/-- The events of a run over at least one cell. -/
def events (mesh : Mesh) (survey : Survey) (pass : Pass) (surface : Surface) : List Event :=
  [.runOpened mesh.numCells mesh.numPoints] ++
    (if survey.ghostLevels.isNone then [.noGhostLevels] else []) ++
    [.cellsPassed (survey.visibility.count mesh.numCells) mesh.numCells,
      .cellsIndexed survey.incidence.numPoints] ++
    pass.reports.toList.map Event.ticked ++
    (pass.stoppedAt.map fun cell =>
      Event.runAborted ⟨cell, mesh.numCells⟩ pass.assembly.numCells).toList ++
    (if 0 < surface.stats.unknownCells then [.unknownSkipped surface.stats.unknownCells]
      else []) ++
    [.runClosed surface.numPoints surface.numCells]

/-- The run over a mesh without cells. -/
def emptyRun (mesh : Mesh) : Run :=
  ⟨.empty, [], [.runOpened mesh.numCells mesh.numPoints, .nothingToExtract]⟩

/-- Extracts the skin of a mesh. `poll` tells at a tick whether to stop there. -/
def run (mesh : Mesh) (options : Options) (cadence : Cadence) (poll : Nat → Bool) :
    Option Run :=
  if mesh.isEmpty then some (emptyRun mesh)
  else do
    let survey ← Survey.ofMesh mesh options
    let cells ← mesh.allCells?
    let pass ← Pass.visitAll mesh options survey cadence poll cells (.start mesh)
    let surface ← pass.assembly.finish mesh pass.counts pass.stoppedAt.isSome
    return ⟨surface, pass.reports.toList, events mesh survey pass surface⟩

end Extraction

/-- Extracts the skin under the given options, without interruption. -/
def extractSkin (mesh : Mesh) (options : Options) : Option Surface :=
  (Extraction.run mesh options.normalized .standard fun _ => false).map Run.surface

end MeshSkin
