import MeshSkin.Extraction

/-!
# Traced runs

What a pass does has an order: at a tick it reports, then it reads the flag, and only then does it
visit the cell. A traced run lists its actions in this order. The flag may be raised or lowered at
any time, by whoever is told of the reports or by anyone else, so that what it shows may depend on
all that was done before.
-/

namespace MeshSkin

/-- What a pass does, as far as it is seen from outside. -/
inductive Action where
  | reported (progress : Progress)
  /-- The flag was read. -/
  | polled (answer : Bool)
  | visited (cell : Nat)
  deriving DecidableEq, Repr

/-- The report that an observer is handed, if the action is one. -/
def Action.report? : Action → Option Progress
  | .reported progress => some progress
  | _ => none

/-- What is done before a cell is visited, behind a trace, and whether the pass is to stop there. -/
def Cadence.tick (cadence : Cadence) (flag : List Action → Bool) (numCells cell : Nat)
    (trace : List Action) : List Action × Bool :=
  if cadence.ticksAt numCells cell then
    let told := trace ++ [.reported ⟨cell, numCells⟩]
    let answer := flag told
    (told ++ [.polled answer], answer)
  else (trace, false)

/-- Goes over the cells of a list and lists its actions behind a trace. `flag` tells what the flag
shows after a trace. -/
def Pass.visitAllTraced (mesh : Mesh) (options : Options) (survey : Survey) (cadence : Cadence)
    (flag : List Action → Bool) : List Cell → Pass → List Action → Option (Pass × List Action)
  | [], pass, trace => some (pass, trace)
  | cell :: rest, pass, trace =>
    let reported := pass.report cadence mesh.numCells cell.id
    let (polled, stops) := cadence.tick flag mesh.numCells cell.id trace
    if stops then some ({ reported with stoppedAt := some cell.id }, polled)
    else do
      let visited ← reported.visit mesh options survey cell
      visitAllTraced mesh options survey cadence flag rest visited (polled ++ [.visited cell.id])

/-- Extracts the skin of a mesh, with the trace of the pass. -/
def Extraction.runTraced (mesh : Mesh) (options : Options) (cadence : Cadence)
    (flag : List Action → Bool) : Option (Run × List Action) :=
  if mesh.isEmpty then some (emptyRun mesh, [])
  else do
    let survey ← Survey.ofMesh mesh options
    let cells ← mesh.allCells?
    let (pass, trace) ←
      Pass.visitAllTraced mesh options survey cadence flag cells (.start mesh) []
    let surface ← pass.assembly.finish mesh pass.counts pass.stoppedAt.isSome
    return (⟨surface, pass.reports.toList, events mesh survey pass surface⟩, trace)

end MeshSkin
