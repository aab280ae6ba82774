import MeshSkin.Extraction.Visit

/-!
# The pass over the cells

One pass in increasing id order. At every tick of the cadence the pass reports its progress
and then asks whether to stop; a pass that is asked to stop keeps what it has and leaves the
cell of the tick and all later ones alone.
-/

namespace MeshSkin

/-- What a pass carries from cell to cell. -/
structure Pass where
  assembly : Assembly
  stats : Stats
  reports : Array Progress
  /-- The cell before which the pass was stopped. -/
  stoppedAt : Option Nat
  deriving DecidableEq, Repr

namespace Pass

/-- Before the first cell of a mesh. -/
def start (mesh : Mesh) : Pass := ⟨.empty mesh.numPoints mesh.numCells, .zero, #[], none⟩

/-- Reports progress if there is a tick at the cell. -/
def report (cadence : Cadence) (numCells cell : Nat) (pass : Pass) : Pass :=
  if cadence.ticksAt numCells cell then
    { pass with reports := pass.reports.push ⟨cell, numCells⟩ }
  else pass

/-- Visits one cell and emits what it contributes. -/
def visit (mesh : Mesh) (options : Options) (survey : Survey) (pass : Pass) (cell : Cell) :
    Option Pass := do
  let visit ← Visit.ofCell options survey cell
  let assembly ← pass.assembly.placeVisit mesh visit
  return { pass with assembly, stats := pass.stats.add visit.stats }

/-- Goes over the cells of a list. `poll` tells at a tick whether to stop there. -/
def visitAll (mesh : Mesh) (options : Options) (survey : Survey) (cadence : Cadence)
    (poll : Nat → Bool) : List Cell → Pass → Option Pass
  | [], pass => some pass
  | cell :: rest, pass =>
    let reported := pass.report cadence mesh.numCells cell.id
    if cadence.ticksAt mesh.numCells cell.id && poll cell.id then
      some { reported with stoppedAt := some cell.id }
    else do
      let visited ← reported.visit mesh options survey cell
      visitAll mesh options survey cadence poll rest visited

/-- The counts of a pass, with the points made along the way. -/
def counts (pass : Pass) : Stats :=
  { pass.stats with pointsSynthesized := pass.assembly.numNewPoints }

end Pass
end MeshSkin
