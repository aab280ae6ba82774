import MeshSkin.Progress

/-!
# Events of a run

What a run, or the clean-up of its options, has to tell. Each event has a level, a
message and a few numbers that are kept apart from the message.
-/

namespace MeshSkin

inductive Level where
  | span
  | warn
  | info
  | debug
  | trace
  deriving DecidableEq, Repr

namespace Level

def name : Level → String
  | .span => "SPAN"
  | .warn => "WARN"
  | .info => "INFO"
  | .debug => "DEBUG"
  | .trace => "TRACE"

end Level

inductive Event where
  | cellRangeEmpty (min max : Nat)
  | pointRangeEmpty (min max : Nat)
  | boxMalformed
  | runOpened (numCells numPoints : Nat)
  | nothingToExtract
  | noGhostLevels
  | cellsPassed (visible numCells : Nat)
  | cellsIndexed (numPoints : Nat)
  | ticked (progress : Progress)
  | runAborted (progress : Progress) (primitives : Nat)
  | unknownSkipped (count : Nat)
  | runClosed (numPoints numPrimitives : Nat)
  deriving DecidableEq, Repr

namespace Event

def level : Event → Level
  | .runOpened .. => .span
  | .cellRangeEmpty .. | .pointRangeEmpty .. | .boxMalformed | .runAborted .. => .warn
  | .runClosed .. => .info
  | .ticked .. => .trace
  | .nothingToExtract | .noGhostLevels | .cellsPassed .. | .cellsIndexed ..
  | .unknownSkipped .. => .debug

def message : Event → String
  | .cellRangeEmpty .. => "cell id range is empty, clipping disabled"
  | .pointRangeEmpty .. => "point id range is empty, clipping disabled"
  | .boxMalformed => "bounding box is malformed, clipping disabled"
  | .runOpened .. => "skin_extract"
  | .nothingToExtract => "No cells to extract"
  | .noGhostLevels => "No usable ghost level array, every cell is owned"
  | .cellsPassed visible numCells => s!"{visible} of {numCells} cells pass clipping"
  | .cellsIndexed numPoints => s!"Indexed cells of {numPoints} points"
  | .ticked progress => s!"Progress {progress.percent}%"
  | .runAborted progress primitives =>
    s!"Extraction aborted at cell {progress.cell} of {progress.numCells}, "
      ++ s!"keeping {primitives} primitives"
  | .unknownSkipped count => s!"Skipped {count} cells of unknown type"
  | .runClosed numPoints numPrimitives =>
    s!"Extracted {numPoints} points, {numPrimitives} cells"

def fields : Event → List (String × Nat)
  | .cellRangeEmpty min max | .pointRangeEmpty min max => [("min", min), ("max", max)]
  | .runOpened numCells numPoints => [("cells", numCells), ("points", numPoints)]
  | _ => []

end Event
end MeshSkin
