import MeshSkin.Extraction

/-!
# Extractors

An extractor keeps options, a cadence and a flag from one run to the next. The flag asks
every run to stop at its next tick while it is up. A run may come with a watcher that
raises the flag at the first tick from a given cell on; the flag then stays up.
-/

namespace MeshSkin

structure Extractor where
  options : Options
  cadence : Cadence
  raised : Bool
  deriving DecidableEq, Repr

namespace Extractor

/-- An extractor without malformed options, its flag down. -/
def ofOptions (options : Options) : Extractor := ⟨options.normalized, .standard, false⟩

/-- Whether a watcher that raises the flag from a given cell on does so at a tick. -/
def raisesAt (raiseFrom : Option Nat) (tick : Nat) : Bool :=
  raiseFrom.any fun cell => decide (cell ≤ tick)

/-- Runs once and tells how the flag is left. -/
def run (extractor : Extractor) (mesh : Mesh) (raiseFrom : Option Nat) :
    Option (Run × Extractor) :=
  (Extraction.run mesh extractor.options extractor.cadence fun tick =>
      extractor.raised || raisesAt raiseFrom tick).map fun result =>
    let met := result.reports.any fun report => raisesAt raiseFrom report.cell
    (result, { extractor with raised := extractor.raised || met })

private def braced (name : String) (fields : List String) : String :=
  name ++ " \x7b " ++ ", ".intercalate fields ++ " \x7d"

private def optional (value : Option String) : String :=
  match value with
  | none => "None"
  | some text => s!"Some({text})"

private def describeRange (range : IdRange) : String :=
  braced "IdRange" [s!"min: {range.min}", s!"max: {range.max}"]

/-- The options as text. A box is named but its corners are not shown. -/
def describeOptions (options : Options) : String :=
  braced "FilterConfig" [
    "cell_id_range: " ++ optional (options.cellIds.map describeRange),
    "point_id_range: " ++ optional (options.pointIds.map describeRange),
    "bounding_box: " ++ optional (options.box.map fun _ => "Extent"),
    s!"show_interior_faces: {options.interiorFaces}",
    s!"ghost_update_level: {options.ghostLevel}",
    s!"parallel_threshold: {options.parallelThreshold}"]

/-- The extractor as text. -/
def describe (extractor : Extractor) : String :=
  braced "SkinFilter" [
    "config: " ++ describeOptions extractor.options,
    "global: " ++
      braced "GlobalConfig" [s!"progress_divisions: {extractor.cadence.divisions}"],
    "observer: false",
    s!"abort: AbortFlag({extractor.raised})"]

end Extractor
end MeshSkin
