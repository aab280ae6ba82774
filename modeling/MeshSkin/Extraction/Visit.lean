import MeshSkin.Extraction.Piece
import MeshSkin.Surface.Assembly

/-!
# Visiting a cell

What becomes of each cell a pass reaches: it is skipped as a ghost, skipped as clipped,
or extracted with its contribution. Counts follow from that alone, and so does what is
handed to the assembly.
-/

namespace MeshSkin

inductive Fate where
  | ghost
  | clipped
  | extracted (contribution : Contribution)
  deriving DecidableEq, Repr

structure Visit where
  cell : Cell
  fate : Fate
  deriving DecidableEq, Repr

/-- The ghost level of a cell exceeds the one up to which cells emit. -/
def Survey.isGhost? (survey : Survey) (ghostLevel : UInt8) (cell : Nat) : Option Bool :=
  match survey.ghostLevels with
  | none => some false
  | some levels => levels[cell]?.map fun level => decide (ghostLevel < level)

namespace Visit

/-- What becomes of one cell; being a ghost comes before being clipped. -/
def ofCell (options : Options) (survey : Survey) (cell : Cell) : Option Visit := do
  if ← survey.isGhost? options.ghostLevel cell.id then
    return ⟨cell, .ghost⟩
  else if ← survey.visibility.isVisible? cell.id then
    let contribution ← Contribution.ofCell survey options.interiorFaces cell
    return ⟨cell, .extracted contribution⟩
  else
    return ⟨cell, .clipped⟩

def pieces (visit : Visit) : List Piece :=
  match visit.fate with
  | .extracted contribution => contribution.pieces
  | _ => []

def stats (visit : Visit) : Stats :=
  match visit.fate with
  | .ghost => { Stats.zero with cellsVisited := 1, ghostCells := 1 }
  | .clipped => { Stats.zero with cellsVisited := 1, cellsClipped := 1 }
  | .extracted contribution =>
    { Stats.zero with
      cellsVisited := 1
      cellsExtracted := 1
      emptyCells := (visit.cell.kind.treatment == .skip).toNat
      unknownCells := (visit.cell.kind.treatment == .unknown).toNat
      cellsTessellated := visit.cell.kind.isQuadratic.toNat
      facesEmitted := contribution.facesEmitted
      facesSuppressed := contribution.facesSuppressed }

end Visit

namespace Assembly

/-- Emits one piece of a cell; a quad first gets its centre. -/
def place (mesh : Mesh) (source : Nat) (assembly : Assembly) : Piece → Option Assembly
  | .primitive bucket ids => some (assembly.emit bucket source ids)
  | .quad ids => do
    let point ← Subdivision.centre? mesh ids
    let (centre, assembly) := assembly.addPoint point
    let triangles ← Subdivision.quad? ids centre
    return assembly.emitAll .polys source triangles

/-- Emits everything that one visit found. -/
def placeVisit (mesh : Mesh) (assembly : Assembly) (visit : Visit) : Option Assembly :=
  visit.pieces.foldlM (place mesh visit.cell.id) assembly

end Assembly
end MeshSkin
