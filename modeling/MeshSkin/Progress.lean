import MeshSkin.Rounding

/-!
# Progress and interruption

A pass over the cells reports at a fixed cadence and looks at the same moments at a
flag that asks it to stop. The cadence divides a pass into a positive number of parts,
so that the interval between two ticks is never zero.
-/

namespace MeshSkin

/-- A cadence of no parts at all. -/
structure CadenceError where
  divisions : Nat
  deriving DecidableEq, Repr

namespace CadenceError

def message (error : CadenceError) : String :=
  s!"progress_divisions must be >= 1: {error.divisions}"

end CadenceError

/-- How many parts a pass is reported in. -/
structure Cadence where
  divisions : Nat
  divisions_pos : 0 < divisions
  deriving DecidableEq, Repr

namespace Cadence

/-- Twenty parts: a report roughly every twentieth of the cells. -/
def standard : Cadence := ⟨20, by decide⟩

def ofDivisions (divisions : Nat) : Except CadenceError Cadence :=
  if h : 0 < divisions then .ok ⟨divisions, h⟩ else .error ⟨divisions⟩

/-- The number of cells from one tick to the next. -/
def interval (cadence : Cadence) (numCells : Nat) : Nat := numCells / cadence.divisions + 1

theorem interval_pos (cadence : Cadence) (numCells : Nat) : 0 < cadence.interval numCells :=
  Nat.succ_pos _

/-- Whether a pass over `numCells` cells ticks at a cell. -/
def ticksAt (cadence : Cadence) (numCells cell : Nat) : Bool :=
  cell % cadence.interval numCells == 0

end Cadence

/-- How far a pass has come. -/
structure Progress where
  cell : Nat
  numCells : Nat
  deriving DecidableEq, Repr

namespace Progress

/-- The finished part of the pass; nothing is finished where there is nothing to do. -/
def fraction (progress : Progress) : Float :=
  if progress.numCells = 0 then 0.0
  else floatOfInt progress.cell / floatOfInt progress.numCells

/-- The finished part in whole hundredths, a tie going to the even number. -/
def percent (progress : Progress) : Int := roundInto .toEven 0 100 (progress.fraction * 100.0)

end Progress

/-- Flags, each with any number of handles: `handles[i]` is the flag that handle `i`
stands for. -/
structure FlagBoard where
  raised : Array Bool
  handles : Array Nat
  deriving DecidableEq, Repr

namespace FlagBoard

def empty : FlagBoard := ⟨#[], #[]⟩

/-- A handle of a new flag, which is down. -/
def fresh (board : FlagBoard) : FlagBoard :=
  ⟨board.raised.push false, board.handles.push board.raised.size⟩

/-- One more handle of the flag of handle `i`. -/
def share (board : FlagBoard) (i : Nat) : Option FlagBoard :=
  board.handles[i]?.map fun flag => { board with handles := board.handles.push flag }

/-- Raises or lowers the flag of handle `i`. -/
def put (board : FlagBoard) (i : Nat) (up : Bool) : Option FlagBoard :=
  board.handles[i]?.map fun flag => { board with raised := board.raised.setIfInBounds flag up }

/-- What each handle shows. -/
def shown (board : FlagBoard) : List Bool :=
  board.handles.toList.map fun flag => board.raised.getD flag false

end FlagBoard
end MeshSkin
