import MeshSkin.Event
import MeshSkin.Point

/-!
# Options

What to extract: three clipping modes, each of which may be absent, whether interior
faces are shown, and up to which ghost level cells emit. A malformed clipping mode is
dropped with a warning and never makes a run fail.
-/

namespace MeshSkin

/-- The ids from `min` to `max`, both included. -/
structure IdRange where
  min : Nat
  max : Nat
  deriving DecidableEq, Repr

namespace IdRange

def contains (range : IdRange) (id : Nat) : Bool :=
  decide (range.min ≤ id) && decide (id ≤ range.max)

def isValid (range : IdRange) : Bool := decide (range.min ≤ range.max)

end IdRange

/-- The points between two corners, faces included. -/
structure Box where
  min : Point
  max : Point
  deriving DecidableEq, Repr

namespace Box

/-- The box between bounds given axis by axis. -/
def ofBounds (xmin xmax ymin ymax zmin zmax : Float) : Box :=
  ⟨⟨xmin, ymin, zmin⟩, ⟨xmax, ymax, zmax⟩⟩

def contains (box : Box) (point : Point) : Bool := box.min.allLE point && point.allLE box.max

def isValid (box : Box) : Bool := !box.min.isNaN && !box.max.isNaN && box.min.allLE box.max

end Box

structure Options where
  cellIds : Option IdRange
  pointIds : Option IdRange
  box : Option Box
  interiorFaces : Bool
  /-- Cells above this ghost level emit nothing. -/
  ghostLevel : UInt8
  /-- Number of cells above which the work of tagging may be shared out. -/
  parallelThreshold : Nat
  deriving DecidableEq, Repr

namespace Options

def defaultGhostLevel : UInt8 := 0

def defaultParallelThreshold : Nat := 65536

/-- Everything visible, no interior faces, no ghosts. -/
def standard : Options :=
  ⟨none, none, none, false, defaultGhostLevel, defaultParallelThreshold⟩

def isClipping (options : Options) : Bool :=
  options.cellIds.isSome || options.pointIds.isSome || options.box.isSome

/-- The options without their malformed clipping modes. -/
def normalized (options : Options) : Options :=
  { options with
    cellIds := options.cellIds.filter IdRange.isValid
    pointIds := options.pointIds.filter IdRange.isValid
    box := options.box.filter Box.isValid
    parallelThreshold := max options.parallelThreshold 1 }

/-- One warning for each clipping mode that `normalized` drops. -/
def warnings (options : Options) : List Event :=
  ((options.cellIds.filter fun range => !range.isValid).map fun range =>
      Event.cellRangeEmpty range.min range.max).toList ++
    ((options.pointIds.filter fun range => !range.isValid).map fun range =>
      Event.pointRangeEmpty range.min range.max).toList ++
    ((options.box.filter fun box => !box.isValid).map fun _ => Event.boxMalformed).toList

def keepsCell (options : Options) (cell : Nat) : Bool :=
  options.cellIds.all fun range => range.contains cell

def keepsPoint (options : Options) (id : Nat) (point : Point) : Bool :=
  (options.pointIds.all fun range => range.contains id) &&
    options.box.all fun box => box.contains point

end Options
end MeshSkin
