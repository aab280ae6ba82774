import MeshSkin.Visibility

/-!
# Tagging in parts

The tags of many cells are made in parts. A range of cells is either tagged by one worker from its
first cell to its last, or cut in two parts that are tagged apart, each possibly cut further, and
put together in their order. How the ranges are cut is up to the workers.
-/

namespace MeshSkin

/-- How a range of cells is shared out among workers. -/
inductive Sharing where
  | alone
  | split (front : Nat) (first second : Sharing)
  deriving DecidableEq, Repr

namespace Visibility

/-- The tags of `count` cells from `first` on; no part has more cells than there are. -/
def tagRange (mesh : Mesh) (options : Options) : Sharing → Nat → Nat → Option (List Bool)
  | .alone, first, count => (List.range' first count).mapM (keepsCell? mesh options)
  | .split front one other, first, count => do
    let early ← tagRange mesh options one first (min front count)
    let late ← tagRange mesh options other (first + min front count) (count - min front count)
    return early ++ late

/-- Tags every cell, unless nothing is clipped; the work is shared out if there are more cells than
the options allow for one worker. -/
def classifyShared (sharing : Sharing) (mesh : Mesh) (options : Options) : Option Visibility :=
  if options.isClipping then
    let plan := if options.parallelThreshold < mesh.numCells then sharing else .alone
    (tagRange mesh options plan 0 mesh.numCells).map fun tags => .tagged tags.toArray
  else some .all

end Visibility
end MeshSkin
