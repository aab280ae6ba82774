import MeshSkin.Mesh
import MeshSkin.Options

/-!
# Visibility

A cell is visible when it passes every clipping mode in force: its id lies in the cell
range, and each of its points lies in the point range and in the box. Ghost levels play
no part: a ghost still hides the face it shares.
-/

namespace MeshSkin

inductive Visibility where
  | all
  | tagged (tags : Array Bool)
  deriving DecidableEq, Repr

namespace Visibility

/-- All points of a cell pass the modes about points. -/
def keepsPoints? (mesh : Mesh) (options : Options) : List Nat → Option Bool
  | [] => some true
  | id :: rest => do
    let point ← mesh.point? id
    if options.keepsPoint id point then keepsPoints? mesh options rest else some false

/-- One cell passes every mode. -/
def keepsCell? (mesh : Mesh) (options : Options) (cell : Nat) : Option Bool :=
  if options.keepsCell cell then
    if options.pointIds.isSome || options.box.isSome then do
      let ids ← mesh.cell? cell
      keepsPoints? mesh options ids
    else some true
  else some false

/-- Tags every cell, unless nothing is clipped. -/
def classify (mesh : Mesh) (options : Options) : Option Visibility :=
  if options.isClipping then
    ((List.range mesh.numCells).mapM (keepsCell? mesh options)).map fun tags =>
      .tagged tags.toArray
  else some .all

/-- Whether a cell is visible, if there is a tag for it. -/
def isVisible? (visibility : Visibility) (cell : Nat) : Option Bool :=
  match visibility with
  | .all => some true
  | .tagged tags => tags[cell]?

/-- Some cell of the list is visible; the cells after it are not looked at. -/
def anyVisible? (visibility : Visibility) : List Nat → Option Bool
  | [] => some false
  | cell :: rest => do
    if ← visibility.isVisible? cell then some true else visibility.anyVisible? rest

/-- The number of visible cells of a mesh with `numCells` cells. -/
def count (visibility : Visibility) (numCells : Nat) : Nat :=
  match visibility with
  | .all => numCells
  | .tagged tags => tags.toList.countP id

end Visibility
end MeshSkin
