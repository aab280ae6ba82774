import MeshSkin.Connectivity.Offsets
import MeshSkin.Slice

/-!
# Connectivity

A list of cells, each a list of point ids, packed into one flat array of ids and the
offsets that cut it. A connectivity always has offsets that fit: those from outside are
checked, and every operation here keeps the fit.
-/

namespace MeshSkin

structure Connectivity where
  offsets : Array Nat
  ids : Array Nat
  fit : OffsetsFit offsets ids
  deriving DecidableEq, Repr

namespace Connectivity

/-- No cells. -/
def empty : Connectivity := ⟨#[0], #[], .empty⟩

instance : Inhabited Connectivity := ⟨empty⟩

/-- The number of cells. -/
def size (cells : Connectivity) : Nat := cells.offsets.size - 1

/-- Packs given offsets and ids, if the offsets fit. -/
def ofOffsets (offsets ids : Array Nat) : Except OffsetsFault Connectivity :=
  match accepted : checkOffsets offsets ids with
  | .ok () => .ok ⟨offsets, ids, checkOffsets_eq_ok_iff.1 accepted⟩
  | .error fault => .error fault

/-- Appends one cell. -/
def push (cells : Connectivity) (cell : List Nat) : Connectivity :=
  ⟨cells.offsets.push (cells.ids.size + cell.length), cells.ids ++ cell, cells.fit.push cell⟩

/-- Appends one cell and tells its index. -/
def add (cells : Connectivity) (cell : List Nat) : Nat × Connectivity :=
  (cells.size, cells.push cell)

def ofLists (lists : List (List Nat)) : Connectivity := lists.foldl push empty

/-- The ids of cell `i`, if there is such a cell. -/
def cell? (cells : Connectivity) (i : Nat) : Option (List Nat) := do
  let lo ← cells.offsets[i]?
  let hi ← cells.offsets[i + 1]?
  slice? cells.ids lo hi

/-- The parts of `ids` between neighbouring offsets. -/
def segments (ids : Array Nat) : List Nat → List (List Nat)
  | lo :: hi :: rest => (ids.extract lo hi).toList :: segments ids (hi :: rest)
  | _ => []

/-- All cells, in order. -/
def toLists (cells : Connectivity) : List (List Nat) :=
  segments cells.ids cells.offsets.toList

end Connectivity
end MeshSkin
