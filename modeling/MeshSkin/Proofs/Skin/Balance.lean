import Mathlib.Algebra.BigOperators.Group.List.Basic
import Mathlib.Algebra.GroupWithZero.Nat
import MeshSkin.Proofs.Skin.Reveal

/-!
# Lost and revealed primitives

How the number of primitives changes when the options hide more cells or show interior faces. A
cell that is no longer extracted takes its primitives with it; a cell that still is adds those of
its revealed faces. Nothing else changes (`Reveals.size_add_lost`).
-/

namespace MeshSkin

/-- The number of primitives of a piece. -/
def Piece.size : Piece → Nat
  | .primitive _ _ => 1
  | .quad _ => Subdivision.quadSplit.length

namespace Skin

variable {mesh : Mesh} {options first second : Options} {cell : Cell}

def countPrimitives (pieces : List Piece) : Nat := (pieces.map Piece.size).sum

theorem length_primitives (source centre : Nat) (pieces : List Piece) :
    (primitives source centre pieces).length = countPrimitives pieces := by
  induction pieces generalizing centre with
  | nil => rfl
  | cons piece rest ih =>
    rw [primitives, List.length_append, ih, countPrimitives, countPrimitives, List.map_cons,
      List.sum_cons, List.length_map]
    cases piece <;> rfl

theorem countPrimitives_append (pieces more : List Piece) :
    countPrimitives (pieces ++ more) = countPrimitives pieces + countPrimitives more := by
  unfold countPrimitives
  rw [List.map_append, List.sum_append]

theorem countPrimitives_perm {pieces others : List Piece} (h : pieces.Perm others) :
    countPrimitives pieces = countPrimitives others :=
  (h.map Piece.size).sum_nat

section Sizes

variable (mesh : Mesh) (options first second : Options)

/-- The number of primitives of the skin. -/
def size : Nat :=
  (mesh.cellList.map fun cell => countPrimitives (emitted mesh options cell)).sum

/-- The faces that are hidden under the first options and kept under the second. -/
def revealedFaces (cell : Cell) : List (List Nat) :=
  (faces cell).filter fun face => !isKept mesh first cell face && isKept mesh second cell face

/-- The number of primitives under the first options that come from cells which are not extracted
under the second. -/
def lost : Nat :=
  (mesh.cellList.map fun cell =>
    if isExtracted mesh second cell then 0 else countPrimitives (emitted mesh first cell)).sum

/-- The number of primitives that the revealed faces of the cells extracted under the second options
become. -/
def revealed : Nat :=
  (mesh.cellList.map fun cell =>
    if isExtracted mesh second cell then
      countPrimitives ((revealedFaces mesh first second cell).flatMap (facePieces cell.kind))
    else 0).sum

end Sizes

namespace Reveals

/-- The kept faces are those of before and the revealed ones. -/
theorem keptFaces_perm (reveals : Reveals mesh first second) (cell : Cell) :
    (keptFaces mesh second cell).Perm
      (keptFaces mesh first cell ++ revealedFaces mesh first second cell) := by
  have before : (keptFaces mesh second cell).filter (Skin.isKept mesh first cell) =
      keptFaces mesh first cell := by
    unfold keptFaces
    rw [List.filter_filter]
    apply List.filter_congr
    intro face _
    cases kept : Skin.isKept mesh first cell face with
    | false => rfl
    | true => rw [reveals.isKept kept]; rfl
  have parted := List.filter_append_perm (Skin.isKept mesh first cell) (keptFaces mesh second cell)
  rw [before, keptFaces.eq_def mesh second, List.filter_filter, ← revealedFaces] at parted
  exact parted.symm

/-- A cell that is still extracted adds the primitives of its revealed faces. -/
theorem countPrimitives_pieces (reveals : Reveals mesh first second) (cell : Cell) :
    countPrimitives (pieces mesh second cell) = countPrimitives (pieces mesh first cell) +
      countPrimitives ((revealedFaces mesh first second cell).flatMap (facePieces cell.kind)) := by
  cases solid : cell.kind.faceTable? with
  | some table =>
    rw [pieces_of_solid solid, pieces_of_solid solid,
      countPrimitives_perm ((reveals.keptFaces_perm cell).flatMap_right _), List.flatMap_append,
      countPrimitives_append]
  | none =>
    have none : revealedFaces mesh first second cell = [] := by
      rw [revealedFaces, faces, solid]
      rfl
    rw [none, pieces_of_flat solid]
    rfl

/-- What the skin has under the second options and what it lost is what it had under the first
and what was revealed. -/
theorem size_add_lost (reveals : Reveals mesh first second) :
    size mesh second + lost mesh first second = size mesh first + revealed mesh first second := by
  unfold size lost revealed
  rw [← List.sum_map_add, ← List.sum_map_add]
  refine congrArg List.sum (List.map_congr_left fun cell listed => ?_)
  by_cases extracted : Skin.isExtracted mesh second cell = true
  · rw [if_pos extracted, if_pos extracted, emitted, if_pos extracted, emitted,
      if_pos (reveals.isExtracted listed extracted), Nat.add_zero, reveals.countPrimitives_pieces]
  · rw [if_neg extracted, if_neg extracted, emitted.eq_def mesh second, if_neg extracted,
      Nat.add_zero]
    exact Nat.zero_add _

end Reveals

/-- With interior faces shown under the first options, nothing can be revealed. -/
theorem revealed_eq_zero (shown : first.interiorFaces = true) : revealed mesh first second = 0 := by
  have none : ∀ cell, revealedFaces mesh first second cell = [] := by
    intro cell
    unfold revealedFaces
    rw [List.filter_eq_nil_iff]
    intro face _
    simp [isKept, shown]
  unfold revealed
  simp only [none, List.flatMap_nil]
  simp [countPrimitives]

end Skin
end MeshSkin
