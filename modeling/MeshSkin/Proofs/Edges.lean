import Mathlib.Algebra.BigOperators.Fin
import Mathlib.Data.List.Rotate
import Mathlib.Data.Prod.Basic
import MeshSkin.Proofs.Skin

/-!
# Edges of closed walks

A polygon is a closed walk over point ids. The flow of a list of edges along a pair of ids
counts the edges from the first to the second less those in the other direction: it adds up
over lists, and turning a walk around changes its sign. A surface is closed and consistently
oriented when no pair has a flow.
-/

namespace MeshSkin

open Prod (swap)

/-- The edges of a closed walk. -/
def edges (walk : List Nat) : List (Nat × Nat) := walk.zip (walk.rotate 1)

/-- The edges from `a` to `b` less those from `b` to `a`. -/
def flow (list : List (Nat × Nat)) (a b : Nat) : Int := list.count (a, b) - list.count (b, a)

/-- Every edge occurs as often as the edge in the other direction. -/
def Balanced (list : List (Nat × Nat)) : Prop := ∀ a b, list.count (a, b) = list.count (b, a)

section Flow

variable {list other : List (Nat × Nat)} {a b : Nat}

theorem balanced_iff_flow : Balanced list ↔ ∀ a b, flow list a b = 0 := by
  constructor
  · intro balanced a b
    unfold flow
    rw [balanced a b, Int.sub_self]
  · intro still a b
    have none := still a b
    unfold flow at none
    omega

theorem flow_append : flow (list ++ other) a b = flow list a b + flow other a b := by
  unfold flow
  simp only [List.count_append]
  omega

theorem flow_perm (h : list.Perm other) : flow list a b = flow other a b := by
  unfold flow
  rw [h.count_eq, h.count_eq]

theorem count_map_swap : (list.map swap).count (a, b) = list.count (b, a) :=
  List.count_map_of_injective list swap Prod.swap_injective (b, a)

theorem flow_map_swap : flow (list.map swap) a b = -flow list a b := by
  unfold flow
  rw [count_map_swap, count_map_swap]
  omega

/-- Edges that come in both directions have no flow, whatever ids their ends stand for. -/
theorem flow_map_eq_zero (h : list.Perm (list.map swap)) (f : Nat → Nat) :
    flow (list.map (Prod.map f f)) a b = 0 := by
  have turned : (list.map (Prod.map f f)).map swap = (list.map swap).map (Prod.map f f) := by
    rw [List.map_map, List.map_map]
    rfl
  have same : flow (list.map (Prod.map f f)) a b = -flow (list.map (Prod.map f f)) a b := by
    rw [← flow_map_swap, turned]
    exact flow_perm (h.map _)
  omega

theorem flow_flatMap {α : Type} (items : List α) (f : α → List (Nat × Nat)) :
    flow (items.flatMap f) a b = (items.map fun item => flow (f item) a b).sum := by
  induction items with
  | nil => rfl
  | cons item rest ih => rw [List.flatMap_cons, flow_append, ih, List.map_cons, List.sum_cons]

theorem flow_flatMap_congr {α : Type} {items : List α} {f g : α → List (Nat × Nat)}
    (h : ∀ item ∈ items, flow (f item) a b = flow (g item) a b) :
    flow (items.flatMap f) a b = flow (items.flatMap g) a b := by
  rw [flow_flatMap, flow_flatMap, List.map_congr_left h]

end Flow

section Walks

theorem edges_map (f : Nat → Nat) (walk : List Nat) :
    edges (walk.map f) = (edges walk).map (Prod.map f f) := by
  unfold edges
  rw [← List.map_rotate, List.zip_map]

/-- It does not matter where a closed walk starts. -/
theorem edges_rotate (walk : List Nat) (start : Nat) :
    edges (walk.rotate start) = (edges walk).rotate start := by
  have next : (walk.rotate start).rotate 1 = (walk.rotate 1).rotate start := by
    rw [List.rotate_rotate, List.rotate_rotate, Nat.add_comm]
  unfold edges
  rw [next, List.zip_eq_zipWith, List.zip_eq_zipWith,
    List.zipWith_rotate_distrib _ _ _ _ (List.length_rotate walk 1).symm]

theorem edges_isRotated {walk other : List Nat} (h : walk ~r other) :
    (edges walk).Perm (edges other) := by
  obtain ⟨start, rfl⟩ := h
  rw [edges_rotate]
  exact (List.rotate_perm _ _).symm

/-- A walk backwards has the edges in the other direction. -/
theorem edges_reverse (walk : List Nat) : (edges walk.reverse).Perm ((edges walk).map swap) := by
  have back : (walk.rotate 1).reverse.rotate 1 = walk.reverse := by
    cases walk with
    | nil => rfl
    | cons first rest => simp
  have turned : edges (walk.rotate 1).reverse = ((edges walk).map swap).reverse := by
    unfold edges
    rw [back, List.zip_swap, List.zip_eq_zipWith, List.zip_eq_zipWith,
      List.reverse_zipWith (List.length_rotate walk 1)]
  have start : (walk.rotate 1).reverse ~r walk.reverse := ⟨1, back⟩
  apply (edges_isRotated start).symm.trans
  rw [turned]
  exact List.reverse_perm _

theorem flow_edges_of_isRotated_reverse {walk other : List Nat} (h : other ~r walk.reverse)
    (a b : Nat) : flow (edges other) a b = -flow (edges walk) a b := by
  rw [flow_perm (edges_isRotated h), flow_perm (edges_reverse walk), flow_map_swap]

/-- Walks that come in pairs of opposite directions have no flow together. -/
theorem flow_eq_zero_of_partners {walks : List (List Nat)} (partner : Equiv.Perm (Fin walks.length))
    (opposite : ∀ i, walks[partner i] ~r walks[i].reverse) (a b : Nat) :
    flow (walks.flatMap edges) a b = 0 := by
  have total : flow (walks.flatMap edges) a b = ∑ i : Fin walks.length, flow (edges walks[i]) a b := by
    rw [flow_flatMap, ← Fin.sum_univ_fun_getElem]
    rfl
  have turned : ∑ i : Fin walks.length, flow (edges walks[partner i]) a b =
      -∑ i : Fin walks.length, flow (edges walks[i]) a b := by
    rw [← Finset.sum_neg_distrib]
    exact Finset.sum_congr rfl fun i _ => flow_edges_of_isRotated_reverse (opposite i) a b
  have same := Equiv.sum_comp partner fun i => flow (edges walks[i]) a b
  rw [total]
  omega

end Walks
end MeshSkin
