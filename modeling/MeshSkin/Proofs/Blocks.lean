import Mathlib.Data.Nat.Find
import Mathlib.Logic.Equiv.Defs
import Mathlib.Order.Monotone.Basic

/-!
# Blocks of ids in another order

Ids that were handed out block after block: block `i` holds those from `first i` up to
`first (i + 1)`. When the same blocks are handed out in another order, every id moves along with
its block, and these moves are a permutation of the ids (`Blocks.Reordered.perm`).
-/

namespace MeshSkin

structure Blocks where
  count : Nat
  /-- The first id of each block; that of block `count` is the first id behind all blocks. -/
  first : Nat → Nat
  monotone : Monotone first

namespace Blocks

variable {blocks other : Blocks} {σ : Equiv.Perm Nat}

def size (blocks : Blocks) (block : Nat) : Nat := blocks.first (block + 1) - blocks.first block

/-- The block of an id: the last one that starts at or before it. -/
def owner (blocks : Blocks) (id : Nat) : Nat :=
  Nat.findGreatest (fun block => blocks.first block ≤ id) blocks.count

/-- Every id in the blocks is in that of its owner. -/
theorem owner_spec {id : Nat} (low : blocks.first 0 ≤ id) (high : id < blocks.first blocks.count) :
    blocks.owner id < blocks.count ∧ blocks.first (blocks.owner id) ≤ id ∧
      id < blocks.first (blocks.owner id + 1) := by
  have starts : blocks.first (blocks.owner id) ≤ id :=
    Nat.findGreatest_spec (P := fun block => blocks.first block ≤ id) (Nat.zero_le _) low
  have before : blocks.owner id < blocks.count := by
    refine Nat.lt_of_le_of_ne (Nat.findGreatest_le _) fun last => ?_
    rw [last] at starts
    omega
  have ends : ¬ blocks.first (blocks.owner id + 1) ≤ id :=
    Nat.findGreatest_is_greatest (P := fun block => blocks.first block ≤ id)
      (Nat.lt_succ_self _) before
  exact ⟨before, starts, Nat.lt_of_not_le ends⟩

/-- Blocks do not overlap. -/
theorem owner_eq {block id : Nat} (h : block < blocks.count) (low : blocks.first block ≤ id)
    (high : id < blocks.first (block + 1)) : blocks.owner id = block := by
  have start : blocks.first 0 ≤ blocks.first block := blocks.monotone (Nat.zero_le _)
  have stop : blocks.first (block + 1) ≤ blocks.first blocks.count := blocks.monotone h
  obtain ⟨_, starts, ends⟩ := owner_spec (Nat.le_trans start low) (Nat.lt_of_lt_of_le high stop)
  rcases Nat.lt_trichotomy (blocks.owner id) block with early | same | late
  · have behind : blocks.first (blocks.owner id + 1) ≤ blocks.first block := blocks.monotone early
    omega
  · exact same
  · have behind : blocks.first (block + 1) ≤ blocks.first (blocks.owner id) := blocks.monotone late
    omega

/-- Every id in the blocks has a place in one of them. -/
theorem exists_place {id : Nat} (low : blocks.first 0 ≤ id)
    (high : id < blocks.first blocks.count) :
    ∃ block < blocks.count, ∃ k < blocks.size block, id = blocks.first block + k := by
  obtain ⟨before, starts, ends⟩ := owner_spec low high
  refine ⟨_, before, id - blocks.first (blocks.owner id), ?_, by omega⟩
  unfold size
  omega

/-- The blocks of the second kind are those of the first, block `i` as block `σ i`. -/
structure Reordered (blocks other : Blocks) (σ : Equiv.Perm Nat) : Prop where
  count_eq : other.count = blocks.count
  lt_iff : ∀ block, σ block < blocks.count ↔ block < blocks.count
  start_eq : other.first 0 = blocks.first 0
  stop_eq : other.first other.count = blocks.first blocks.count
  size_eq : ∀ block < blocks.count, other.size (σ block) = blocks.size block

/-- Moves an id along with its block. -/
def move (blocks other : Blocks) (σ : Equiv.Perm Nat) (id : Nat) : Nat :=
  if blocks.first 0 ≤ id ∧ id < blocks.first blocks.count then
    other.first (σ (blocks.owner id)) + (id - blocks.first (blocks.owner id))
  else id

theorem move_add {block k : Nat} (h : block < blocks.count) (inside : k < blocks.size block) :
    move blocks other σ (blocks.first block + k) = other.first (σ block) + k := by
  have low : blocks.first 0 ≤ blocks.first block := blocks.monotone (Nat.zero_le _)
  have high : blocks.first (block + 1) ≤ blocks.first blocks.count := blocks.monotone h
  unfold size at inside
  have owned : blocks.owner (blocks.first block + k) = block := owner_eq h (by omega) (by omega)
  rw [move, if_pos (by omega), owned, Nat.add_sub_cancel_left]

/-- Ids outside the blocks stay. -/
theorem move_of_outside {id : Nat} (outside : id < blocks.first 0 ∨ blocks.first blocks.count ≤ id) :
    move blocks other σ id = id := by
  rw [move, if_neg (by omega)]

/-- If every block can only grow, the moves of the ids keep their order. -/
theorem move_lt_move (start : blocks.first 0 ≤ other.first 0)
    (grows : ∀ block < blocks.count, blocks.size block ≤ other.size block) {early late : Nat}
    (h : early < late) (inside : late < blocks.first blocks.count) :
    move blocks other (Equiv.refl Nat) early < move blocks other (Equiv.refl Nat) late := by
  by_cases outside : late < blocks.first 0
  · rwa [move_of_outside (Or.inl outside), move_of_outside (Or.inl (Nat.lt_trans h outside))]
  · obtain ⟨block, bound, k, offset, rfl⟩ := exists_place (Nat.le_of_not_lt outside) inside
    have behind : other.first 0 ≤ other.first block := other.monotone (Nat.zero_le _)
    rw [move_add bound offset, Equiv.refl_apply]
    by_cases fixed : early < blocks.first 0
    · rw [move_of_outside (Or.inl fixed)]
      omega
    · obtain ⟨block', bound', k', offset', rfl⟩ :=
        exists_place (Nat.le_of_not_lt fixed) (Nat.lt_trans h inside)
      rw [move_add bound' offset', Equiv.refl_apply]
      rcases Nat.lt_trichotomy block' block with before | rfl | after
      · -- The earlier block ends before the later one starts, also after both have grown.
        have stop : other.first (block' + 1) ≤ other.first block := other.monotone before
        have grown := grows block' bound'
        unfold size at offset' grown
        omega
      · omega
      · have stop : blocks.first (block + 1) ≤ blocks.first block' := blocks.monotone after
        unfold size at offset
        omega

namespace Reordered

theorem symm (reordered : Reordered blocks other σ) : Reordered other blocks σ.symm where
  count_eq := reordered.count_eq.symm
  lt_iff block := by
    rw [reordered.count_eq, ← reordered.lt_iff, σ.apply_symm_apply]
  start_eq := reordered.start_eq.symm
  stop_eq := reordered.stop_eq.symm
  size_eq block h := by
    rw [reordered.count_eq] at h
    have back : σ.symm block < blocks.count := by
      rwa [← reordered.lt_iff, σ.apply_symm_apply]
    rw [← reordered.size_eq _ back, σ.apply_symm_apply]

/-- Moving back. -/
theorem move_move (reordered : Reordered blocks other σ) (id : Nat) :
    move other blocks σ.symm (move blocks other σ id) = id := by
  by_cases inside : blocks.first 0 ≤ id ∧ id < blocks.first blocks.count
  · obtain ⟨block, bound, k, offset, rfl⟩ := exists_place inside.1 inside.2
    have bound' : σ block < other.count := by
      rw [reordered.count_eq]
      exact (reordered.lt_iff _).2 bound
    have offset' : k < other.size (σ block) := by rwa [reordered.size_eq _ bound]
    rw [move_add bound offset, move_add bound' offset', σ.symm_apply_apply]
  · have outside : ¬ (other.first 0 ≤ id ∧ id < other.first other.count) := by
      rwa [reordered.start_eq, reordered.stop_eq]
    rw [move, move, if_neg inside, if_neg outside]

/-- The moves of all ids. -/
def perm (reordered : Reordered blocks other σ) : Equiv.Perm Nat where
  toFun := move blocks other σ
  invFun := move other blocks σ.symm
  left_inv := reordered.move_move
  right_inv := reordered.symm.move_move

theorem perm_add (reordered : Reordered blocks other σ) {block k : Nat} (h : block < blocks.count)
    (inside : k < blocks.size block) :
    reordered.perm (blocks.first block + k) = other.first (σ block) + k :=
  move_add h inside

/-- Ids outside the blocks stay. -/
theorem perm_of_outside (reordered : Reordered blocks other σ) {id : Nat}
    (outside : id < blocks.first 0 ∨ blocks.first blocks.count ≤ id) : reordered.perm id = id :=
  move_of_outside outside

end Reordered

end Blocks
end MeshSkin
