import MeshSkin.Proofs.Attribute.Arrays

/-!
# What can be extended

An attribute can be extended by some stencils exactly when each of them names values that are there
by then: those of the attribute itself and those made for the stencils before it
(`Attribute.isSome_extend_iff`). In an attribute of whole tuples these are the points that it is
about, and the new points before (`Attribute.extendable_iff`).
-/

namespace MeshSkin

theorem Checked.isSome_mapM_iff {α β : Type} {f : α → Option β} {items : List α} :
    (items.mapM f).isSome ↔ ∀ item ∈ items, (f item).isSome := by
  induction items with
  | nil => simp
  | cons item rest ih =>
    rw [List.mapM_cons, List.forall_mem_cons, ← ih]
    cases f item with
    | none => simp
    | some out => cases rest.mapM f <;> simp

/-- Stencils that name, each in its turn, only tuples that begin among the values: at first there
are `size` values, and every stencil adds a tuple. -/
def Extendable (components size : Nat) (stencils : List Stencil) : Prop :=
  ∀ (j : Nat) (stencil : Stencil), stencils[j]? = some stencil →
    ∀ entry ∈ stencil, entry.1 * components < size + j * components

section Tuples

variable {α : Type} {storage : Storage α} {components : Nat} {stencil : Stencil}

theorem extendable_cons {size : Nat} {rest : List Stencil} :
    Extendable components size (stencil :: rest) ↔
      (∀ entry ∈ stencil, entry.1 * components < size) ∧
        Extendable components (size + components) rest := by
  have shift : ∀ j, size + components + j * components = size + (j + 1) * components := by
    intro j
    rw [Nat.succ_mul]
    omega
  constructor
  · intro extendable
    refine ⟨?_, fun j later found => ?_⟩
    · simpa using extendable 0 stencil rfl
    · rw [shift]
      exact extendable (j + 1) later found
  · intro given j other found
    obtain ⟨first, later⟩ := given
    cases j with
    | zero =>
      obtain rfl : stencil = other := Option.some.inj found
      simpa using first
    | succ j =>
      rw [← shift]
      exact later j other found

theorem isSome_weightedSum_iff {value? : Nat → Option Float} :
    (weightedSum value? stencil).isSome ↔ ∀ entry ∈ stencil, (value? entry.1).isSome := by
  unfold weightedSum
  generalize -0.0 = sum
  induction stencil generalizing sum with
  | nil => simp
  | cons entry rest ih =>
    obtain ⟨point, weight⟩ := entry
    rw [List.foldlM_cons, List.forall_mem_cons]
    cases found : value? point with
    | none => simp [found]
    | some value => simpa [found] using ih (sum + weight * value)

theorem isSome_pushComponent_iff {values : Array α} {k : Nat} :
    (pushComponent storage components stencil values k).isSome ↔
      ∀ entry ∈ stencil, entry.1 * components + k < values.size := by
  unfold pushComponent
  rw [Option.isSome_map, isSome_weightedSum_iff]
  simp

theorem size_of_pushComponent {values next : Array α} {k : Nat}
    (h : pushComponent storage components stencil values k = some next) :
    next.size = values.size + 1 := by
  obtain ⟨sum, _, rfl⟩ := Option.map_eq_some_iff.1 h
  simp

/-- With each component one more value is there, so the next component asks for nothing new. -/
theorem isSome_pushComponents_iff (count k : Nat) (values : Array α) :
    (pushComponents storage components stencil k count values).isSome ↔
      count = 0 ∨ ∀ entry ∈ stencil, entry.1 * components + k < values.size := by
  induction count generalizing k values with
  | zero => simp [pushComponents]
  | succ count ih =>
    rw [pushComponents, ← isSome_pushComponent_iff]
    cases pushed : pushComponent storage components stencil values k with
    | none => simp
    | some next =>
      have here : ∀ entry ∈ stencil, entry.1 * components + k < values.size :=
        isSome_pushComponent_iff.1 (Option.isSome_of_eq_some pushed)
      simp only [Option.isSome_some, or_true, iff_true]
      rw [ih, size_of_pushComponent pushed]
      exact Or.inr fun entry member => Nat.succ_lt_succ (here entry member)

theorem size_of_pushComponents {count k : Nat} {values last : Array α}
    (h : pushComponents storage components stencil k count values = some last) :
    last.size = values.size + count := by
  induction count generalizing k values with
  | zero =>
    obtain rfl : values = last := Option.some.inj h
    rfl
  | succ count ih =>
    rw [pushComponents] at h
    cases pushed : pushComponent storage components stencil values k with
    | none => simp [pushed] at h
    | some next =>
      simp only [pushed] at h
      rw [ih h, size_of_pushComponent pushed]
      omega

variable (positive : 0 < components)

include positive

theorem isSome_pushTuple_iff {values : Array α} :
    (pushTuple storage components values stencil).isSome ↔
      ∀ entry ∈ stencil, entry.1 * components < values.size := by
  unfold pushTuple
  simp [isSome_pushComponents_iff, Nat.ne_of_gt positive]

theorem isSome_pushTuples_iff {values : Array α} {stencils : List Stencil} :
    (pushTuples storage components values stencils).isSome ↔
      Extendable components values.size stencils := by
  unfold pushTuples
  induction stencils generalizing values with
  | nil => simp [Extendable]
  | cons stencil rest ih =>
    have here : (pushTuple storage components values stencil).isSome ↔
        ∀ entry ∈ stencil, entry.1 * components < values.size := isSome_pushTuple_iff positive
    rw [List.foldlM_cons, extendable_cons, ← here]
    cases pushed : pushTuple storage components values stencil with
    | none => simp
    | some next =>
      rw [← size_of_pushComponents pushed, ← ih]
      simp

end Tuples

/-- Values can be extended whatever they are stored as. -/
theorem Values.isSome_extend_iff {values : Values} {components : Nat} (positive : 0 < components)
    {stencils : List Stencil} :
    (values.extend components stencils).isSome ↔ Extendable components values.size stencils := by
  cases values <;> rw [extend, Option.isSome_map, isSome_pushTuples_iff positive, size]

namespace Attribute

variable {array : Attribute} {count : Nat} (tuples : array.tupleCount? = some count)

include tuples

theorem isSome_extend_iff {stencils : List Stencil} :
    (array.extend stencils).isSome ↔ Extendable array.components array.values.size stencils := by
  rw [extend, Option.isSome_map, Values.isSome_extend_iff (tupleCount?_eq_some_iff.1 tuples).1]

/-- In an attribute of whole tuples the stencils name its own points and new points before. -/
theorem extendable_iff (shaped : array.WellShaped) {stencils : List Stencil} :
    Extendable array.components array.values.size stencils ↔
      ∀ (j : Nat) (stencil : Stencil), stencils[j]? = some stencil →
        ∀ entry ∈ stencil, entry.1 < count + j := by
  unfold Extendable
  rw [size_eq_of_tupleCount? tuples shaped]
  simp only [← Nat.add_mul, Nat.mul_lt_mul_right shaped.components_pos]

end Attribute

namespace AttributeTable

variable {table : AttributeTable} {count : Nat}
  (tuples : ∀ array ∈ table.arrays, array.tupleCount? = some count)

include tuples

theorem isSome_extend_iff {stencils : List Stencil} :
    (table.extend stencils).isSome ↔
      ∀ array ∈ table.arrays, Extendable array.components array.values.size stencils := by
  rw [extend, Option.isSome_map, Checked.isSome_mapM_iff]
  exact forall₂_congr fun array member => Attribute.isSome_extend_iff (tuples array member)

end AttributeTable
end MeshSkin
