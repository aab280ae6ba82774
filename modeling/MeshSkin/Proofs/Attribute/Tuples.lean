import Mathlib.Algebra.BigOperators.Group.List.Lemmas
import MeshSkin.Attribute.Values
import MeshSkin.Checked

/-!
# Tuples in a flat array

A flat array holds tuple after tuple. Gathering gives an array whose tuples are the chosen
ones (`gatherTuples_eq_some`). Extending appends one interpolated tuple for each stencil;
although it reads the array that it makes longer, every value it reads is one of the
original values (`pushTuples_eq_some`).
-/

namespace MeshSkin

variable {α : Type} {components : Nat} {values : Array α}

/-- The tuple at a row, where there is one. -/
def tupleAt (components : Nat) (values : Array α) (row : Nat) : List α :=
  (values.extract (row * components) ((row + 1) * components)).toList

theorem tuple?_eq_some {row : Nat} (h : (row + 1) * components ≤ values.size) :
    tuple? components values row = some (tupleAt components values row) := by
  have start : row * components ≤ (row + 1) * components := Nat.mul_le_mul_right _ (Nat.le_succ row)
  unfold tuple? slice?
  rw [if_pos ⟨start, h⟩, tupleAt]

theorem length_tupleAt {row : Nat} (h : (row + 1) * components ≤ values.size) :
    (tupleAt components values row).length = components := by
  have next : (row + 1) * components = row * components + components := Nat.succ_mul row components
  unfold tupleAt
  simp only [Array.length_toList, Array.size_extract]
  omega

/-- Tuples behind the end of an array do not change those before. -/
theorem tuple?_append {row : Nat} (h : (row + 1) * components ≤ values.size) (more : Array α) :
    tuple? components (values ++ more) row = tuple? components values row := by
  have start : row * components ≤ (row + 1) * components := Nat.mul_le_mul_right _ (Nat.le_succ row)
  rw [tuple?_eq_some h, tuple?_eq_some (by rw [Array.size_append]; omega), tupleAt, tupleAt,
    Array.extract_append]
  simp [Nat.sub_eq_zero_of_le h]

section Gather

theorem map_length_eq_replicate {lists : List (List α)}
    (lengths : ∀ list ∈ lists, list.length = components) :
    lists.map List.length = List.replicate lists.length components :=
  List.map_eq_replicate_iff.2 lengths

/-- Lists of one length, one behind the other, are cut apart again. -/
theorem tuple?_flatten {lists : List (List α)} (lengths : ∀ list ∈ lists, list.length = components)
    {row : Nat} (h : row < lists.length) :
    tuple? components lists.flatten.toArray row = some lists[row] := by
  have same := map_length_eq_replicate lengths
  have sum_take : ∀ count ≤ lists.length,
      ((lists.map List.length).take count).sum = count * components := by
    intro count bound
    rw [same, List.take_replicate, List.sum_replicate_nat, Nat.min_eq_left bound]
  have cut := List.drop_take_succ_flatten_eq_getElem lists row h
  have size : lists.flatten.toArray.size = lists.length * components := by
    rw [List.size_toArray, List.length_flatten, same, List.sum_replicate_nat]
  rw [tuple?_eq_some (by rw [size]; exact Nat.mul_le_mul_right _ h), tupleAt]
  rw [sum_take _ h, sum_take _ (Nat.le_of_lt h)] at cut
  rw [← cut]
  simp [List.drop_take]

/-- Rows that are there can be gathered, and the result has them in their order. -/
theorem gatherTuples_eq_some {rows : List Nat}
    (h : ∀ row ∈ rows, (row + 1) * components ≤ values.size) :
    ∃ gathered, gatherTuples components values rows = some gathered ∧
      gathered.size = rows.length * components ∧
      ∀ (i : Nat) (bound : i < rows.length),
        tuple? components gathered i = tuple? components values rows[i] := by
  have tuples : rows.mapM (tuple? components values) =
      some (rows.map (tupleAt components values)) :=
    Checked.mapM_eq_map fun row member => tuple?_eq_some (h row member)
  have lengths : ∀ list ∈ rows.map (tupleAt components values), list.length = components := by
    intro list member
    obtain ⟨row, listed, rfl⟩ := List.mem_map.1 member
    exact length_tupleAt (h row listed)
  refine ⟨(rows.map (tupleAt components values)).flatten.toArray, ?_, ?_, ?_⟩
  · rw [gatherTuples, tuples]
    rfl
  · rw [List.size_toArray, List.length_flatten, map_length_eq_replicate lengths,
      List.sum_replicate_nat, List.length_map]
  · intro i bound
    rw [tuple?_flatten lengths (by simpa using bound), tuple?_eq_some (h _ (List.getElem_mem bound))]
    simp

end Gather

section Extend

variable (storage : Storage α)

/-- The weighted sum of values that are there. -/
def sumOf (value : Nat → Float) (stencil : Stencil) : Float :=
  stencil.foldl (fun sum (point, weight) => sum + weight * value point) (-0.0)

/-- Component `k` of the tuple of a point, as a float. -/
def componentAt (components : Nat) (values : Array α) (k point : Nat) : Float :=
  (values[point * components + k]?.map storage.toFloat).getD 0.0

/-- The tuple that a stencil makes of the given values. -/
def interpolate (components : Nat) (values : Array α) (stencil : Stencil) : List α :=
  (List.range components).map fun k =>
    storage.ofFloat (sumOf (componentAt storage components values k) stencil)

/-- The tuples of the points of a stencil are there. -/
def StencilFits (components : Nat) (values : Array α) (stencil : Stencil) : Prop :=
  ∀ entry ∈ stencil, (entry.1 + 1) * components ≤ values.size

theorem length_interpolate (stencil : Stencil) :
    (interpolate storage components values stencil).length = components := by
  simp [interpolate]

theorem weightedSum_eq_some {value? : Nat → Option Float} {value : Nat → Float} {stencil : Stencil}
    (h : ∀ entry ∈ stencil, value? entry.1 = some (value entry.1)) :
    weightedSum value? stencil = some (sumOf value stencil) := by
  unfold weightedSum sumOf
  generalize -0.0 = sum
  induction stencil generalizing sum with
  | nil => rfl
  | cons entry rest ih =>
    obtain ⟨point, weight⟩ := entry
    have read : value? point = some (value point) := h (point, weight) (by simp)
    simp only [List.foldlM_cons, List.foldl_cons, read]
    exact ih (fun other member => h other (List.mem_cons_of_mem _ member)) _

variable {storage}

/-- Values appended since do not matter: the points of a stencil come before them. -/
theorem pushComponent_append {stencil : Stencil} (fits : StencilFits components values stencil)
    (more : Array α) {k : Nat} (h : k < components) :
    pushComponent storage components stencil (values ++ more) k =
      some ((values ++ more).push
        (storage.ofFloat (sumOf (componentAt storage components values k) stencil))) := by
  have read : ∀ entry ∈ stencil,
      (values ++ more)[entry.1 * components + k]?.map storage.toFloat =
        some (componentAt storage components values k entry.1) := by
    intro entry member
    have next := Nat.succ_mul entry.1 components
    have inside : entry.1 * components + k < values.size := by
      have := fits entry member
      rw [Nat.succ_eq_add_one] at next
      omega
    rw [Array.getElem?_append_left inside, componentAt]
    simp [inside]
  unfold pushComponent
  rw [weightedSum_eq_some read]
  rfl

/-- Components are appended in order, by induction on their number. -/
theorem pushComponents_append {stencil : Stencil} (fits : StencilFits components values stencil)
    (count : Nat) {k : Nat} (h : k + count ≤ components) (more : Array α) :
    pushComponents storage components stencil k count (values ++ more) =
      some (values ++ (more ++ ((List.range' k count).map fun k =>
        storage.ofFloat (sumOf (componentAt storage components values k) stencil)).toArray)) := by
  induction count generalizing k more with
  | zero => simp [pushComponents]
  | succ count ih =>
    rw [pushComponents, pushComponent_append fits more (by omega)]
    simp only [← Array.append_push]
    rw [ih (by omega), List.range'_succ]
    simp

theorem pushTuple_append {stencil : Stencil} (fits : StencilFits components values stencil)
    (more : Array α) :
    pushTuple storage components (values ++ more) stencil =
      some (values ++ (more ++ (interpolate storage components values stencil).toArray)) := by
  unfold pushTuple
  rw [pushComponents_append fits components (Nat.le_of_eq (Nat.zero_add _)),
    interpolate, List.range_eq_range']

/-- One tuple is appended for each stencil, made of the original values only. -/
theorem pushTuples_append {stencils : List Stencil}
    (fits : ∀ stencil ∈ stencils, StencilFits components values stencil) (more : Array α) :
    pushTuples storage components (values ++ more) stencils =
      some (values ++ (more ++
        (stencils.flatMap (interpolate storage components values)).toArray)) := by
  induction stencils generalizing more with
  | nil => simp [pushTuples]
  | cons stencil rest ih =>
    rw [pushTuples, List.foldlM_cons, pushTuple_append (fits stencil (by simp)),
      Option.bind_eq_bind, Option.bind_some, ← pushTuples,
      ih fun other member => fits other (List.mem_cons_of_mem stencil member)]
    simp

theorem pushTuples_eq_some {stencils : List Stencil}
    (fits : ∀ stencil ∈ stencils, StencilFits components values stencil) :
    pushTuples storage components values stencils =
      some (values ++ (stencils.flatMap (interpolate storage components values)).toArray) := by
  have appended : pushTuples storage components (values ++ #[]) stencils =
      some (values ++ (#[] ++
        (stencils.flatMap (interpolate storage components values)).toArray)) :=
    pushTuples_append fits #[]
  rwa [Array.append_empty, Array.empty_append] at appended

/-- The array gets longer by a tuple for each stencil, and its tuples stay what they are. -/
theorem pushTuples_grows {stencils : List Stencil}
    (fits : ∀ stencil ∈ stencils, StencilFits components values stencil) :
    ∃ extended, pushTuples storage components values stencils = some extended ∧
      extended.size = values.size + stencils.length * components ∧
      ∀ row, (row + 1) * components ≤ values.size →
        tuple? components extended row = tuple? components values row := by
  refine ⟨_, pushTuples_eq_some fits, ?_, fun row bound => tuple?_append bound _⟩
  simp [List.length_flatMap, length_interpolate]

/-- More stencils append more tuples, behind those of the first stencils. -/
theorem pushTuples_more {stencils more : List Stencil}
    (fits : ∀ stencil ∈ stencils ++ more, StencilFits components values stencil) :
    ∃ early late, pushTuples storage components values stencils = some early ∧
      pushTuples storage components values (stencils ++ more) = some late ∧
      early.size = values.size + stencils.length * components ∧
      ∀ row, (row + 1) * components ≤ early.size →
        tuple? components late row = tuple? components early row := by
  refine ⟨_, _, pushTuples_eq_some fun stencil member => fits stencil (by simp [member]),
    pushTuples_eq_some fits, by simp [List.length_flatMap, length_interpolate], ?_⟩
  intro row bound
  rw [List.flatMap_append, ← List.append_toArray, ← Array.append_assoc]
  exact tuple?_append bound _

end Extend
end MeshSkin
