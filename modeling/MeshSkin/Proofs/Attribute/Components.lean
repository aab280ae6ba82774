import MeshSkin.Proofs.Attribute.Interpolation

/-!
# Single components

A component of a tuple, as it is stored. Equal rows have equal components
(`Attribute.component?_congr`), and a component that a stencil makes is the stored weighted sum of
the components that it names (`Values.value?_interpolated`).
-/

namespace MeshSkin

/-- A single value as it is stored. -/
inductive Scalar where
  | byte (value : UInt8)
  | integer (value : Int64)
  | real (value : Float)
  deriving DecidableEq, Repr, Inhabited

namespace Scalar

/-- The kind of array that the value is from. -/
def storage : Scalar → StorageKind
  | .byte _ => .byte
  | .integer _ => .integer
  | .real _ => .real

/-- The value as it takes part in sums. -/
def toFloat : Scalar → Float
  | .byte value => value.toFloat
  | .integer value => floatOfInt value.toInt
  | .real value => value

/-- A sum as it is stored. -/
def ofSum (sum : Float) : StorageKind → Scalar
  | .byte => .byte (Storage.byte.ofFloat sum)
  | .integer => .integer (Storage.integer.ofFloat sum)
  | .real => .real (Storage.real.ofFloat sum)

end Scalar

/-- The value at a place. -/
def Values.value? (i : Nat) : Values → Option Scalar
  | .bytes values => values[i]?.map .byte
  | .integers values => values[i]?.map .integer
  | .reals values => values[i]?.map .real

/-- Component `k` of the tuple at a row. -/
def Attribute.component? (array : Attribute) (row k : Nat) : Option Scalar :=
  if k < array.components then array.values.value? (row * array.components + k) else none

theorem sumOf_congr {value other : Nat → Float} {stencil : Stencil}
    (same : ∀ entry ∈ stencil, value entry.1 = other entry.1) :
    sumOf value stencil = sumOf other stencil := by
  unfold sumOf
  refine List.foldl_ext _ _ _ fun sum entry member => ?_
  obtain ⟨point, weight⟩ := entry
  exact congrArg (fun read => sum + weight * read) (same (point, weight) member)

section Tuples

variable {α : Type} {components row k : Nat} {values : Array α} {stencil : Stencil}

/-- The place of a component is inside the values if the tuple is. -/
theorem place_lt (h : k < components) (there : (row + 1) * components ≤ values.size) :
    row * components + k < values.size := by
  have next : (row + 1) * components = row * components + components := Nat.succ_mul row components
  omega

theorem getElem?_tuple? {tuple : List α} (read : tuple? components values row = some tuple)
    (h : k < components) : tuple.toArray[k]? = values[row * components + k]? := by
  rw [List.getElem?_toArray, (tuple?_eq_some_iff.1 read).2, getElem?_tupleAt h]

/-- What a stencil makes of one component of the tuples it names. -/
theorem exists_sum (storage : Storage α) (wrap : α → Scalar)
    (same : ∀ value, (wrap value).toFloat = storage.toFloat value)
    (fits : StencilFits components values stencil) (h : k < components) :
    ∃ read : Nat → Scalar,
      (∀ entry ∈ stencil, values[entry.1 * components + k]?.map wrap = some (read entry.1)) ∧
        sumOf (componentAt storage components values k) stencil =
          sumOf (fun point => (read point).toFloat) stencil := by
  have inside : ∀ entry ∈ stencil, ∃ value, values[entry.1 * components + k]? = some value :=
    fun entry member => ⟨_, Array.getElem?_eq_getElem (place_lt h (fits entry member))⟩
  refine ⟨fun point => (values[point * components + k]?.map wrap).getD default, ?_, ?_⟩
  · intro entry member
    obtain ⟨value, found⟩ := inside entry member
    simp only [found, Option.map_some, Option.getD_some]
  · refine sumOf_congr fun entry member => ?_
    obtain ⟨value, found⟩ := inside entry member
    simp only [componentAt, found, Option.map_some, Option.getD_some, same]

theorem getElem?_interpolate {storage : Storage α} (h : k < components) :
    (interpolate storage components values stencil).toArray[k]? =
      some (storage.ofFloat (sumOf (componentAt storage components values k) stencil)) := by
  simp [interpolate, h]

end Tuples

namespace Values

variable {values tuple : Values} {components row k : Nat}

theorem value?_of_row? (read : values.row? components row = some tuple) (h : k < components) :
    tuple.value? k = values.value? (row * components + k) := by
  cases values with
  | bytes values =>
    obtain ⟨list, found, rfl⟩ := Option.map_eq_some_iff.1 read
    rw [value?, value?, getElem?_tuple? found h]
  | integers values =>
    obtain ⟨list, found, rfl⟩ := Option.map_eq_some_iff.1 read
    rw [value?, value?, getElem?_tuple? found h]
  | reals values =>
    obtain ⟨list, found, rfl⟩ := Option.map_eq_some_iff.1 read
    rw [value?, value?, getElem?_tuple? found h]

/-- A component of the row of a stencil is the stored weighted sum of the components it names. -/
theorem value?_interpolated {stencil : Stencil} (h : k < components)
    (fits : ∀ entry ∈ stencil, (entry.1 + 1) * components ≤ values.size) :
    ∃ read : Nat → Scalar,
      (∀ entry ∈ stencil, values.value? (entry.1 * components + k) = some (read entry.1)) ∧
        (values.interpolated components stencil).value? k =
          some (.ofSum (sumOf (fun point => (read point).toFloat) stencil) values.storage) := by
  cases values with
  | bytes values =>
    obtain ⟨read, reads, sum⟩ := exists_sum .byte .byte (fun _ => rfl) fits h
    refine ⟨read, reads, ?_⟩
    rw [interpolated, value?, getElem?_interpolate h, sum]
    rfl
  | integers values =>
    obtain ⟨read, reads, sum⟩ := exists_sum .integer .integer (fun _ => rfl) fits h
    refine ⟨read, reads, ?_⟩
    rw [interpolated, value?, getElem?_interpolate h, sum]
    rfl
  | reals values =>
    obtain ⟨read, reads, sum⟩ := exists_sum .real .real (fun _ => rfl) fits h
    refine ⟨read, reads, ?_⟩
    rw [interpolated, value?, getElem?_interpolate h, sum]
    rfl

end Values

namespace Attribute

variable {first second : Attribute} {row other : Nat} {tuple : Values}

theorem component?_of_row? (read : first.row? row = some tuple) (k : Nat) :
    first.component? row k = if k < first.components then tuple.value? k else none := by
  unfold component?
  split
  · rename_i h
    exact (Values.value?_of_row? read h).symm
  · rfl

/-- Equal rows have equal components. -/
theorem component?_congr (components_eq : second.components = first.components)
    (read : first.row? row = some tuple) (also : second.row? other = some tuple) (k : Nat) :
    second.component? other k = first.component? row k := by
  rw [component?_of_row? read, component?_of_row? also, components_eq]

end Attribute
end MeshSkin
