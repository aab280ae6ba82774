import MeshSkin.Proofs.Attribute.Rows

/-!
# New rows of an extended attribute

An attribute of whole tuples that is extended has, behind its own rows, one row for each stencil:
the weighted sums of the rows that the stencil names (`Attribute.extend_new`). Such a row depends
on these rows only, not on their numbers and not on other stencils (`interpolate_renumber`).
-/

namespace MeshSkin

section Tuples

variable {α : Type} {components : Nat} {values others : Array α}

theorem tuple?_eq_some_iff {row : Nat} {tuple : List α} :
    tuple? components values row = some tuple ↔
      (row + 1) * components ≤ values.size ∧ tuple = tupleAt components values row := by
  constructor
  · intro read
    have there := (slice?_eq_some_iff.1 read).2.1
    rw [tuple?_eq_some there] at read
    exact ⟨there, (Option.some.inj read).symm⟩
  · intro given
    rw [tuple?_eq_some given.1, given.2]

theorem getElem?_tupleAt {row k : Nat} (h : k < components) :
    (tupleAt components values row)[k]? = values[row * components + k]? := by
  have next : (row + 1) * components = row * components + components := Nat.succ_mul row components
  unfold tupleAt
  rw [Array.getElem?_toList, Array.getElem?_extract]
  split
  · rfl
  · rw [Array.getElem?_eq_none (by omega)]

theorem getElem?_tupleAt_one (row : Nat) : (tupleAt 1 values row)[0]? = values[row]? := by
  rw [getElem?_tupleAt Nat.zero_lt_one, Nat.mul_one, Nat.add_zero]

/-- Behind whole tuples the rows of the next part begin. -/
theorem tuple?_append_right {count row : Nat} (whole : values.size = count * components)
    (h : (row + 1) * components ≤ others.size) :
    tuple? components (values ++ others) (count + row) = tuple? components others row := by
  have start : (count + row) * components = values.size + row * components := by
    rw [whole, Nat.add_mul]
  have stop : (count + row + 1) * components = values.size + (row + 1) * components := by
    rw [whole, Nat.add_assoc, Nat.add_mul]
  rw [tuple?_eq_some h, tuple?_eq_some (by rw [stop, Array.size_append]; omega), tupleAt, tupleAt,
    start, stop, Array.extract_append]
  simp

variable {storage : Storage α}

/-- Each stencil gives the tuple at its place behind the original ones. -/
theorem pushTuples_new {count : Nat} {stencils : List Stencil}
    (whole : values.size = count * components)
    (fits : ∀ stencil ∈ stencils, StencilFits components values stencil) {extended : Array α}
    (found : pushTuples storage components values stencils = some extended) {j : Nat}
    (h : j < stencils.length) :
    tuple? components extended (count + j) =
      some (interpolate storage components values stencils[j]) := by
  rw [pushTuples_eq_some fits, Option.some.injEq] at found
  subst found
  have lengths : ∀ list ∈ stencils.map (interpolate storage components values),
      list.length = components := by
    intro list member
    obtain ⟨stencil, _, rfl⟩ := List.mem_map.1 member
    exact length_interpolate _ _
  have listed : j < (stencils.map (interpolate storage components values)).length := by
    rwa [List.length_map]
  have new := tuple?_flatten lengths listed
  rw [List.flatMap_def, tuple?_append_right whole, new, List.getElem_map]
  exact (tuple?_eq_some_iff.1 new).1

/-- A component is read off the tuple. -/
theorem componentAt_congr {row other k : Nat} (h : k < components)
    (there : (row + 1) * components ≤ values.size)
    (same : tuple? components others other = tuple? components values row) :
    componentAt storage components others k other = componentAt storage components values k row := by
  rw [tuple?_eq_some there] at same
  unfold componentAt
  rw [← getElem?_tupleAt h, ← getElem?_tupleAt h, (tuple?_eq_some_iff.1 same).2]

end Tuples

namespace Stencil

/-- The same weights on points under other numbers. -/
def renumber (place : Nat → Nat) (stencil : Stencil) : Stencil :=
  stencil.map fun (id, weight) => (place id, weight)

end Stencil

section Renumber

variable {α : Type} {components : Nat} {values others : Array α} {storage : Storage α}
  {place : Nat → Nat} {stencil : Stencil}

theorem sumOf_renumber {value other : Nat → Float}
    (same : ∀ entry ∈ stencil, other (place entry.1) = value entry.1) :
    sumOf other (stencil.renumber place) = sumOf value stencil := by
  unfold sumOf Stencil.renumber
  rw [List.foldl_map]
  apply List.foldl_ext
  intro sum entry member
  obtain ⟨id, weight⟩ := entry
  exact congrArg (fun read => sum + weight * read) (same (id, weight) member)

/-- The same tuples under other numbers give the same sums. -/
theorem interpolate_renumber (fits : StencilFits components values stencil)
    (same : ∀ entry ∈ stencil,
      tuple? components others (place entry.1) = tuple? components values entry.1) :
    interpolate storage components others (stencil.renumber place) =
      interpolate storage components values stencil := by
  unfold interpolate
  apply List.map_congr_left
  intro k member
  have bound := List.mem_range.1 member
  rw [sumOf_renumber fun entry listed =>
    componentAt_congr bound (fits entry listed) (same entry listed)]

end Renumber

namespace Values

/-- The row that a stencil makes of the given values. -/
def interpolated (components : Nat) (stencil : Stencil) : Values → Values
  | .bytes values => .bytes (interpolate .byte components values stencil).toArray
  | .integers values => .integers (interpolate .integer components values stencil).toArray
  | .reals values => .reals (interpolate .real components values stencil).toArray

theorem extend_new {values extended : Values} {components count : Nat} {stencils : List Stencil}
    (whole : values.size = count * components)
    (fits : ∀ stencil ∈ stencils, ∀ entry ∈ stencil, (entry.1 + 1) * components ≤ values.size)
    (found : values.extend components stencils = some extended) {j : Nat}
    (h : j < stencils.length) :
    extended.row? components (count + j) = some (values.interpolated components stencils[j]) := by
  cases values with
  | bytes values =>
    obtain ⟨made, pushed, rfl⟩ := Option.map_eq_some_iff.1 found
    rw [row?, pushTuples_new whole fits pushed h]
    rfl
  | integers values =>
    obtain ⟨made, pushed, rfl⟩ := Option.map_eq_some_iff.1 found
    rw [row?, pushTuples_new whole fits pushed h]
    rfl
  | reals values =>
    obtain ⟨made, pushed, rfl⟩ := Option.map_eq_some_iff.1 found
    rw [row?, pushTuples_new whole fits pushed h]
    rfl

end Values

/-- Behind the rows of an attribute of whole tuples there is a row for each stencil. -/
theorem Attribute.extend_new {array extended : Attribute} {count : Nat}
    (tuples : array.tupleCount? = some count) (shaped : array.WellShaped)
    {stencils : List Stencil}
    (h : ∀ stencil ∈ stencils, ∀ entry ∈ stencil, entry.1 < count)
    (found : array.extend stencils = some extended) {j : Nat} (bound : j < stencils.length) :
    extended.row? (count + j) =
      some (array.values.interpolated array.components stencils[j]) := by
  obtain ⟨values, made, rfl⟩ := Option.map_eq_some_iff.1 found
  exact Values.extend_new (size_eq_of_tupleCount? tuples shaped)
    (fun stencil listed entry member => le_size_of_lt tuples (h stencil listed entry member))
    made bound

end MeshSkin
