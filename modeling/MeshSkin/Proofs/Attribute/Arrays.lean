import Mathlib.Data.List.Forall2
import MeshSkin.Attribute.Table
import MeshSkin.Proofs.Attribute.Tuples

/-!
# Gathered and extended attributes

An attribute that was gathered, or extended, is like the original one: its name, its number
of components and its storage are the same. Its tuples are the chosen ones, or the original
ones followed by one for each stencil.
-/

namespace MeshSkin

/-- How the values of an attribute are stored. -/
inductive StorageKind where
  | byte
  | integer
  | real
  deriving DecidableEq, Repr

namespace Values

def storage : Values → StorageKind
  | .bytes _ => .byte
  | .integers _ => .integer
  | .reals _ => .real

/-- The `row`-th tuple, as it is stored. -/
def row? (components row : Nat) : Values → Option Values
  | .bytes values => (tuple? components values row).map fun tuple => .bytes tuple.toArray
  | .integers values => (tuple? components values row).map fun tuple => .integers tuple.toArray
  | .reals values => (tuple? components values row).map fun tuple => .reals tuple.toArray

theorem row?_eq_some {values : Values} {components row : Nat}
    (h : (row + 1) * components ≤ values.size) : ∃ tuple, values.row? components row = some tuple := by
  cases values with
  | bytes values => exact ⟨_, by rw [row?, tuple?_eq_some h]; rfl⟩
  | integers values => exact ⟨_, by rw [row?, tuple?_eq_some h]; rfl⟩
  | reals values => exact ⟨_, by rw [row?, tuple?_eq_some h]; rfl⟩

theorem gather_eq_some {values : Values} {components : Nat} {rows : List Nat}
    (h : ∀ row ∈ rows, (row + 1) * components ≤ values.size) :
    ∃ gathered, values.gather components rows = some gathered ∧
      gathered.storage = values.storage ∧ gathered.size = rows.length * components ∧
      ∀ (i : Nat) (bound : i < rows.length),
        gathered.row? components i = values.row? components rows[i] := by
  cases values with
  | bytes values =>
    obtain ⟨gathered, found, size, same⟩ := gatherTuples_eq_some h
    refine ⟨.bytes gathered, by rw [gather, found]; rfl, rfl, size, fun i bound => ?_⟩
    rw [row?, row?, same i bound]
  | integers values =>
    obtain ⟨gathered, found, size, same⟩ := gatherTuples_eq_some h
    refine ⟨.integers gathered, by rw [gather, found]; rfl, rfl, size, fun i bound => ?_⟩
    rw [row?, row?, same i bound]
  | reals values =>
    obtain ⟨gathered, found, size, same⟩ := gatherTuples_eq_some h
    refine ⟨.reals gathered, by rw [gather, found]; rfl, rfl, size, fun i bound => ?_⟩
    rw [row?, row?, same i bound]

theorem extend_eq_some {values : Values} {components : Nat} {stencils : List Stencil}
    (h : ∀ stencil ∈ stencils, ∀ entry ∈ stencil, (entry.1 + 1) * components ≤ values.size) :
    ∃ extended, values.extend components stencils = some extended ∧
      extended.storage = values.storage ∧
      extended.size = values.size + stencils.length * components ∧
      ∀ row, (row + 1) * components ≤ values.size →
        extended.row? components row = values.row? components row := by
  cases values with
  | bytes values =>
    obtain ⟨extended, found, size, same⟩ := pushTuples_grows h
    refine ⟨.bytes extended, by rw [extend, found]; rfl, rfl, size, fun row bound => ?_⟩
    rw [row?, row?, same row bound]
  | integers values =>
    obtain ⟨extended, found, size, same⟩ := pushTuples_grows h
    refine ⟨.integers extended, by rw [extend, found]; rfl, rfl, size, fun row bound => ?_⟩
    rw [row?, row?, same row bound]
  | reals values =>
    obtain ⟨extended, found, size, same⟩ := pushTuples_grows h
    refine ⟨.reals extended, by rw [extend, found]; rfl, rfl, size, fun row bound => ?_⟩
    rw [row?, row?, same row bound]

end Values

namespace Attribute

def row? (array : Attribute) (row : Nat) : Option Values := array.values.row? array.components row

/-- An attribute of the same name and kind; if the original consists of whole tuples, so does
this one. -/
structure Like (original made : Attribute) : Prop where
  name_eq : made.name = original.name
  components_eq : made.components = original.components
  storage_eq : made.values.storage = original.values.storage
  wellShaped : original.WellShaped → made.WellShaped

/-- An attribute whose tuples are those of the original at the given rows. -/
structure Gathered (rows : List Nat) (original made : Attribute) : Prop
    extends Like original made where
  tupleCount_eq : made.tupleCount? = some rows.length
  row_eq : ∀ (i : Nat) (h : i < rows.length), ∃ tuple,
    original.row? rows[i] = some tuple ∧ made.row? i = some tuple

/-- An attribute whose first `count` tuples are those of the original, with some more. -/
structure Extended (count more : Nat) (original made : Attribute) : Prop
    extends Like original made where
  tupleCount_eq : made.tupleCount? = some (count + more)
  row_eq : ∀ row < count, ∃ tuple, original.row? row = some tuple ∧ made.row? row = some tuple

variable {array : Attribute} {count : Nat}

theorem tupleCount?_eq_some_iff :
    array.tupleCount? = some count ↔
      0 < array.components ∧ array.values.size / array.components = count := by
  unfold tupleCount?
  split <;> simp <;> omega

/-- Whole tuples are as many as are counted. -/
theorem size_eq_of_tupleCount? (tuples : array.tupleCount? = some count)
    (shaped : array.WellShaped) : array.values.size = count * array.components := by
  obtain ⟨_, counted⟩ := tupleCount?_eq_some_iff.1 tuples
  have split := Nat.div_add_mod array.values.size array.components
  rw [shaped.whole, Nat.add_zero, counted, Nat.mul_comm] at split
  exact split.symm

/-- The tuples of an attribute are all there. -/
theorem le_size_of_lt (tuples : array.tupleCount? = some count) {row : Nat} (h : row < count) :
    (row + 1) * array.components ≤ array.values.size := by
  obtain ⟨positive, rfl⟩ := tupleCount?_eq_some_iff.1 tuples
  exact (Nat.le_div_iff_mul_le positive).1 h

theorem gather_eq_some (tuples : array.tupleCount? = some count) {rows : List Nat}
    (h : ∀ row ∈ rows, row < count) :
    ∃ gathered, array.gather rows = some gathered ∧ Gathered rows array gathered := by
  have inside := fun row member => le_size_of_lt tuples (h row member)
  obtain ⟨positive, _⟩ := tupleCount?_eq_some_iff.1 tuples
  obtain ⟨values, found, storage, size, same⟩ := Values.gather_eq_some inside
  refine ⟨{ array with values }, by rw [gather, found]; rfl, ⟨rfl, rfl, storage, ?_⟩, ?_, ?_⟩
  · intro shaped
    exact ⟨positive, by simp only [size, Nat.mul_mod_left]⟩
  · rw [tupleCount?_eq_some_iff]
    exact ⟨positive, by simp only [size, Nat.mul_div_cancel _ positive]⟩
  · intro i bound
    obtain ⟨tuple, read⟩ := Values.row?_eq_some (inside _ (List.getElem_mem bound))
    exact ⟨tuple, read, (same i bound).trans read⟩

theorem extend_eq_some (tuples : array.tupleCount? = some count) {stencils : List Stencil}
    (h : ∀ stencil ∈ stencils, ∀ entry ∈ stencil, entry.1 < count) :
    ∃ extended, array.extend stencils = some extended ∧
      Extended count stencils.length array extended := by
  have inside := fun stencil listed entry member =>
    le_size_of_lt tuples (h stencil listed entry member)
  obtain ⟨positive, counted⟩ := tupleCount?_eq_some_iff.1 tuples
  obtain ⟨values, found, storage, size, same⟩ := Values.extend_eq_some inside
  refine ⟨{ array with values }, by rw [extend, found]; rfl, ⟨rfl, rfl, storage, ?_⟩, ?_, ?_⟩
  · intro shaped
    exact ⟨positive, by simp only [size, Nat.add_mul_mod_self_right, shaped.whole]⟩
  · rw [tupleCount?_eq_some_iff]
    exact ⟨positive, by simp only [size, Nat.add_mul_div_right _ _ positive, counted]⟩
  · intro row bound
    have there := le_size_of_lt tuples bound
    obtain ⟨tuple, read⟩ := Values.row?_eq_some there
    exact ⟨tuple, read, (same row there).trans read⟩

/-- An attribute as it is, seen as one that was extended by nothing. -/
theorem extended_self (tuples : array.tupleCount? = some count) : Extended count 0 array array where
  name_eq := rfl
  components_eq := rfl
  storage_eq := rfl
  wellShaped := id
  tupleCount_eq := tuples
  row_eq := fun row bound => by
    obtain ⟨tuple, read⟩ := Values.row?_eq_some (le_size_of_lt tuples bound)
    exact ⟨tuple, read, read⟩

end Attribute

/-- Lookups that all answer, each in a given relation, answer together in this relation. -/
theorem Checked.mapM_forall₂ {α β : Type} {f : α → Option β} {Related : α → β → Prop}
    {items : List α} (answers : ∀ item ∈ items, ∃ out, f item = some out ∧ Related item out) :
    ∃ outs, items.mapM f = some outs ∧ List.Forall₂ Related items outs := by
  induction items with
  | nil => exact ⟨[], rfl, .nil⟩
  | cons head rest ih =>
    obtain ⟨out, found, related⟩ := answers head (by simp)
    obtain ⟨outs, all, pairs⟩ := ih fun item member => answers item (List.mem_cons_of_mem _ member)
    refine ⟨out :: outs, ?_, .cons related pairs⟩
    rw [List.mapM_cons, found, all]
    rfl

namespace AttributeTable

variable {table : AttributeTable} {count : Nat}

theorem gather_eq_some (tuples : ∀ array ∈ table.arrays, array.tupleCount? = some count)
    {rows : List Nat} (h : ∀ row ∈ rows, row < count) :
    ∃ gathered, table.gather rows = some gathered ∧
      List.Forall₂ (Attribute.Gathered rows) table.arrays gathered.arrays := by
  obtain ⟨arrays, found, related⟩ := Checked.mapM_forall₂ fun array member =>
    Attribute.gather_eq_some (tuples array member) h
  exact ⟨⟨arrays⟩, by rw [gather, found]; rfl, related⟩

theorem extend_eq_some (tuples : ∀ array ∈ table.arrays, array.tupleCount? = some count)
    {stencils : List Stencil} (h : ∀ stencil ∈ stencils, ∀ entry ∈ stencil, entry.1 < count) :
    ∃ extended, table.extend stencils = some extended ∧
      List.Forall₂ (Attribute.Extended count stencils.length) table.arrays extended.arrays := by
  obtain ⟨arrays, found, related⟩ := Checked.mapM_forall₂ fun array member =>
    Attribute.extend_eq_some (tuples array member) h
  exact ⟨⟨arrays⟩, by rw [extend, found]; rfl, related⟩

/-- Without a stencil nothing is appended. -/
theorem extend_nil (table : AttributeTable) : table.extend [] = some table := by
  have same : ∀ array ∈ table.arrays, array.extend [] = some (id array) := by
    intro array _
    obtain ⟨_, _, values⟩ := array
    cases values <;> rfl
  rw [extend, Checked.mapM_eq_map same, List.map_id]
  rfl

end AttributeTable
end MeshSkin
