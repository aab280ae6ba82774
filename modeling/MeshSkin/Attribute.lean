import MeshSkin.Attribute.Values
import MeshSkin.MeshError

/-!
# Attributes

A named array of values attached to points or to cells, with a number of values per
tuple and one tuple per point or cell.
-/

namespace MeshSkin

structure Attribute where
  name : String
  components : Nat
  values : Values
  deriving DecidableEq, Repr

namespace Attribute

/-- An attribute whose values fill whole tuples. -/
def ofValues (name : String) (components : Nat) (values : Values) : Except MeshError Attribute :=
  if components = 0 ∨ values.size % components ≠ 0 then
    .error (.attributeShape name components values.size)
  else .ok ⟨name, components, values⟩

/-- The number of whole tuples; there is none for tuples without components. -/
def tupleCount? (array : Attribute) : Option Nat :=
  if array.components = 0 then none else some (array.values.size / array.components)

def tuple? (array : Attribute) (row : Nat) : Option (List Float) :=
  array.values.floats? array.components row

def gather (array : Attribute) (rows : List Nat) : Option Attribute :=
  (array.values.gather array.components rows).map fun values => { array with values }

def extend (array : Attribute) (stencils : List Stencil) : Option Attribute :=
  (array.values.extend array.components stencils).map fun values => { array with values }

def sameValue (a b : Attribute) : Bool :=
  a.name == b.name && a.components == b.components && a.values.sameValue b.values

/-- The values fill whole tuples of at least one component. -/
structure WellShaped (array : Attribute) : Prop where
  components_pos : 0 < array.components
  whole : array.values.size % array.components = 0

theorem ofValues_eq_ok_iff {name : String} {components : Nat} {values : Values}
    {array : Attribute} :
    ofValues name components values = .ok array ↔
      array = ⟨name, components, values⟩ ∧ array.WellShaped := by
  simp only [ofValues]
  split
  · rename_i bad
    simp only [reduceCtorEq, false_iff, not_and]
    rintro rfl ⟨pos, whole⟩
    simp only at pos whole
    omega
  · rename_i good
    simp only [Except.ok.injEq, eq_comm (a := array)]
    refine ⟨fun same => ⟨same, ?_⟩, And.left⟩
    subst same
    exact ⟨by simp only; omega, by simp only; omega⟩

end Attribute
end MeshSkin
