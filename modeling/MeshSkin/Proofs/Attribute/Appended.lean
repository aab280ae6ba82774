import MeshSkin.Proofs.Attribute.Components

/-!
# Appended tuples

Extending appends one tuple for each stencil, component by component, and touches nothing else
(`AttributeTable.extend_appends`). A new component is the weighted sum of that component of the
tuples that its stencil names, as the array stores it. No other stencil, component or array takes
part, so stencils may be appended in one go or in several.
-/

namespace MeshSkin

/-- Lookups one behind the other, all first ones before the second ones or each pair in turn. -/
theorem Checked.mapM_bind_mapM {α β γ : Type} (f : α → Option β) (g : β → Option γ)
    (items : List α) :
    ((items.mapM f).bind fun outs => outs.mapM g) = items.mapM fun item => (f item).bind g := by
  induction items with
  | nil => rfl
  | cons item rest ih =>
    rw [List.mapM_cons, List.mapM_cons, ← ih]
    cases f item with
    | none => rfl
    | some out =>
      cases rest.mapM f with
      | none => cases found : g out <;> simp [found]
      | some outs => simp

/-- Stencils appended one list after the other. -/
theorem Values.extend_extend (values : Values) (components : Nat) (stencils more : List Stencil) :
    ((values.extend components stencils).bind fun made => made.extend components more) =
      values.extend components (stencils ++ more) := by
  cases values with
  | bytes values =>
    simp only [extend, pushTuples, List.foldlM_append]
    cases stencils.foldlM (pushTuple .byte components) values <;> rfl
  | integers values =>
    simp only [extend, pushTuples, List.foldlM_append]
    cases stencils.foldlM (pushTuple .integer components) values <;> rfl
  | reals values =>
    simp only [extend, pushTuples, List.foldlM_append]
    cases stencils.foldlM (pushTuple .real components) values <;> rfl

namespace Attribute

theorem extend_extend (array : Attribute) (stencils more : List Stencil) :
    ((array.extend stencils).bind fun made => made.extend more) =
      array.extend (stencils ++ more) := by
  simp only [extend]
  rw [← Values.extend_extend]
  cases array.values.extend array.components stencils <;> rfl

/-- An attribute with one more tuple for each stencil behind the original ones. -/
structure Appended (count : Nat) (stencils : List Stencil) (original made : Attribute) : Prop
    extends Like original made where
  tupleCount_eq : made.tupleCount? = some (count + stencils.length)
  size_eq : made.values.size = (count + stencils.length) * made.components
  /-- The original tuples stay what they are. -/
  old : ∀ row < count, ∀ k, made.component? row k = original.component? row k
  /-- A new component is the stored sum of the weighted components that its stencil names. -/
  new : ∀ (j : Nat) (stencil : Stencil), stencils[j]? = some stencil →
    ∀ k < original.components, ∃ read : Nat → Scalar,
      (∀ entry ∈ stencil, original.component? entry.1 k = some (read entry.1)) ∧
        made.component? (count + j) k =
          some (.ofSum (sumOf (fun point => (read point).toFloat) stencil) original.values.storage)

variable {array : Attribute} {count : Nat} {stencils : List Stencil}
  (tuples : array.tupleCount? = some count) (shaped : array.WellShaped)
  (h : ∀ stencil ∈ stencils, ∀ entry ∈ stencil, entry.1 < count)

include tuples shaped h

/-- The component that a stencil makes. -/
theorem component?_new {extended : Attribute} (found : array.extend stencils = some extended)
    (like : Like array extended) {j k : Nat} {stencil : Stencil}
    (listed : stencils[j]? = some stencil) (inside : k < array.components) :
    ∃ read : Nat → Scalar,
      (∀ entry ∈ stencil, array.component? entry.1 k = some (read entry.1)) ∧
        extended.component? (count + j) k =
          some (.ofSum (sumOf (fun point => (read point).toFloat) stencil)
            array.values.storage) := by
  obtain ⟨bound, same⟩ := List.getElem?_eq_some_iff.1 listed
  have made := extend_new tuples shaped h found bound
  rw [same] at made
  obtain ⟨read, reads, value⟩ := Values.value?_interpolated inside fun entry member =>
    le_size_of_lt tuples (h stencil (List.mem_of_getElem? listed) entry member)
  refine ⟨read, fun entry member => ?_, ?_⟩
  · rw [component?, if_pos inside, reads entry member]
  · rw [component?_of_row? made, like.components_eq, if_pos inside, value]

theorem extend_appended :
    ∃ extended, array.extend stencils = some extended ∧
      Appended count stencils array extended := by
  obtain ⟨extended, found, kept⟩ := extend_eq_some tuples h
  refine ⟨extended, found, kept.toLike, kept.tupleCount_eq, ?_, fun row bound k => ?_,
    fun j stencil listed k inside => component?_new tuples shaped h found kept.toLike listed inside⟩
  · exact size_eq_of_tupleCount? kept.tupleCount_eq (kept.wellShaped shaped)
  · obtain ⟨tuple, read, also⟩ := kept.row_eq row bound
    exact component?_congr kept.components_eq read also k

end Attribute

namespace AttributeTable

theorem extend_extend (table : AttributeTable) (stencils more : List Stencil) :
    ((table.extend stencils).bind fun made => made.extend more) =
      table.extend (stencils ++ more) := by
  simp only [extend, ← Attribute.extend_extend]
  rw [← Checked.mapM_bind_mapM]
  cases table.arrays.mapM fun array => array.extend stencils <;> rfl

/-- Every array of whole tuples gets a tuple for each stencil. -/
theorem extend_appended {table : AttributeTable} {count : Nat} {stencils : List Stencil}
    (tuples : ∀ array ∈ table.arrays, array.tupleCount? = some count)
    (shaped : ∀ array ∈ table.arrays, array.WellShaped)
    (h : ∀ stencil ∈ stencils, ∀ entry ∈ stencil, entry.1 < count) :
    ∃ extended, table.extend stencils = some extended ∧
      List.Forall₂ (Attribute.Appended count stencils) table.arrays extended.arrays := by
  obtain ⟨arrays, found, related⟩ := Checked.mapM_forall₂ fun array member =>
    Attribute.extend_appended (tuples array member) (shaped array member) h
  exact ⟨⟨arrays⟩, by rw [extend, found]; rfl, related⟩

/-- Extending a table appends a tuple for each stencil to every array, and stencils may as well be
appended in two parts. -/
theorem extend_appends (table : AttributeTable) (count : Nat) (stencils : List Stencil)
    (checked : ∀ array ∈ table.arrays,
      Attribute.ofValues array.name array.components array.values = .ok array)
    (tuples : ∀ array ∈ table.arrays, array.tupleCount? = some count)
    (h : ∀ stencil ∈ stencils, ∀ entry ∈ stencil, entry.1 < count) :
    (∃ extended, table.extend stencils = some extended ∧
      List.Forall₂ (Attribute.Appended count stencils) table.arrays extended.arrays) ∧
      ∀ more, ((table.extend stencils).bind fun made => made.extend more) =
        table.extend (stencils ++ more) := by
  have shaped := fun array member => (Attribute.ofValues_eq_ok_iff.1 (checked array member)).2
  exact ⟨extend_appended tuples shaped h, extend_extend table stencils⟩

/-- Two points with a pair of bytes, an integer and a number each. -/
def twoPoints : AttributeTable :=
  ⟨[⟨"flags", 2, .bytes #[0, 9, 5, 20]⟩, ⟨"id", 1, .integers #[-3, 8]⟩,
    ⟨"heat", 1, .reals #[1.0, 2.0]⟩]⟩

/-- Halfway between the points and beyond the second one; the halves go away from zero and the bytes
stop at 255. -/
theorem twoPoints_appends :
    (∀ array ∈ twoPoints.arrays,
      Attribute.ofValues array.name array.components array.values = .ok array) ∧
    (∀ array ∈ twoPoints.arrays, array.tupleCount? = some 2) ∧
    (∀ stencil ∈ [[(0, 0.5), (1, 0.5)], [(1, 16.0)]], ∀ entry ∈ stencil, entry.1 < 2) ∧
    twoPoints.extend [[(0, 0.5), (1, 0.5)], [(1, 16.0)]] =
      some ⟨[⟨"flags", 2, .bytes #[0, 9, 5, 20, 3, 15, 80, 255]⟩,
        ⟨"id", 1, .integers #[-3, 8, 3, 128]⟩, ⟨"heat", 1, .reals #[1.0, 2.0, 1.5, 32.0]⟩]⟩ ∧
    (∃ extended, twoPoints.extend [[(0, 0.5), (1, 0.5)], [(1, 16.0)]] = some extended ∧
      List.Forall₂ (Attribute.Appended 2 [[(0, 0.5), (1, 0.5)], [(1, 16.0)]]) twoPoints.arrays
        extended.arrays) := by
  have checked : ∀ array ∈ twoPoints.arrays,
      Attribute.ofValues array.name array.components array.values = .ok array := by
    intro array member
    simp only [twoPoints, List.mem_cons, List.not_mem_nil, or_false] at member
    rcases member with rfl | rfl | rfl <;> rfl
  have tuples : ∀ array ∈ twoPoints.arrays, array.tupleCount? = some 2 := by decide
  have inside : ∀ stencil ∈ [[((0 : Nat), (0.5 : Float)), (1, 0.5)], [(1, 16.0)]],
      ∀ entry ∈ stencil, entry.1 < 2 := by decide
  exact ⟨checked, tuples, inside, by decide,
    (extend_appends twoPoints 2 _ checked tuples inside).1⟩

end AttributeTable
end MeshSkin
