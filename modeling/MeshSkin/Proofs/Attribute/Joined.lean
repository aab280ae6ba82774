import MeshSkin.Proofs.Attribute.Moved

/-!
# Joined attributes

Two attributes of one shape, the values of the second behind those of the first. If the first fills
whole tuples, the rows of both are there: those of the first where they were, those of the second
behind them (`Attribute.within_join_left`, `Attribute.within_join_right`). Tables of the same shapes
are joined array by array.
-/

namespace MeshSkin

namespace Values

variable {values others : Values} {components : Nat}

/-- The values of both, if they are stored alike. -/
def append : Values → Values → Values
  | .bytes values, .bytes others => .bytes (values ++ others)
  | .integers values, .integers others => .integers (values ++ others)
  | .reals values, .reals others => .reals (values ++ others)
  | values, _ => values

theorem storage_append : (values.append others).storage = values.storage := by
  cases values <;> cases others <;> rfl

theorem size_append (same : others.storage = values.storage) :
    (values.append others).size = values.size + others.size := by
  cases values <;> cases others <;> cases same <;> exact Array.size_append

theorem row?_append_left {row : Nat} (h : (row + 1) * components ≤ values.size) :
    (values.append others).row? components row = values.row? components row := by
  cases values <;> cases others
  case bytes.bytes | integers.integers | reals.reals =>
    rw [append, row?, row?, tuple?_append h]
  all_goals rfl

theorem row?_append_right (same : others.storage = values.storage) {count row : Nat}
    (whole : values.size = count * components) (h : (row + 1) * components ≤ others.size) :
    (values.append others).row? components (count + row) = others.row? components row := by
  cases values <;> cases others <;> cases same <;>
    rw [append, row?, row?, tuple?_append_right whole h]

end Values

namespace Attribute

variable {array other : Attribute} {count more : Nat}

/-- Everything about an attribute but its values. -/
def shape (array : Attribute) : String × Nat × StorageKind :=
  (array.name, array.components, array.values.storage)

/-- The rows of one attribute and then those of another. -/
def join (array other : Attribute) : Attribute :=
  { array with values := array.values.append other.values }

section Join

variable (same : other.shape = array.shape)

include same

theorem components_eq_of_shape_eq : other.components = array.components :=
  (Prod.mk.inj (Prod.mk.inj same).2).1

theorem storage_eq_of_shape_eq : other.values.storage = array.values.storage :=
  (Prod.mk.inj (Prod.mk.inj same).2).2

theorem wellShaped_join (shaped : array.WellShaped) (shaped' : other.WellShaped) :
    (array.join other).WellShaped where
  components_pos := shaped.components_pos
  whole := by
    have whole' := shaped'.whole
    rw [components_eq_of_shape_eq same] at whole'
    show (array.values.append other.values).size % array.components = 0
    rw [Values.size_append (storage_eq_of_shape_eq same), Nat.add_mod, shaped.whole, whole']
    exact Nat.zero_mod _

end Join

section Rows

variable (same : other.shape = array.shape) (tuples : array.tupleCount? = some count)
  (shaped : array.WellShaped) (tuples' : other.tupleCount? = some more)
  (shaped' : other.WellShaped)

include same tuples shaped tuples' shaped'

theorem tupleCount?_join : (array.join other).tupleCount? = some (count + more) := by
  have size := size_eq_of_tupleCount? tuples shaped
  have size' := size_eq_of_tupleCount? tuples' shaped'
  rw [components_eq_of_shape_eq same] at size'
  rw [tupleCount?_eq_some_iff]
  refine ⟨shaped.components_pos, ?_⟩
  show (array.values.append other.values).size / array.components = _
  rw [Values.size_append (storage_eq_of_shape_eq same), size, size', ← Nat.add_mul,
    Nat.mul_div_cancel _ shaped.components_pos]

omit tuples' in
/-- The rows of the first attribute stay where they are. -/
theorem within_join_left : Within count id array (array.join other) := by
  have like : Like array (array.join other) :=
    ⟨rfl, rfl, Values.storage_append, fun _ => wellShaped_join same shaped shaped'⟩
  exact like.within tuples fun row bound => Values.row?_append_left (le_size_of_lt tuples bound)

/-- The rows of the second attribute come behind them. -/
theorem within_join_right : Within more (count + ·) other (array.join other) := by
  have like : Like other (array.join other) :=
    ⟨(Prod.mk.inj same).1.symm, (components_eq_of_shape_eq same).symm,
      Values.storage_append.trans (storage_eq_of_shape_eq same).symm,
      fun _ => wellShaped_join same shaped shaped'⟩
  refine like.within tuples' fun row bound => ?_
  have there := le_size_of_lt tuples' bound
  rw [components_eq_of_shape_eq same] at there
  rw [row?, row?, components_eq_of_shape_eq same]
  exact Values.row?_append_right (storage_eq_of_shape_eq same)
    (size_eq_of_tupleCount? tuples shaped) there

end Rows

end Attribute

namespace AttributeTable

/-- The names, components and storage of all arrays in their order. -/
def shapes (table : AttributeTable) : List (String × Nat × StorageKind) :=
  table.arrays.map Attribute.shape

/-- The rows of one table and then those of another. -/
def join (table other : AttributeTable) : AttributeTable :=
  ⟨(table.arrays.zip other.arrays).map fun (array, other) => array.join other⟩

/-- Tables with the same arrays, all of whole tuples, `count` in the first and `more` in the
second. -/
structure Joinable (table other : AttributeTable) (count more : Nat) : Prop where
  shapes_eq : other.shapes = table.shapes
  tuples : ∀ array ∈ table.arrays, array.tupleCount? = some count
  shaped : ∀ array ∈ table.arrays, array.WellShaped
  tuples' : ∀ array ∈ other.arrays, array.tupleCount? = some more
  shaped' : ∀ array ∈ other.arrays, array.WellShaped

namespace Joinable

variable {table other : AttributeTable} {count more : Nat}
  (joinable : table.Joinable other count more)

include joinable

theorem length_eq : other.arrays.length = table.arrays.length := by
  have lengths := congrArg List.length joinable.shapes_eq
  rwa [shapes, shapes, List.length_map, List.length_map] at lengths

/-- The arrays that are joined are members of both tables and have one shape. -/
theorem of_mem_zip {pair : Attribute × Attribute} (h : pair ∈ table.arrays.zip other.arrays) :
    pair.1 ∈ table.arrays ∧ pair.2 ∈ other.arrays ∧ pair.2.shape = pair.1.shape := by
  refine ⟨(List.of_mem_zip h).1, (List.of_mem_zip h).2, ?_⟩
  obtain ⟨i, bound, rfl⟩ := List.mem_iff_getElem.1 h
  rw [List.length_zip] at bound
  have here := congrArg (fun shapes => shapes[i]?) joinable.shapes_eq
  simp only [shapes, List.getElem?_map] at here
  rw [List.getElem?_eq_getElem (by omega), List.getElem?_eq_getElem (by omega)] at here
  rw [List.getElem_zip]
  exact Option.some.inj here

theorem within_left : table.Within count id (table.join other) := by
  have pairs : List.Forall₂ (Attribute.Within count id)
      ((table.arrays.zip other.arrays).map Prod.fst)
      ((table.arrays.zip other.arrays).map fun pair => pair.1.join pair.2) := by
    rw [List.forall₂_map_left_iff, List.forall₂_map_right_iff, List.forall₂_same]
    intro pair member
    obtain ⟨listed, listed', same⟩ := joinable.of_mem_zip member
    exact Attribute.within_join_left same (joinable.tuples _ listed) (joinable.shaped _ listed)
      (joinable.shaped' _ listed')
  rwa [List.map_fst_zip (Nat.le_of_eq joinable.length_eq.symm)] at pairs

theorem within_right : other.Within more (count + ·) (table.join other) := by
  have pairs : List.Forall₂ (Attribute.Within more (count + ·))
      ((table.arrays.zip other.arrays).map Prod.snd)
      ((table.arrays.zip other.arrays).map fun pair => pair.1.join pair.2) := by
    rw [List.forall₂_map_left_iff, List.forall₂_map_right_iff, List.forall₂_same]
    intro pair member
    obtain ⟨listed, listed', same⟩ := joinable.of_mem_zip member
    exact Attribute.within_join_right same (joinable.tuples _ listed) (joinable.shaped _ listed)
      (joinable.tuples' _ listed') (joinable.shaped' _ listed')
  rwa [List.map_snd_zip (Nat.le_of_eq joinable.length_eq)] at pairs

/-- The joined arrays have the tuples of both and fill them. -/
theorem of_mem_join {array : Attribute} (h : array ∈ (table.join other).arrays) :
    array.tupleCount? = some (count + more) ∧ array.WellShaped := by
  obtain ⟨pair, member, rfl⟩ := List.mem_map.1 h
  obtain ⟨listed, listed', same⟩ := joinable.of_mem_zip member
  have shaped := joinable.shaped _ listed
  have shaped' := joinable.shaped' _ listed'
  exact ⟨Attribute.tupleCount?_join same (joinable.tuples _ listed) shaped
    (joinable.tuples' _ listed') shaped', Attribute.wellShaped_join same shaped shaped'⟩

/-- The joined table has the same arrays again. -/
theorem names_join : (table.join other).arrays.map Attribute.name =
    table.arrays.map Attribute.name := by
  have names := List.map_fst_zip (Nat.le_of_eq joinable.length_eq.symm)
  rw [join, List.map_map, ← congrArg (List.map Attribute.name) names, List.map_map]
  rfl

end Joinable

end AttributeTable

end MeshSkin
