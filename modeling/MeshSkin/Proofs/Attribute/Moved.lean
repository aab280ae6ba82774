import MeshSkin.Proofs.Attribute.Interpolation

/-!
# Attributes under other row numbers

An attribute with the rows of another one, each at a new place, perhaps among further rows
(`Attribute.Within`) or not (`Attribute.Moved`). Gathering the rows at their new places gives what
gathering them from the original gives (`Attribute.Moved.gather_eq`), and so does extending by
stencils that name them there (`Attribute.Moved.extend`). Both lift to tables.
-/

namespace MeshSkin

section Tuples

variable {α : Type} {components : Nat} {values others : Array α} {place : Nat → Nat}

theorem gatherTuples_map {rows : List Nat}
    (same : ∀ row ∈ rows, tuple? components others (place row) = tuple? components values row) :
    gatherTuples components others (rows.map place) = gatherTuples components values rows := by
  unfold gatherTuples
  rw [List.mapM_map]
  apply congrArg
  induction rows with
  | nil => rfl
  | cons row rest ih =>
    rw [List.mapM_cons, List.mapM_cons, Function.comp_apply, same row (by simp),
      ih fun later member => same later (List.mem_cons_of_mem row member)]

/-- Equal rows hold the same tuple. -/
theorem tuple?_eq_of_map {wrap : Array α → Values} (injective : Function.Injective wrap)
    {row other : Nat}
    (same : (tuple? components others other).map (fun tuple => wrap tuple.toArray) =
      (tuple? components values row).map fun tuple => wrap tuple.toArray) :
    tuple? components others other = tuple? components values row := by
  refine Option.map_injective (fun first second equal => ?_) same
  exact List.toArray_inj (injective equal)

end Tuples

namespace Values

variable {values others : Values} {components : Nat} {place : Nat → Nat}

/-- Rows gathered from their new places. -/
theorem gather_map (storage : others.storage = values.storage) {rows : List Nat}
    (same : ∀ row ∈ rows, others.row? components (place row) = values.row? components row) :
    others.gather components (rows.map place) = values.gather components rows := by
  cases values <;> cases others <;> cases storage
  case bytes xs ys =>
    rw [gather, gather, gatherTuples_map fun row member =>
      tuple?_eq_of_map (fun _ _ => Values.bytes.inj) (same row member)]
  case integers xs ys =>
    rw [gather, gather, gatherTuples_map fun row member =>
      tuple?_eq_of_map (fun _ _ => Values.integers.inj) (same row member)]
  case reals xs ys =>
    rw [gather, gather, gatherTuples_map fun row member =>
      tuple?_eq_of_map (fun _ _ => Values.reals.inj) (same row member)]

/-- The row that a stencil makes depends on the rows it names, not on their numbers. -/
theorem interpolated_renumber (storage : others.storage = values.storage) {stencil : Stencil}
    (fits : ∀ entry ∈ stencil, (entry.1 + 1) * components ≤ values.size)
    (same : ∀ entry ∈ stencil,
      others.row? components (place entry.1) = values.row? components entry.1) :
    others.interpolated components (stencil.renumber place) =
      values.interpolated components stencil := by
  cases values <;> cases others <;> cases storage
  case bytes xs ys =>
    rw [interpolated, interpolated, interpolate_renumber fits fun entry member =>
      tuple?_eq_of_map (fun _ _ => Values.bytes.inj) (same entry member)]
  case integers xs ys =>
    rw [interpolated, interpolated, interpolate_renumber fits fun entry member =>
      tuple?_eq_of_map (fun _ _ => Values.integers.inj) (same entry member)]
  case reals xs ys =>
    rw [interpolated, interpolated, interpolate_renumber fits fun entry member =>
      tuple?_eq_of_map (fun _ _ => Values.reals.inj) (same entry member)]

end Values

namespace Attribute

/-- An attribute that has the rows of the original, the one of each `row` at `place row`. -/
structure Within (count : Nat) (place : Nat → Nat) (original made : Attribute) : Prop
    extends Like original made where
  row_eq : ∀ row < count, ∃ tuple,
    original.row? row = some tuple ∧ made.row? (place row) = some tuple

/-- An attribute with the rows of the original, the one of each `row` at `place row`. -/
structure Moved (count : Nat) (place : Nat → Nat) (original made : Attribute) : Prop
    extends Like original made where
  tupleCount_eq : made.tupleCount? = some count
  row_eq : ∀ row < count, ∃ tuple,
    original.row? row = some tuple ∧ made.row? (place row) = some tuple

variable {count : Nat} {place : Nat → Nat} {original made : Attribute}

theorem Moved.within (moved : Moved count place original made) : Within count place original made :=
  ⟨moved.toLike, moved.row_eq⟩

/-- Rows that are there are within wherever they are found. -/
theorem Like.within (like : Like original made) (tuples : original.tupleCount? = some count)
    (same : ∀ row < count, made.row? (place row) = original.row? row) :
    Within count place original made where
  toLike := like
  row_eq row bound := by
    obtain ⟨tuple, read, _⟩ := (extended_self tuples).row_eq row bound
    exact ⟨tuple, read, (same row bound).trans read⟩

/-- Rows that are all there are moved where they are found. -/
theorem Like.moved (like : Like original made) (tuples : original.tupleCount? = some count)
    (tuples' : made.tupleCount? = some count)
    (same : ∀ row < count, made.row? (place row) = original.row? row) :
    Moved count place original made where
  toLike := like
  tupleCount_eq := tuples'
  row_eq := (like.within tuples same).row_eq

theorem Moved.values_row?_eq (moved : Moved count place original made) {row : Nat}
    (h : row < count) :
    made.values.row? original.components (place row) =
      original.values.row? original.components row := by
  obtain ⟨tuple, found, also⟩ := moved.row_eq row h
  rw [row?, moved.components_eq] at also
  rw [also, ← found, row?]

/-- Rows gathered from their new places. -/
theorem Moved.gather_eq (moved : Moved count place original made) {rows : List Nat}
    (h : ∀ row ∈ rows, row < count) : made.gather (rows.map place) = original.gather rows := by
  unfold gather
  rw [moved.components_eq, Values.gather_map moved.storage_eq fun row member =>
    moved.values_row?_eq (h row member)]
  cases original
  cases made
  obtain rfl := moved.name_eq
  obtain rfl := moved.components_eq
  rfl

/-- The row that a stencil makes of the moved rows. -/
theorem Moved.interpolated_eq (moved : Moved count place original made)
    (tuples : original.tupleCount? = some count) {stencil : Stencil}
    (h : ∀ entry ∈ stencil, entry.1 < count) :
    made.values.interpolated made.components (stencil.renumber place) =
      original.values.interpolated original.components stencil := by
  rw [moved.components_eq]
  exact Values.interpolated_renumber moved.storage_eq
    (fun entry member => le_size_of_lt tuples (h entry member))
    fun entry member => moved.values_row?_eq (h entry member)

/-- Extending moved rows: the old rows stay where they are, and each new row is where the new place
of its stencil says. -/
theorem Moved.extend (moved : Moved count place original made)
    (tuples : original.tupleCount? = some count) (shaped : original.WellShaped)
    {stencils others : List Stencil} (same_length : others.length = stencils.length)
    (h : ∀ stencil ∈ stencils, ∀ entry ∈ stencil, entry.1 < count)
    (h' : ∀ stencil ∈ others, ∀ entry ∈ stencil, entry.1 < count) {moves : Nat → Nat}
    (old : ∀ row < count, moves row = place row ∧ place row < count)
    (new : ∀ (j : Nat) (stencil : Stencil), stencils[j]? = some stencil →
      ∃ i, others[i]? = some (stencil.renumber place) ∧ moves (count + j) = count + i) :
    ∃ first second, original.extend stencils = some first ∧ made.extend others = some second ∧
      Moved (count + stencils.length) moves first second := by
  obtain ⟨first, some_first, extended⟩ := extend_eq_some tuples h
  obtain ⟨second, some_second, extended'⟩ := extend_eq_some moved.tupleCount_eq h'
  refine ⟨first, second, some_first, some_second, ⟨?_, ?_, ?_, ?_⟩, ?_, ?_⟩
  · rw [extended'.name_eq, moved.name_eq, extended.name_eq]
  · rw [extended'.components_eq, moved.components_eq, extended.components_eq]
  · rw [extended'.storage_eq, moved.storage_eq, extended.storage_eq]
  · exact fun _ => extended'.wellShaped (moved.wellShaped shaped)
  · rw [extended'.tupleCount_eq, same_length]
  · intro row bound
    by_cases early : row < count
    · obtain ⟨tuple, here, there⟩ := moved.row_eq row early
      obtain ⟨_, read, kept⟩ := extended.row_eq row early
      obtain ⟨_, read', kept'⟩ := extended'.row_eq (place row) (old row early).2
      rw [here] at read
      rw [there] at read'
      cases read
      cases read'
      exact ⟨tuple, kept, (old row early).1 ▸ kept'⟩
    · obtain ⟨j, rfl⟩ := Nat.exists_eq_add_of_le (Nat.le_of_not_lt early)
      have listed : j < stencils.length := by omega
      obtain ⟨i, found, at_new⟩ := new j _ (List.getElem?_eq_getElem listed)
      obtain ⟨bound', renumbered⟩ := List.getElem?_eq_some_iff.1 found
      refine ⟨_, extend_new tuples shaped h some_first listed, ?_⟩
      rw [at_new, extend_new moved.tupleCount_eq (moved.wellShaped shaped) h' some_second bound',
        renumbered, moved.interpolated_eq tuples (h _ (List.getElem_mem listed))]

/-- Single values are found at their new places. -/
theorem Within.levels_eq {name name' : String} {levels others : Array UInt8}
    (within : Within count place ⟨name, 1, .bytes levels⟩ ⟨name', 1, .bytes others⟩) {row : Nat}
    (h : row < count) : others[place row]? = levels[row]? := by
  obtain ⟨tuple, found, also⟩ := within.row_eq row h
  obtain ⟨values, read, rfl⟩ := Option.map_eq_some_iff.1 found
  obtain ⟨values', read', same⟩ := Option.map_eq_some_iff.1 also
  obtain rfl := List.toArray_inj (Values.bytes.inj same)
  rw [← getElem?_tupleAt_one, ← getElem?_tupleAt_one, ← (tuple?_eq_some_iff.1 read).2,
    ← (tuple?_eq_some_iff.1 read').2]

end Attribute

namespace Checked

variable {α β γ δ : Type} {f : α → Option γ} {g : β → Option δ} {Given : α → β → Prop}
  {items : List α} {others : List β}

/-- Lookups for paired items that answer alike. -/
theorem mapM_congr_forall₂ {g : β → Option γ} (pairs : List.Forall₂ Given items others)
    (same : ∀ item other, Given item other → g other = f item) :
    others.mapM g = items.mapM f := by
  induction pairs with
  | nil => rfl
  | cons head _ ih => rw [List.mapM_cons, List.mapM_cons, same _ _ head, ih]

/-- Lookups for paired items whose answers are paired in turn. -/
theorem mapM_forall₂_pairs {Related : γ → δ → Prop} (pairs : List.Forall₂ Given items others)
    (answers : ∀ item ∈ items, ∀ other, Given item other →
      ∃ out out', f item = some out ∧ g other = some out' ∧ Related out out') :
    ∃ outs outs', items.mapM f = some outs ∧ others.mapM g = some outs' ∧
      List.Forall₂ Related outs outs' := by
  induction pairs with
  | nil => exact ⟨[], [], rfl, rfl, .nil⟩
  | cons head _ ih =>
    obtain ⟨out, out', found, also, related⟩ := answers _ (by simp) _ head
    obtain ⟨outs, outs', all, alls, rest⟩ :=
      ih fun item member => answers item (List.mem_cons_of_mem _ member)
    refine ⟨out :: outs, out' :: outs', ?_, ?_, .cons related rest⟩
    · rw [List.mapM_cons, found, all]
      rfl
    · rw [List.mapM_cons, also, alls]
      rfl

end Checked

namespace AttributeTable

/-- A table with the arrays of the original in their order, each of which has the rows of the
original one. -/
def Within (count : Nat) (place : Nat → Nat) (original made : AttributeTable) : Prop :=
  List.Forall₂ (Attribute.Within count place) original.arrays made.arrays

/-- A table with the arrays of the original in their order, the rows of each moved. -/
def Moved (count : Nat) (place : Nat → Nat) (original made : AttributeTable) : Prop :=
  List.Forall₂ (Attribute.Moved count place) original.arrays made.arrays

variable {count : Nat} {place : Nat → Nat} {original made : AttributeTable}

theorem Moved.within (moved : Moved count place original made) : Within count place original made :=
  List.Forall₂.imp (fun _ _ pair => pair.within) moved

/-- A row is found at its new place. -/
theorem Within.tuples?_eq_some (within : Within count place original made) {row : Nat}
    (h : row < count) :
    ∃ tuples, original.tuples? row = some tuples ∧ made.tuples? (place row) = some tuples :=
  AttributeTable.tuples?_eq_some (within.imp fun _ _ pair => ⟨pair.name_eq, pair.row_eq row h⟩)

/-- Rows gathered from their new places. -/
theorem Moved.gather_eq (moved : Moved count place original made) {rows : List Nat}
    (h : ∀ row ∈ rows, row < count) : made.gather (rows.map place) = original.gather rows := by
  unfold gather
  rw [Checked.mapM_congr_forall₂ moved fun array other pair => pair.gather_eq h]

/-- Extending moved rows, for a table. -/
theorem Moved.extend (moved : Moved count place original made)
    (tuples : ∀ array ∈ original.arrays, array.tupleCount? = some count)
    (shaped : ∀ array ∈ original.arrays, array.WellShaped)
    {stencils others : List Stencil} (same_length : others.length = stencils.length)
    (h : ∀ stencil ∈ stencils, ∀ entry ∈ stencil, entry.1 < count)
    (h' : ∀ stencil ∈ others, ∀ entry ∈ stencil, entry.1 < count) {moves : Nat → Nat}
    (old : ∀ row < count, moves row = place row ∧ place row < count)
    (new : ∀ (j : Nat) (stencil : Stencil), stencils[j]? = some stencil →
      ∃ i, others[i]? = some (stencil.renumber place) ∧ moves (count + j) = count + i)
    {first second : AttributeTable} (some_first : original.extend stencils = some first)
    (some_second : made.extend others = some second) :
    Moved (count + stencils.length) moves first second := by
  obtain ⟨outs, outs', found, also, pairs⟩ := Checked.mapM_forall₂_pairs moved
    fun array member _ pair =>
      pair.extend (tuples array member) (shaped array member) same_length h h' old new
  unfold AttributeTable.extend at some_first some_second
  rw [found] at some_first
  rw [also] at some_second
  cases some_first
  cases some_second
  exact pairs

/-- The arrays that bear a name are found together. -/
theorem Within.find? (within : Within count place original made) (name : String) :
    Option.Rel (Attribute.Within count place) (original.find? name) (made.find? name) := by
  obtain ⟨arrays⟩ := original
  obtain ⟨others⟩ := made
  unfold Within at within
  unfold AttributeTable.find?
  simp only at within ⊢
  induction within with
  | nil => exact .none
  | @cons array other _ _ head _ ih =>
    rw [List.find?_cons, List.find?_cons, head.name_eq]
    cases array.name == name
    · exact ih
    · exact .some head

/-- The ghost levels are found together, and the level of a row is at its new place. -/
theorem Within.ghostLevels? (within : Within count place original made) :
    Option.Rel (fun levels others => ∀ row < count, others[place row]? = levels[row]?)
      original.ghostLevels? made.ghostLevels? := by
  have pair := within.find? ghostLevelsName
  unfold AttributeTable.ghostLevels?
  generalize original.find? ghostLevelsName = found at pair
  generalize made.find? ghostLevelsName = also at pair
  cases pair with
  | none => exact .none
  | @some array other pair =>
    obtain ⟨name, components, values⟩ := array
    obtain ⟨name', components', values'⟩ := other
    obtain rfl : components' = components := pair.components_eq
    have storage : values'.storage = values.storage := pair.storage_eq
    match components' with
    | 0 | _ + 2 => exact .none
    | 1 =>
      cases values <;> cases values' <;> cases storage
      case integers.integers.refl | reals.reals.refl => exact .none
      case bytes.bytes.refl levels others => exact .some fun row bound => pair.levels_eq bound

end AttributeTable
end MeshSkin
