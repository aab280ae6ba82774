import MeshSkin.Proofs.Attribute.Appended
import MeshSkin.Proofs.Attribute.Extendable
import MeshSkin.Proofs.Attribute.Moved

/-!
# Selected rows

Gathering selects rows, by a list of their numbers, and fails only if a row is not there. Selecting
from a selection selects by the selected numbers, selecting all rows in their order changes nothing,
and selecting the old rows of an extended table undoes the extension
(`AttributeTable.gather_selects`).
-/

namespace MeshSkin

/-- Lookups that answer together answer one by one. -/
theorem Checked.forall₂_of_mapM {α β : Type} {f : α → Option β} {items : List α} {outs : List β}
    (found : items.mapM f = some outs) :
    List.Forall₂ (fun item out => f item = some out) items outs := by
  induction items generalizing outs with
  | nil =>
    cases found
    exact .nil
  | cons item rest ih =>
    rw [List.mapM_cons] at found
    obtain ⟨out, head, found⟩ := Option.bind_eq_some_iff.1 found
    obtain ⟨others, tail, found⟩ := Option.bind_eq_some_iff.1 found
    cases found
    exact .cons head (ih tail)

/-- An answer that was found is the answer for one of the items. -/
theorem Checked.exists_of_mem_mapM {α β : Type} {f : α → Option β} {items : List α} {outs : List β}
    (found : items.mapM f = some outs) {out : β} (member : out ∈ outs) :
    ∃ item ∈ items, f item = some out := by
  obtain ⟨length, each⟩ := List.forall₂_iff_get.1 (Checked.forall₂_of_mapM found)
  obtain ⟨i, bound, rfl⟩ := List.mem_iff_getElem.1 member
  exact ⟨_, List.get_mem _ _, each i (length ▸ bound) bound⟩

section Tuples

variable {α : Type} {components : Nat} {values gathered : Array α} {rows : List Nat}

theorem isSome_tuple?_iff {row : Nat} :
    (tuple? components values row).isSome ↔ (row + 1) * components ≤ values.size := by
  constructor
  · intro there
    obtain ⟨tuple, read⟩ := Option.isSome_iff_exists.1 there
    exact (tuple?_eq_some_iff.1 read).1
  · intro there
    rw [tuple?_eq_some there]
    rfl

theorem isSome_gatherTuples_iff :
    (gatherTuples components values rows).isSome ↔
      ∀ row ∈ rows, (row + 1) * components ≤ values.size := by
  rw [gatherTuples, Option.isSome_map, Checked.isSome_mapM_iff]
  simp only [isSome_tuple?_iff]

/-- A tuple of a selection is the selected one, also where there is none. -/
theorem tuple?_gathered (positive : 0 < components)
    (found : gatherTuples components values rows = some gathered) (i : Nat) :
    tuple? components gathered i = rows[i]?.bind (tuple? components values) := by
  obtain ⟨made, also, size, same⟩ :=
    gatherTuples_eq_some (isSome_gatherTuples_iff.1 (Option.isSome_of_eq_some found))
  rw [found] at also
  cases also
  by_cases bound : i < rows.length
  · rw [same i bound, List.getElem?_eq_getElem bound]
    rfl
  · have beyond : ¬ (i + 1) * components ≤ gathered.size := by
      rw [size, Nat.mul_le_mul_right_iff positive]
      omega
    rw [List.getElem?_eq_none (Nat.le_of_not_lt bound), Option.bind_none]
    rw [← isSome_tuple?_iff] at beyond
    simpa using beyond

/-- Selecting from a selection. -/
theorem gatherTuples_gathered (positive : 0 < components)
    (found : gatherTuples components values rows = some gathered) (picks : List Nat) :
    gatherTuples components gathered picks =
      (picks.mapM fun i => rows[i]?).bind (gatherTuples components values) := by
  have selected : tuple? components gathered = fun i => rows[i]?.bind (tuple? components values) :=
    funext (tuple?_gathered positive found)
  unfold gatherTuples
  rw [selected, ← Checked.mapM_bind_mapM]
  cases picks.mapM fun i => rows[i]? <;> rfl

theorem flatten_map_tupleAt (count : Nat) :
    ((List.range count).map (tupleAt components values)).flatten =
      values.toList.take (count * components) := by
  induction count with
  | zero => simp
  | succ count ih =>
    have next : (count + 1) * components = count * components + components :=
      Nat.succ_mul count components
    rw [List.range_succ, List.map_append, List.flatten_append, ih, next, List.take_add]
    simp [tupleAt, next, List.extract_eq_take_drop]

/-- All tuples in their order are the values. -/
theorem gatherTuples_range {count : Nat} (whole : values.size = count * components) :
    gatherTuples components values (List.range count) = some values := by
  have there : ∀ row ∈ List.range count, tuple? components values row =
      some (tupleAt components values row) := by
    intro row member
    refine tuple?_eq_some ?_
    rw [whole]
    exact Nat.mul_le_mul_right _ (List.mem_range.1 member)
  have all : values.toList.take values.size = values.toList := List.take_of_length_le (by simp)
  rw [gatherTuples, Checked.mapM_eq_map there, Option.map_some, flatten_map_tupleAt, ← whole, all,
    Array.toArray_toList]

section Extended

variable {storage : Storage α} {stencil : Stencil} {extended : Array α}

theorem pushComponents_keeps {count k : Nat}
    (found : pushComponents storage components stencil k count values = some extended) :
    ∃ more, extended = values ++ more := by
  induction count generalizing k values with
  | zero => exact ⟨#[], by simpa [pushComponents] using found.symm⟩
  | succ count ih =>
    rw [pushComponents] at found
    cases pushed : pushComponent storage components stencil values k with
    | none => simp [pushed] at found
    | some next =>
      simp only [pushed] at found
      obtain ⟨sum, _, rfl⟩ := Option.map_eq_some_iff.1 pushed
      obtain ⟨more, rfl⟩ := ih found
      exact ⟨#[storage.ofFloat sum] ++ more, by simp⟩

/-- Extending keeps the values and puts others behind them. -/
theorem pushTuples_keeps {stencils : List Stencil}
    (found : pushTuples storage components values stencils = some extended) :
    ∃ more, extended = values ++ more := by
  induction stencils generalizing values with
  | nil => exact ⟨#[], by simpa [pushTuples] using found.symm⟩
  | cons stencil rest ih =>
    rw [pushTuples, List.foldlM_cons] at found
    obtain ⟨next, pushed, found⟩ := Option.bind_eq_some_iff.1 found
    obtain ⟨early, rfl⟩ := pushComponents_keeps pushed
    obtain ⟨late, rfl⟩ := ih found
    exact ⟨early ++ late, by simp⟩

/-- The old tuples of an extended array are its old values. -/
theorem gatherTuples_range_extended {count : Nat} {stencils : List Stencil}
    (whole : values.size = count * components)
    (found : pushTuples storage components values stencils = some extended) :
    gatherTuples components extended (List.range count) = some values := by
  obtain ⟨more, rfl⟩ := pushTuples_keeps found
  have same : ∀ row ∈ List.range count,
      tuple? components (values ++ more) (id row) = tuple? components values row := by
    intro row member
    refine tuple?_append ?_ more
    rw [whole]
    exact Nat.mul_le_mul_right _ (List.mem_range.1 member)
  have kept := gatherTuples_map same
  rw [List.map_id] at kept
  rw [kept, gatherTuples_range whole]

end Extended

end Tuples

namespace Values

variable {values gathered : Values} {components : Nat} {rows : List Nat}

theorem isSome_gather_iff :
    (values.gather components rows).isSome ↔
      ∀ row ∈ rows, (row + 1) * components ≤ values.size := by
  cases values <;> rw [gather, Option.isSome_map, isSome_gatherTuples_iff, size]

theorem gather_gathered (positive : 0 < components)
    (found : values.gather components rows = some gathered) (picks : List Nat) :
    gathered.gather components picks =
      (picks.mapM fun i => rows[i]?).bind fun chosen => values.gather components chosen := by
  cases values with
  | bytes values =>
    obtain ⟨made, selected, rfl⟩ := Option.map_eq_some_iff.1 found
    rw [gather, gatherTuples_gathered positive selected]
    cases picks.mapM fun i => rows[i]? <;> rfl
  | integers values =>
    obtain ⟨made, selected, rfl⟩ := Option.map_eq_some_iff.1 found
    rw [gather, gatherTuples_gathered positive selected]
    cases picks.mapM fun i => rows[i]? <;> rfl
  | reals values =>
    obtain ⟨made, selected, rfl⟩ := Option.map_eq_some_iff.1 found
    rw [gather, gatherTuples_gathered positive selected]
    cases picks.mapM fun i => rows[i]? <;> rfl

theorem gather_range {count : Nat} (whole : values.size = count * components) :
    values.gather components (List.range count) = some values := by
  cases values <;> rw [gather, gatherTuples_range whole] <;> rfl

theorem gather_range_extended {extended : Values} {count : Nat} {stencils : List Stencil}
    (whole : values.size = count * components)
    (found : values.extend components stencils = some extended) :
    extended.gather components (List.range count) = some values := by
  cases values with
  | bytes values =>
    obtain ⟨made, pushed, rfl⟩ := Option.map_eq_some_iff.1 found
    rw [gather, gatherTuples_range_extended whole pushed]
    rfl
  | integers values =>
    obtain ⟨made, pushed, rfl⟩ := Option.map_eq_some_iff.1 found
    rw [gather, gatherTuples_range_extended whole pushed]
    rfl
  | reals values =>
    obtain ⟨made, pushed, rfl⟩ := Option.map_eq_some_iff.1 found
    rw [gather, gatherTuples_range_extended whole pushed]
    rfl

/-- Equal rows are read as equal floats. -/
theorem floats?_congr {others : Values} {row other : Nat} (storage : others.storage = values.storage)
    (same : others.row? components other = values.row? components row) :
    others.floats? components other = values.floats? components row := by
  cases values <;> cases others <;> cases storage
  case bytes xs ys =>
    rw [floats?, floats?, tuple?_eq_of_map (fun _ _ => Values.bytes.inj) same]
  case integers xs ys =>
    rw [floats?, floats?, tuple?_eq_of_map (fun _ _ => Values.integers.inj) same]
  case reals xs ys =>
    rw [floats?, floats?, tuple?_eq_of_map (fun _ _ => Values.reals.inj) same]

end Values

namespace Attribute

/-- An attribute that has, in this order, the tuples of the original at the given rows. -/
structure Selected (rows : List Nat) (original made : Attribute) : Prop
    extends Like original made where
  tupleCount_eq : made.tupleCount? = some rows.length
  component?_eq : ∀ i row, rows[i]? = some row →
    ∀ k, made.component? i k = original.component? row k
  tuple?_eq : ∀ i row, rows[i]? = some row →
    made.tuple? i = original.tuple? row

variable {array made : Attribute} {count : Nat} {rows : List Nat}

section Checked

variable (tuples : array.tupleCount? = some count) (shaped : array.WellShaped)

include tuples

/-- Rows can be selected exactly if all of them are there. -/
theorem isSome_gather_iff (shaped : array.WellShaped) :
    (array.gather rows).isSome ↔ ∀ row ∈ rows, row < count := by
  rw [gather, Option.isSome_map, Values.isSome_gather_iff, size_eq_of_tupleCount? tuples shaped]
  simp only [Nat.mul_le_mul_right_iff shaped.components_pos, Nat.succ_le_iff]

include shaped

theorem selected_of_gather (found : array.gather rows = some made) :
    Selected rows array made := by
  have inside := (isSome_gather_iff tuples shaped).1 (Option.isSome_of_eq_some found)
  obtain ⟨gathered, also, rowwise⟩ := gather_eq_some tuples inside
  rw [found] at also
  cases also
  have reads : ∀ i row, rows[i]? = some row →
      ∃ tuple, array.row? row = some tuple ∧ made.row? i = some tuple := by
    intro i row listed
    obtain ⟨bound, rfl⟩ := List.getElem?_eq_some_iff.1 listed
    exact rowwise.row_eq i bound
  refine ⟨rowwise.toLike, rowwise.tupleCount_eq, fun i row listed k => ?_, fun i row listed => ?_⟩
  · obtain ⟨tuple, read, also⟩ := reads i row listed
    exact component?_congr rowwise.components_eq read also k
  · obtain ⟨tuple, read, also⟩ := reads i row listed
    rw [row?, rowwise.components_eq] at also
    rw [tuple?, tuple?, rowwise.components_eq]
    exact Values.floats?_congr rowwise.storage_eq (also.trans read.symm)

theorem gather_range : array.gather (List.range count) = some array := by
  rw [gather, Values.gather_range (size_eq_of_tupleCount? tuples shaped)]
  rfl

theorem gather_range_extended {extended : Attribute} {stencils : List Stencil}
    (found : array.extend stencils = some extended) :
    extended.gather (List.range count) = some array := by
  obtain ⟨values, grown, rfl⟩ := Option.map_eq_some_iff.1 found
  rw [gather, Values.gather_range_extended (size_eq_of_tupleCount? tuples shaped) grown]
  rfl

end Checked

theorem gather_gathered (shaped : array.WellShaped) (found : array.gather rows = some made)
    {picks chosen : List Nat} (picked : (picks.mapM fun i => rows[i]?) = some chosen) :
    made.gather picks = array.gather chosen := by
  obtain ⟨values, gathered, rfl⟩ := Option.map_eq_some_iff.1 found
  simp only [gather]
  rw [Values.gather_gathered shaped.components_pos gathered, picked]
  rfl

end Attribute

namespace AttributeTable

/-- What gathering does to a table. -/
structure Selects (table : AttributeTable) : Prop where
  /-- It fails exactly if an array ends before one of the rows. -/
  eq_none_iff : ∀ rows, table.gather rows = none ↔
    ∃ array ∈ table.arrays, ∃ count, array.tupleCount? = some count ∧ ∃ row ∈ rows, count ≤ row
  selected : ∀ rows gathered, table.gather rows = some gathered →
    List.Forall₂ (Attribute.Selected rows) table.arrays gathered.arrays
  /-- Selecting from a selection selects by the selected row numbers. -/
  composes : ∀ rows gathered picks chosen, table.gather rows = some gathered →
    (picks.mapM fun i => rows[i]?) = some chosen →
    ∃ again, gathered.gather picks = some again ∧ table.gather chosen = some again
  identity : ∀ count, (∀ array ∈ table.arrays, array.tupleCount? = some count) →
    table.gather (List.range count) = some table
  /-- Stencils may name the points of the table and, each in its turn, the new points before. -/
  extendable : ∀ count, (∀ array ∈ table.arrays, array.tupleCount? = some count) →
    ∀ stencils : List Stencil, (∀ (j : Nat) stencil, stencils[j]? = some stencil →
      ∀ entry ∈ stencil, entry.1 < count + j) → (table.extend stencils).isSome
  /-- The old rows of an extended table are the table. -/
  restores : ∀ count, (∀ array ∈ table.arrays, array.tupleCount? = some count) →
    ∀ stencils extended, table.extend stencils = some extended →
      extended.gather (List.range count) = some table

section Checked

variable {table gathered : AttributeTable} (shaped : ∀ array ∈ table.arrays, array.WellShaped)
  {rows : List Nat}

theorem exists_tupleCount? {array : Attribute} (shaped : array.WellShaped) :
    ∃ count, array.tupleCount? = some count :=
  ⟨_, Attribute.tupleCount?_eq_some_iff.2 ⟨shaped.components_pos, rfl⟩⟩

include shaped

/-- The arrays of a selection, each with the array it was taken from. -/
theorem forall₂_of_gather (found : table.gather rows = some gathered) :
    List.Forall₂ (fun (array made : Attribute) =>
      array.WellShaped ∧ array.gather rows = some made) table.arrays gathered.arrays := by
  obtain ⟨arrays, each, rfl⟩ := Option.map_eq_some_iff.1 found
  exact (List.forall₂_and_left _ _).2 ⟨shaped, Checked.forall₂_of_mapM each⟩

theorem gather_eq_none_iff :
    table.gather rows = none ↔
      ∃ array ∈ table.arrays, ∃ count, array.tupleCount? = some count ∧
        ∃ row ∈ rows, count ≤ row := by
  rw [← Option.not_isSome_iff_eq_none, gather, Option.isSome_map, Checked.isSome_mapM_iff]
  push Not
  refine exists_congr fun array => and_congr_right fun member => ?_
  obtain ⟨count, tuples⟩ := exists_tupleCount? (shaped array member)
  rw [ne_eq, Attribute.isSome_gather_iff tuples (shaped array member)]
  push Not
  constructor
  · exact fun outside => ⟨count, tuples, outside⟩
  · rintro ⟨other, also, outside⟩
    rw [tuples] at also
    cases also
    exact outside

/-- Rows of a selection are there. -/
theorem gather_gathered (found : table.gather rows = some gathered) {picks chosen : List Nat}
    (picked : (picks.mapM fun i => rows[i]?) = some chosen) :
    ∃ again, gathered.gather picks = some again ∧ table.gather chosen = some again := by
  have same : gathered.gather picks = table.gather chosen := by
    unfold gather
    rw [Checked.mapM_congr_forall₂ (forall₂_of_gather shaped found) fun array made pair =>
      Attribute.gather_gathered pair.1 pair.2 picked]
  cases again : table.gather chosen with
  | some gathered' => exact ⟨gathered', same.trans again, rfl⟩
  | none =>
    obtain ⟨array, member, count, tuples, row, listed, outside⟩ :=
      (gather_eq_none_iff shaped).1 again
    obtain ⟨i, _, taken⟩ := Checked.exists_of_mem_mapM picked listed
    have none := (gather_eq_none_iff shaped).2
      ⟨array, member, count, tuples, row, List.mem_of_getElem? taken, outside⟩
    rw [found] at none
    cases none

end Checked

section Counted

variable {table : AttributeTable} {count : Nat}
  (tuples : ∀ array ∈ table.arrays, array.tupleCount? = some count)
  (shaped : ∀ array ∈ table.arrays, array.WellShaped)

include tuples shaped

theorem gather_range : table.gather (List.range count) = some table := by
  have same : ∀ array ∈ table.arrays, array.gather (List.range count) = some (id array) :=
    fun array member => Attribute.gather_range (tuples array member) (shaped array member)
  rw [gather, Checked.mapM_eq_map same, List.map_id]
  rfl

theorem isSome_extend {stencils : List Stencil}
    (inside : ∀ (j : Nat) stencil, stencils[j]? = some stencil →
      ∀ entry ∈ stencil, entry.1 < count + j) : (table.extend stencils).isSome :=
  (isSome_extend_iff tuples).2 fun array member =>
    (Attribute.extendable_iff (tuples array member) (shaped array member)).2 inside

theorem gather_range_extended {extended : AttributeTable} {stencils : List Stencil}
    (found : table.extend stencils = some extended) :
    extended.gather (List.range count) = some table := by
  obtain ⟨arrays, each, rfl⟩ := Option.map_eq_some_iff.1 found
  have pairs := (List.forall₂_and_left _ _).2 ⟨fun array member =>
    And.intro (tuples array member) (shaped array member), Checked.forall₂_of_mapM each⟩
  have same : arrays.mapM (fun (array : Attribute) => array.gather (List.range count)) =
      table.arrays.mapM fun array => some (id array) :=
    Checked.mapM_congr_forall₂ pairs fun array extended pair =>
      Attribute.gather_range_extended pair.1.1 pair.1.2 pair.2
  rw [gather, same, Checked.mapM_eq_map fun _ _ => rfl, List.map_id]
  rfl

end Counted

/-- Gathering selects rows. -/
theorem gather_selects (table : AttributeTable)
    (checked : ∀ array ∈ table.arrays,
      Attribute.ofValues array.name array.components array.values = .ok array) :
    table.Selects := by
  have shaped : ∀ array ∈ table.arrays, array.WellShaped := fun array member =>
    (Attribute.ofValues_eq_ok_iff.1 (checked array member)).2
  refine ⟨fun rows => gather_eq_none_iff shaped, fun rows gathered found => ?_,
    fun rows gathered picks chosen found picked => gather_gathered shaped found picked,
    fun count tuples => gather_range tuples shaped,
    fun count tuples stencils inside => isSome_extend tuples shaped inside,
    fun count tuples stencils extended found => gather_range_extended tuples shaped found⟩
  refine (forall₂_of_gather shaped found).imp fun array made pair => ?_
  obtain ⟨count, tuples⟩ := exists_tupleCount? pair.1
  exact Attribute.selected_of_gather tuples pair.1 pair.2

/-- The second point twice and then the first one; the points picked from that; and no third one. -/
theorem twoPoints_selects :
    (∀ array ∈ twoPoints.arrays,
      Attribute.ofValues array.name array.components array.values = .ok array) ∧
    twoPoints.Selects ∧
    twoPoints.gather [1, 1, 0] =
      some ⟨[⟨"flags", 2, .bytes #[5, 20, 5, 20, 0, 9]⟩, ⟨"id", 1, .integers #[8, 8, -3]⟩,
        ⟨"heat", 1, .reals #[2.0, 2.0, 1.0]⟩]⟩ ∧
    twoPoints.gather [0, 2] = none := by
  have checked : ∀ array ∈ twoPoints.arrays,
      Attribute.ofValues array.name array.components array.values = .ok array := by
    intro array member
    simp only [twoPoints, List.mem_cons, List.not_mem_nil, or_false] at member
    rcases member with rfl | rfl | rfl <;> rfl
  exact ⟨checked, gather_selects twoPoints checked, by decide, by decide⟩

end AttributeTable
end MeshSkin
