import MeshSkin.Proofs.Attribute.Arrays

/-!
# Rows of a table

A row of an attribute table holds one tuple of each array, under the name of the array. A
gathered table has the chosen rows of the original one (`tuples?_gathered`). A table extended
by some stencils has all of its rows in common with one that was extended by more
(`extend_append`): new tuples come behind the old ones and are made of the original values only.
-/

namespace MeshSkin

/-- Two kinds of lookups that answer for each item in a given relation. -/
theorem Checked.mapM_forall₂_both {α β γ : Type} {f : α → Option β} {g : α → Option γ}
    {Related : β → γ → Prop} {items : List α}
    (answers : ∀ item ∈ items, ∃ out other, f item = some out ∧ g item = some other ∧
      Related out other) :
    ∃ outs others, items.mapM f = some outs ∧ items.mapM g = some others ∧
      List.Forall₂ Related outs others := by
  induction items with
  | nil => exact ⟨[], [], rfl, rfl, .nil⟩
  | cons head rest ih =>
    obtain ⟨out, other, found, also, related⟩ := answers head (by simp)
    obtain ⟨outs, others, all, alls, pairs⟩ :=
      ih fun item member => answers item (List.mem_cons_of_mem _ member)
    refine ⟨out :: outs, other :: others, ?_, ?_, .cons related pairs⟩
    · rw [List.mapM_cons, found, all]
      rfl
    · rw [List.mapM_cons, also, alls]
      rfl

/-- Values extended by some stencils and by more. -/
theorem Values.extend_append {values : Values} {components : Nat} {stencils more : List Stencil}
    (h : ∀ stencil ∈ stencils ++ more, ∀ entry ∈ stencil,
      (entry.1 + 1) * components ≤ values.size) :
    ∃ early late, values.extend components stencils = some early ∧
      values.extend components (stencils ++ more) = some late ∧
      early.size = values.size + stencils.length * components ∧
      ∀ row, (row + 1) * components ≤ early.size →
        late.row? components row = early.row? components row := by
  cases values with
  | bytes values =>
    obtain ⟨early, late, found, also, size, same⟩ := pushTuples_more h
    refine ⟨.bytes early, .bytes late, by rw [extend, found]; rfl, by rw [extend, also]; rfl, size,
      fun row bound => ?_⟩
    rw [row?, row?, same row bound]
  | integers values =>
    obtain ⟨early, late, found, also, size, same⟩ := pushTuples_more h
    refine ⟨.integers early, .integers late, by rw [extend, found]; rfl,
      by rw [extend, also]; rfl, size, fun row bound => ?_⟩
    rw [row?, row?, same row bound]
  | reals values =>
    obtain ⟨early, late, found, also, size, same⟩ := pushTuples_more h
    refine ⟨.reals early, .reals late, by rw [extend, found]; rfl, by rw [extend, also]; rfl, size,
      fun row bound => ?_⟩
    rw [row?, row?, same row bound]

/-- Two attributes of one name, with the same tuple at a row of either. -/
def Attribute.AgreeAt (first second : Attribute) (row other : Nat) : Prop :=
  second.name = first.name ∧
    ∃ tuple, first.row? row = some tuple ∧ second.row? other = some tuple

/-- An attribute extended by some stencils and by more. -/
theorem Attribute.extend_append {array : Attribute} {count : Nat} {stencils more : List Stencil}
    (tuples : array.tupleCount? = some count)
    (h : ∀ stencil ∈ stencils ++ more, ∀ entry ∈ stencil, entry.1 < count) :
    ∃ early late, array.extend stencils = some early ∧
      array.extend (stencils ++ more) = some late ∧
      ∀ row < count + stencils.length, early.AgreeAt late row row := by
  have inside := fun stencil listed entry member =>
    le_size_of_lt tuples (h stencil listed entry member)
  obtain ⟨positive, counted⟩ := tupleCount?_eq_some_iff.1 tuples
  obtain ⟨early, late, found, also, size, same⟩ := Values.extend_append inside
  refine ⟨{ array with values := early }, { array with values := late },
    by rw [extend, found]; rfl, by rw [extend, also]; rfl, fun row bound => ⟨rfl, ?_⟩⟩
  have whole : (row + 1) * array.components ≤ early.size := by
    rw [size]
    apply (Nat.le_div_iff_mul_le positive).1
    rw [Nat.add_mul_div_right _ _ positive, counted]
    exact bound
  obtain ⟨tuple, read⟩ := Values.row?_eq_some whole
  exact ⟨tuple, read, (same row whole).trans read⟩

namespace AttributeTable

/-- The tuples of all arrays at a row, each under the name of its array. -/
def tuples? (table : AttributeTable) (row : Nat) : Option (List (String × Values)) :=
  table.arrays.mapM fun array => (array.row? row).map fun tuple => (array.name, tuple)

/-- Tables whose arrays agree one by one have the same row. -/
theorem tuples?_eq_some {first second : AttributeTable} {row other : Nat}
    (agree : List.Forall₂ (fun a b => Attribute.AgreeAt a b row other) first.arrays second.arrays) :
    ∃ tuples, first.tuples? row = some tuples ∧ second.tuples? other = some tuples := by
  obtain ⟨arrays⟩ := first
  obtain ⟨others⟩ := second
  simp only [tuples?] at agree ⊢
  induction agree with
  | nil => exact ⟨[], rfl, rfl⟩
  | @cons array made _ _ head _ ih =>
    obtain ⟨name, tuple, found, also⟩ := head
    obtain ⟨tuples, all, alls⟩ := ih
    refine ⟨(array.name, tuple) :: tuples, ?_, ?_⟩
    · rw [List.mapM_cons, found, all]
      rfl
    · rw [List.mapM_cons, also, alls, name]
      rfl

/-- A row of a gathered table is the chosen row of the original. -/
theorem tuples?_gathered {rows : List Nat} {original made : AttributeTable}
    (gathered : List.Forall₂ (Attribute.Gathered rows) original.arrays made.arrays) {i : Nat}
    (h : i < rows.length) :
    ∃ tuples, original.tuples? rows[i] = some tuples ∧ made.tuples? i = some tuples :=
  tuples?_eq_some (gathered.imp fun _ _ each => ⟨each.name_eq, each.row_eq i h⟩)

/-- The rows of a table that was extended by some stencils are those of the same table
extended by more. -/
theorem extend_append {table early late : AttributeTable} {count : Nat}
    {stencils more : List Stencil}
    (tuples : ∀ array ∈ table.arrays, array.tupleCount? = some count)
    (h : ∀ stencil ∈ stencils ++ more, ∀ entry ∈ stencil, entry.1 < count)
    (some_early : table.extend stencils = some early)
    (some_late : table.extend (stencils ++ more) = some late) {row : Nat}
    (bound : row < count + stencils.length) :
    ∃ tuples, early.tuples? row = some tuples ∧ late.tuples? row = some tuples := by
  obtain ⟨earlies, lates, found, also, agree⟩ := Checked.mapM_forall₂_both fun array member =>
    Attribute.extend_append (tuples array member) h
  unfold extend at some_early some_late
  rw [found] at some_early
  rw [also] at some_late
  cases some_early
  cases some_late
  exact tuples?_eq_some (agree.imp fun _ _ each => each row bound)

end AttributeTable
end MeshSkin
