/-!
# Chains of lookups

A list of lookups has an answer when every single one has. The lemmas here turn a chain in
`Option` into the plain list operation that it carries out.
-/

namespace MeshSkin.Checked

variable {α β : Type}

/-- Lookups that all answer as `g` says answer together as `map g` says. -/
theorem mapM_eq_map {f : α → Option β} {g : α → β} {items : List α}
    (answers : ∀ item ∈ items, f item = some (g item)) :
    items.mapM f = some (items.map g) := by
  induction items with
  | nil => rfl
  | cons head rest ih =>
    rw [List.mapM_cons, answers head (by simp),
      ih fun item member => answers item (List.mem_cons_of_mem head member)]
    rfl

end MeshSkin.Checked
