import MeshSkin.Proofs.Skin

/-!
# Tags and visibility

Classifying the cells of a mesh never fails, and what it says of a cell is that the cell
passes every clipping mode, whether it tags the cells or finds nothing to clip.
-/

namespace MeshSkin.Visibility

variable {mesh : Mesh} {options : Options}

/-- A visibility that knows every cell of the mesh. -/
def Exact (visibility : Visibility) (mesh : Mesh) (options : Options) : Prop :=
  ∀ cell ∈ mesh.cellList, visibility.isVisible? cell.id = some (Skin.isVisible mesh options cell)

theorem keepsPoints?_eq_some {ids : List Nat} (inside : ∀ id ∈ ids, id < mesh.numPoints) :
    keepsPoints? mesh options ids =
      some (ids.all fun id => options.keepsPoint id (mesh.points.getD id .origin)) := by
  induction ids with
  | nil => rfl
  | cons id rest ih =>
    have id_lt : id < mesh.points.size := inside id (by simp)
    have found : mesh.point? id = some (mesh.points.getD id .origin) := by
      simp [Mesh.point?, Array.getD, id_lt]
    rw [keepsPoints?, found, Option.bind_eq_bind, Option.bind_some, List.all_cons,
      ih fun other member => inside other (List.mem_cons_of_mem id member)]
    cases options.keepsPoint id (mesh.points.getD id .origin) <;> rfl

theorem keepsCell?_eq_some {cell : Cell} (h : cell ∈ mesh.cellList) :
    keepsCell? mesh options cell.id = some (Skin.isVisible mesh options cell) := by
  obtain ⟨id_lt, same⟩ := Mesh.mem_cellList.1 h
  have points : mesh.cell? cell.id = some cell.points := by
    rw [Mesh.cell?_eq_some id_lt, ← same]
  unfold keepsCell?
  rw [Skin.isVisible]
  cases options.keepsCell cell.id with
  | false => rfl
  | true =>
    simp only [↓reduceIte, Bool.true_and]
    split
    · rw [points, Option.bind_eq_bind, Option.bind_some,
        keepsPoints?_eq_some (Mesh.points_lt_of_mem h)]
    · -- Without a mode about points no point can fail.
      rename_i unclipped
      simp only [Bool.or_eq_true, not_or, Bool.not_eq_true, Option.isSome_eq_false_iff,
        Option.isNone_iff_eq_none] at unclipped
      simp [Options.keepsPoint, unclipped.1, unclipped.2]

/-- The tags of all cells. -/
theorem mapM_keepsCell? (mesh : Mesh) (options : Options) :
    (List.range mesh.numCells).mapM (keepsCell? mesh options) =
      some ((List.range mesh.numCells).map fun id =>
        Skin.isVisible mesh options (mesh.cellAt id)) := by
  apply Checked.mapM_eq_map
  intro id member
  exact keepsCell?_eq_some (Mesh.cellAt_mem (List.mem_range.1 member))

/-- Classifying never fails and is exact. -/
theorem classify_exact (mesh : Mesh) (options : Options) :
    ∃ visibility, classify mesh options = some visibility ∧ visibility.Exact mesh options := by
  unfold classify
  split
  · refine ⟨_, by rw [mapM_keepsCell?]; rfl, fun cell member => ?_⟩
    obtain ⟨id_lt, same⟩ := Mesh.mem_cellList.1 member
    simp [isVisible?, id_lt, ← same]
  · rename_i unclipped
    simp only [Options.isClipping, Bool.or_eq_true, not_or, Bool.not_eq_true,
      Option.isSome_eq_false_iff, Option.isNone_iff_eq_none] at unclipped
    refine ⟨.all, rfl, fun cell _ => ?_⟩
    simp [isVisible?, Skin.isVisible, Options.keepsCell, Options.keepsPoint, unclipped]

/-- As many cells are counted as are visible. -/
theorem count_classify {visibility : Visibility} (classified : classify mesh options = some visibility) :
    visibility.count mesh.numCells = mesh.cellList.countP (Skin.isVisible mesh options) := by
  obtain ⟨exactly, again, exact⟩ := classify_exact mesh options
  obtain rfl : exactly = visibility := Option.some.inj (again.symm.trans classified)
  unfold classify at classified
  split at classified
  · rw [mapM_keepsCell?, Option.map_some, Option.some.injEq] at classified
    rw [← classified, count, Mesh.cellList, List.countP_map, List.countP_map]
    rfl
  · obtain rfl := Option.some.inj classified
    have visible : ∀ cell ∈ mesh.cellList, Skin.isVisible mesh options cell = true :=
      fun cell member => (Option.some.inj (exact cell member)).symm
    rw [count, List.countP_eq_length.2 visible, Mesh.length_cellList]

/-- Looking for a visible cell among cells of the mesh. -/
theorem Exact.anyVisible? {visibility : Visibility} (exact : visibility.Exact mesh options)
    (cells : List Cell) (inside : ∀ cell ∈ cells, cell ∈ mesh.cellList) :
    visibility.anyVisible? (cells.map Cell.id) =
      some (cells.any fun cell => Skin.isVisible mesh options cell) := by
  induction cells with
  | nil => rfl
  | cons cell rest ih =>
    have further := ih fun other member => inside other (List.mem_cons_of_mem cell member)
    rw [List.map_cons, Visibility.anyVisible?, exact cell (inside cell (by simp)),
      Option.bind_eq_bind, Option.bind_some, List.any_cons, further]
    cases Skin.isVisible mesh options cell <;> rfl

end MeshSkin.Visibility
