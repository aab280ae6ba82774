import MeshSkin.Proofs.Skin.Placing

/-!
# The primitives of the skin

Every primitive comes from an extracted cell, and its ids are points of the mesh or centres
of that cell. The centres of the cells follow one another without gaps.
-/

namespace MeshSkin.Skin

variable {mesh : Mesh} {options : Options}

theorem source_of_mem_primitives {source centre : Nat} {pieces : List Piece}
    {primitive : Primitive} (h : primitive ∈ primitives source centre pieces) :
    primitive.source = source := by
  induction pieces generalizing centre with
  | nil => cases h
  | cons piece rest ih =>
    rcases List.mem_append.1 h with here | there
    · obtain ⟨cell, _, rfl⟩ := List.mem_map.1 here
      rfl
    · exact ih there

/-- The ids of one piece are its points and its centre. -/
theorem ids_of_mem_cells {piece : Piece} (fits : piece.Fits mesh) {centre : Nat}
    {cell : Bucket × List Nat} (h : cell ∈ piece.cells centre) {id : Nat} (member : id ∈ cell.2) :
    id < mesh.numPoints ∨ centre ≤ id ∧ id < centre + piece.centres := by
  cases piece with
  | primitive bucket ids =>
    rw [List.mem_singleton.1 h] at member
    exact Or.inl (fits id member)
  | quad ids =>
    obtain ⟨eight, inside⟩ := fits
    obtain ⟨corners, listed, rfl⟩ := List.mem_map.1 h
    have bound : ∀ i ∈ corners, i < (ids ++ [centre]).length := by
      rw [List.length_append, eight]
      exact Subdivision.quadSplit_lt corners listed
    rcases List.mem_append.1 (mem_of_mem_pick bound member) with point | new
    · exact Or.inl (inside id point)
    · rw [List.mem_singleton.1 new]
      exact Or.inr ⟨Nat.le_refl _, Nat.lt_succ_self _⟩

theorem ids_of_mem_primitives {source centre : Nat} {pieces : List Piece}
    (fits : ∀ piece ∈ pieces, piece.Fits mesh) {primitive : Primitive}
    (h : primitive ∈ primitives source centre pieces) {id : Nat} (member : id ∈ primitive.ids) :
    id < mesh.numPoints ∨ centre ≤ id ∧ id < centre + countCentres pieces := by
  induction pieces generalizing centre with
  | nil => cases h
  | cons piece rest ih =>
    rw [countCentres]
    rcases List.mem_append.1 h with here | there
    · obtain ⟨cell, listed, rfl⟩ := List.mem_map.1 here
      rcases ids_of_mem_cells (fits piece (by simp)) listed member with point | centres
      · exact Or.inl point
      · exact Or.inr (by omega)
    · rcases ih (fun other later => fits other (List.mem_cons_of_mem _ later)) there with
        point | centres
      · exact Or.inl point
      · exact Or.inr (by omega)

/-- The centres of the next cell follow those of a cell. -/
theorem firstCentre_succ {id : Nat} (h : id < mesh.numCells) :
    firstCentre mesh options (id + 1) =
      firstCentre mesh options id + countCentres (emitted mesh options (mesh.cellAt id)) := by
  unfold firstCentre
  rw [Mesh.take_succ_cellList h, List.flatMap_append, List.flatMap_singleton,
    countCentres_append, Nat.add_assoc]

theorem firstCentre_mono {early late : Nat} (h : early ≤ late) :
    firstCentre mesh options early ≤ firstCentre mesh options late := by
  unfold firstCentre
  rw [← List.take_append_drop early (mesh.cellList.take late), List.take_take,
    Nat.min_eq_left h, List.flatMap_append, countCentres_append]
  omega

theorem numPoints_le_firstCentre (id : Nat) : mesh.numPoints ≤ firstCentre mesh options id :=
  Nat.le_add_right _ _

/-- The number of all centres. -/
def numCentres (mesh : Mesh) (options : Options) : Nat :=
  countCentres (mesh.cellList.flatMap (emitted mesh options))

variable {cell : Cell} {primitive : Primitive}

/-- Only extracted cells contribute. -/
theorem isExtracted_of_mem_contribution (h : primitive ∈ contribution mesh options cell) :
    isExtracted mesh options cell = true := by
  unfold contribution emitted at h
  split at h
  · assumption
  · cases h

theorem source_of_mem_contribution (h : primitive ∈ contribution mesh options cell) :
    primitive.source = cell.id :=
  source_of_mem_primitives h

/-- The ids that a cell uses are below the first centre of the next cell. -/
theorem ids_of_mem_contribution (listed : cell ∈ mesh.cellList)
    (h : primitive ∈ contribution mesh options cell) {id : Nat} (member : id ∈ primitive.ids) :
    id < firstCentre mesh options (cell.id + 1) := by
  obtain ⟨bound, same⟩ := Mesh.mem_cellList.1 listed
  have fits : ∀ piece ∈ emitted mesh options cell, piece.Fits mesh :=
    fun _ emits => fits_of_mem_emitted listed emits
  have start : mesh.numPoints ≤ firstCentre mesh options cell.id := numPoints_le_firstCentre _
  rw [firstCentre_succ bound, ← same]
  rcases ids_of_mem_primitives fits h member with point | centres <;> omega

/-- What the first cells contribute to a bucket. -/
def inBucketBefore (mesh : Mesh) (options : Options) (done : Nat) (bucket : Bucket) :
    List Primitive :=
  (mesh.cellList.take done).flatMap fun cell =>
    (contribution mesh options cell).filter fun primitive => primitive.bucket == bucket

theorem inBucketBefore_numCells (bucket : Bucket) :
    inBucketBefore mesh options mesh.numCells bucket = inBucket mesh options bucket := by
  unfold inBucketBefore
  rw [mesh.take_numCells_cellList, inBucket]

theorem mem_inBucketBefore {done : Nat} {bucket : Bucket} :
    primitive ∈ inBucketBefore mesh options done bucket ↔
      ∃ cell ∈ mesh.cellList.take done, primitive ∈ contribution mesh options cell ∧
        primitive.bucket = bucket := by
  simp [inBucketBefore, List.mem_flatMap]

/-- What a bucket has from a cell is what the cell contributes to it. -/
theorem filter_source_inBucket (listed : cell ∈ mesh.cellList) (bucket : Bucket) :
    ((inBucket mesh options bucket).filter fun primitive => primitive.source == cell.id) =
      (contribution mesh options cell).filter fun primitive => primitive.bucket == bucket := by
  have from_others : ∀ cells : List Cell, (∀ other ∈ cells, other.id ≠ cell.id) →
      ((cells.flatMap fun other => (contribution mesh options other).filter fun primitive =>
        primitive.bucket == bucket).filter fun primitive => primitive.source == cell.id) = [] := by
    intro cells others
    rw [List.filter_eq_nil_iff]
    intro primitive member
    obtain ⟨other, held, kept⟩ := List.mem_flatMap.1 member
    rw [source_of_mem_contribution (List.mem_filter.1 kept).1, beq_iff_eq]
    exact others other held
  have from_cell : ∀ primitive ∈ (contribution mesh options cell).filter fun primitive =>
      primitive.bucket == bucket, (primitive.source == cell.id) = true := by
    intro primitive member
    rw [source_of_mem_contribution (List.mem_filter.1 member).1, beq_iff_eq]
  obtain ⟨bound, same⟩ := Mesh.mem_cellList.1 listed
  have split : mesh.cellList =
      mesh.cellList.take cell.id ++ ([cell] ++ mesh.cellList.drop (cell.id + 1)) := by
    have next := Mesh.take_succ_cellList bound
    rw [← same] at next
    rw [← List.append_assoc, ← next, List.take_append_drop]
  have before := from_others (mesh.cellList.take cell.id) fun other taken => by
    have earlier := Mesh.id_lt_of_mem_take taken
    omega
  have behind := from_others (mesh.cellList.drop (cell.id + 1)) fun other dropped => by
    have later := Mesh.le_id_of_mem_drop dropped
    omega
  rw [inBucket, split, List.flatMap_append, List.flatMap_append, List.filter_append,
    List.filter_append, before, behind, List.flatMap_singleton, List.filter_eq_self.2 from_cell,
    List.nil_append, List.append_nil]

/-- The first cells contribute to a bucket what of it comes from them. -/
theorem inBucketBefore_eq_filter (done : Nat) (bucket : Bucket) :
    inBucketBefore mesh options done bucket =
      (inBucket mesh options bucket).filter fun primitive => decide (primitive.source < done) := by
  have early : ∀ primitive ∈ inBucketBefore mesh options done bucket,
      decide (primitive.source < done) = true := by
    intro primitive member
    obtain ⟨cell, taken, emits, _⟩ := mem_inBucketBefore.1 member
    rw [source_of_mem_contribution emits, decide_eq_true_iff]
    exact Mesh.id_lt_of_mem_take taken
  have late : ∀ primitive ∈ (mesh.cellList.drop done).flatMap fun cell =>
      (contribution mesh options cell).filter fun primitive => primitive.bucket == bucket,
      ¬ decide (primitive.source < done) = true := by
    intro primitive member
    obtain ⟨cell, dropped, kept⟩ := List.mem_flatMap.1 member
    rw [source_of_mem_contribution (List.mem_filter.1 kept).1, decide_eq_true_iff, Nat.not_lt]
    exact Mesh.le_id_of_mem_drop dropped
  rw [inBucket, ← List.take_append_drop done mesh.cellList, List.flatMap_append,
    List.filter_append, ← inBucketBefore, List.filter_eq_self.2 early,
    List.filter_eq_nil_iff.2 late, List.append_nil]

/-- They do so before all others. -/
theorem inBucketBefore_isPrefix (done : Nat) (bucket : Bucket) :
    inBucketBefore mesh options done bucket <+: inBucket mesh options bucket := by
  rw [inBucket, ← List.take_append_drop done mesh.cellList, List.flatMap_append, inBucketBefore]
  exact List.prefix_append _ _

end MeshSkin.Skin
