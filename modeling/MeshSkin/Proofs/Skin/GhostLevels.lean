import MeshSkin.Proofs.Skin.Carried

/-!
# Ghost levels

The level up to which cells emit decides which cells emit, and nothing else: what a cell contributes
and which faces it hides do not depend on it. So under a higher level the cells that emitted before
emit the same pieces (`Skin.emitted_upTo_of_owned`), only the ids of their centres make room for
those of the others (`Skin.carried_upTo`), and what a bucket gains comes from the others
(`Skin.filter_owned_inBucket`).
-/

namespace MeshSkin

/-- The same options with another level up to which cells emit. -/
def Options.upTo (options : Options) (level : UInt8) : Options :=
  { options with ghostLevel := level }

theorem Options.normalized_upTo (options : Options) (level : UInt8) :
    (options.upTo level).normalized = options.normalized.upTo level := rfl

namespace Skin

variable {mesh : Mesh} {options : Options} {levels : Array UInt8} {low high level : UInt8}
  {cell : Cell}

theorem isGhost_upTo (usable : mesh.ghostLevels? = some levels) :
    isGhost mesh (options.upTo level) cell = decide (level < levels.getD cell.id 0) := by
  rw [isGhost, ghostLevel_eq, usable]
  rfl

/-- A ghost hides the faces that it hides as a cell that emits. -/
theorem pieces_upTo : pieces mesh (options.upTo level) cell = pieces mesh options cell := rfl

theorem emitted_upTo_of_ghost (usable : mesh.ghostLevels? = some levels)
    (ghost : level < levels.getD cell.id 0) : emitted mesh (options.upTo level) cell = [] := by
  rw [emitted, isExtracted, isGhost_upTo usable, decide_eq_true ghost]
  rfl

/-- A cell up to the level emits what it emits without any ghosts. -/
theorem emitted_upTo_of_owned (usable : mesh.ghostLevels? = some levels)
    (owned : levels.getD cell.id 0 ≤ level) :
    emitted mesh (options.upTo level) cell =
      if isVisible mesh options cell then pieces mesh options cell else [] := by
  have emits : ¬ level < levels.getD cell.id 0 := UInt8.not_lt.2 owned
  rw [emitted, isExtracted, isGhost_upTo usable, decide_eq_false emits, pieces_upTo]
  rfl

/-- Where a higher level puts a point or a centre: centres make room for those of further cells. -/
def makeRoom (mesh : Mesh) (options : Options) (low high : UInt8) : Nat → Nat :=
  Blocks.move (centreBlocks mesh (options.upTo low)) (centreBlocks mesh (options.upTo high))
    (Equiv.refl Nat)

theorem makeRoom_of_lt {id : Nat} (h : id < mesh.numPoints) :
    makeRoom mesh options low high id = id :=
  Blocks.move_of_outside (Or.inl h)

section Ordered

variable (usable : mesh.ghostLevels? = some levels) (ordered : low ≤ high)

include usable ordered

/-- A higher level changes nothing for the cells that emitted before. -/
theorem emitted_upTo_eq (owned : levels.getD cell.id 0 ≤ low) :
    emitted mesh (options.upTo high) cell = emitted mesh (options.upTo low) cell := by
  rw [emitted_upTo_of_owned usable owned,
    emitted_upTo_of_owned usable (UInt8.le_trans owned ordered)]

/-- Under a higher level a cell has as many centres or, if it was a ghost, perhaps more. -/
theorem size_centreBlocks_upTo_le {id : Nat} (h : id < mesh.numCells) :
    (centreBlocks mesh (options.upTo low)).size id ≤
      (centreBlocks mesh (options.upTo high)).size id := by
  rw [size_centreBlocks h, size_centreBlocks h]
  by_cases ghost : low < levels.getD (mesh.cellAt id).id 0
  · rw [emitted_upTo_of_ghost usable ghost]
    exact Nat.zero_le _
  · rw [emitted_upTo_eq usable ordered (UInt8.not_lt.1 ghost)]

/-- Room is made without changing the order. -/
theorem makeRoom_lt {early late : Nat} (h : early < late)
    (inside : late < firstCentre mesh (options.upTo low) mesh.numCells) :
    makeRoom mesh options low high early < makeRoom mesh options low high late := by
  have start : (centreBlocks mesh (options.upTo low)).first 0 ≤
      (centreBlocks mesh (options.upTo high)).first 0 := Nat.le_refl _
  exact Blocks.move_lt_move start (fun _ => size_centreBlocks_upTo_le usable ordered) h inside

/-- All that is emitted up to a level is emitted up to a higher one. -/
theorem carried_upTo :
    Carried mesh mesh (options.upTo low) (options.upTo high) id id
      (makeRoom mesh options low high) where
  point?_eq _ _ := rfl
  points _ := makeRoom_of_lt
  emits cell listed emits := by
    have owned : levels.getD cell.id 0 ≤ low := by
      by_contra ghost
      exact emits (emitted_upTo_of_ghost usable (UInt8.not_le.1 ghost))
    rw [renumber_id, map_renumber_id]
    exact ⟨listed, emitted_upTo_eq usable ordered owned⟩
  centres cell listed k bound := by
    obtain ⟨inside, same⟩ := Mesh.mem_cellList.1 listed
    rw [same, ← size_centreBlocks inside] at bound
    exact Blocks.move_add inside bound

variable (options) in
/-- Without the cells above the lower level the skin of the higher one is that of the lower. -/
theorem filter_owned_inBucket (bucket : Bucket) :
    ((inBucket mesh (options.upTo high) bucket).filter fun primitive =>
        decide (levels.getD primitive.source 0 ≤ low)) =
      (inBucket mesh (options.upTo low) bucket).map
        (Primitive.renumber id (makeRoom mesh options low high)) := by
  have carried : Carried mesh mesh (options.upTo low) (options.upTo high) id id
      (makeRoom mesh options low high) := carried_upTo usable ordered
  unfold inBucket
  rw [List.filter_flatMap, List.map_flatMap]
  apply List.flatMap_congr
  intro cell listed
  -- Each cell has either all of its primitives under both levels or none of them under the lower one.
  by_cases owned : levels.getD cell.id 0 ≤ low
  · have kept : ∀ primitive ∈ (contribution mesh (options.upTo high) cell).filter fun primitive =>
        primitive.bucket == bucket, decide (levels.getD primitive.source 0 ≤ low) = true := by
      intro primitive member
      rw [source_of_mem_contribution (List.mem_filter.1 member).1, decide_eq_true owned]
    have emits : emitted mesh (options.upTo high) (cell.renumber id id) =
        (emitted mesh (options.upTo low) cell).map (Piece.renumber id) := by
      rw [renumber_id, map_renumber_id, emitted_upTo_eq usable ordered owned]
    have same := contribution_renumber carried.points listed emits (carried.centres cell listed)
    rw [renumber_id] at same
    rw [List.filter_eq_self.2 kept, same, List.filter_map]
    rfl
  · have dropped : ∀ primitive ∈ (contribution mesh (options.upTo high) cell).filter
        fun primitive => primitive.bucket == bucket,
        ¬ decide (levels.getD primitive.source 0 ≤ low) = true := by
      intro primitive member
      rw [source_of_mem_contribution (List.mem_filter.1 member).1, decide_eq_true_iff]
      exact owned
    have none : contribution mesh (options.upTo low) cell = [] := by
      rw [contribution, emitted_upTo_of_ghost usable (UInt8.not_le.1 owned)]
      rfl
    rw [List.filter_eq_nil_iff.2 dropped, none]
    rfl

end Ordered

end Skin
end MeshSkin
