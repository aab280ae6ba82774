import Mathlib.Tactic.ByContra
import MeshSkin.Proofs.Visibility
import MeshSkin.Proofs.Visibility.Boxes
import MeshSkin.Visibility.Sharing

/-!
# Clipping modes

Normalizing keeps the well-formed clipping modes and drops the others, as if they had not been
given (`Options.normalizes`). A cell is visible exactly if it passes all modes that are there
(`Skin.isVisible_iff`), so after normalizing it is clipped exactly if it fails a well-formed mode
(`Options.clips_iff`).
-/

namespace MeshSkin

variable {mesh : Mesh} {options : Options}

namespace IdRange

theorem isValid_iff {range : IdRange} : range.isValid = true ↔ range.min ≤ range.max :=
  decide_eq_true_iff

theorem contains_iff {range : IdRange} {id : Nat} :
    range.contains id = true ↔ range.min ≤ id ∧ id ≤ range.max := by
  simp [contains]

end IdRange

/-- The points of a mesh have finite coordinates. -/
theorem Mesh.isFinite_of_point? {id : Nat} {point : Point} (found : mesh.point? id = some point) :
    point.isFinite = true :=
  mesh.valid.finite point (Array.mem_toList_iff.2 (Array.mem_of_getElem? found))

namespace Options

/-- A cell passes every clipping mode that is there, well-formed or not. -/
structure Passes (options : Options) (mesh : Mesh) (cell : Cell) : Prop where
  cellIds : ∀ range, options.cellIds = some range → range.min ≤ cell.id ∧ cell.id ≤ range.max
  pointIds : ∀ range, options.pointIds = some range → ∀ id ∈ cell.points,
    range.min ≤ id ∧ id ≤ range.max
  box : ∀ box, options.box = some box → ∀ id ∈ cell.points, ∀ point, mesh.point? id = some point →
    box.Holds point

/-- A cell fails a well-formed clipping mode. -/
inductive Clips (options : Options) (mesh : Mesh) (cell : Cell) : Prop where
  | cellIds (range : IdRange) (given : options.cellIds = some range)
      (formed : range.min ≤ range.max) (outside : cell.id < range.min ∨ range.max < cell.id)
  | pointIds (range : IdRange) (given : options.pointIds = some range)
      (formed : range.min ≤ range.max) (id : Nat) (member : id ∈ cell.points)
      (outside : id < range.min ∨ range.max < id)
  | box (box : Box) (given : options.box = some box) (formed : box.WellFormed) (id : Nat)
      (member : id ∈ cell.points) (point : Point) (found : mesh.point? id = some point)
      (outside : box.Excludes point)

/-- What normalizing does to the clipping modes. -/
structure Normalizes (options : Options) : Prop where
  again : options.normalized.normalized = options.normalized
  cellIds : ∀ range, options.normalized.cellIds = some range ↔
    options.cellIds = some range ∧ range.min ≤ range.max
  pointIds : ∀ range, options.normalized.pointIds = some range ↔
    options.pointIds = some range ∧ range.min ≤ range.max
  box : ∀ box, options.normalized.box = some box ↔ options.box = some box ∧ box.WellFormed
  without_cellIds : ∀ range, options.cellIds = some range → ¬ range.min ≤ range.max →
    ({ options with cellIds := none } : Options).normalized = options.normalized
  without_pointIds : ∀ range, options.pointIds = some range → ¬ range.min ≤ range.max →
    ({ options with pointIds := none } : Options).normalized = options.normalized
  without_box : ∀ box, options.box = some box → ¬ box.WellFormed →
    ({ options with box := none } : Options).normalized = options.normalized

theorem normalizes (options : Options) : options.Normalizes where
  again := by
    simp only [normalized, Option.filter_filter, Bool.and_self]
    congr 1
    omega
  cellIds range := by
    rw [← IdRange.isValid_iff]
    exact Option.filter_eq_some_iff
  pointIds range := by
    rw [← IdRange.isValid_iff]
    exact Option.filter_eq_some_iff
  box box := by
    rw [← Box.isValid_iff]
    exact Option.filter_eq_some_iff
  without_cellIds range given malformed := by
    rw [← IdRange.isValid_iff] at malformed
    simp only [normalized, given, Option.filter_some, if_neg malformed, Option.filter_none]
  without_pointIds range given malformed := by
    rw [← IdRange.isValid_iff] at malformed
    simp only [normalized, given, Option.filter_some, if_neg malformed, Option.filter_none]
  without_box box given malformed := by
    rw [← Box.isValid_iff] at malformed
    simp only [normalized, given, Option.filter_some, if_neg malformed, Option.filter_none]

/-- After normalizing a cell is stopped exactly by the well-formed modes that it fails. -/
theorem clips_iff {cell : Cell} : options.Clips mesh cell ↔ ¬ options.normalized.Passes mesh cell := by
  have modes := options.normalizes
  constructor
  · intro clips passes
    cases clips with
    | cellIds range given formed outside =>
      have inside := passes.cellIds range ((modes.cellIds range).2 ⟨given, formed⟩)
      omega
    | pointIds range given formed id member outside =>
      have inside := passes.pointIds range ((modes.pointIds range).2 ⟨given, formed⟩) id member
      omega
    | box box given formed id member point found outside =>
      have inside := passes.box box ((modes.box box).2 ⟨given, formed⟩) id member point found
      exact (Box.not_holds_iff formed (Mesh.isFinite_of_point? found)).2 outside inside
  · intro stopped
    by_contra unclipped
    refine stopped ⟨fun range given => ?_, fun range given id member => ?_,
      fun box given id member point found => ?_⟩
    · obtain ⟨given, formed⟩ := (modes.cellIds range).1 given
      by_contra outside
      exact unclipped (.cellIds range given formed (by omega))
    · obtain ⟨given, formed⟩ := (modes.pointIds range).1 given
      by_contra outside
      exact unclipped (.pointIds range given formed id member (by omega))
    · obtain ⟨given, formed⟩ := (modes.box box).1 given
      by_contra outside
      exact unclipped (.box box given formed id member point found
        ((Box.not_holds_iff formed (Mesh.isFinite_of_point? found)).1 outside))

/-- A cell without points can only fail the range of cell ids. -/
theorem clips_iff_of_no_points {cell : Cell} (none : cell.points = []) :
    options.Clips mesh cell ↔ ∃ range, options.cellIds = some range ∧ range.min ≤ range.max ∧
      (cell.id < range.min ∨ range.max < cell.id) := by
  constructor
  · intro clips
    cases clips with
    | cellIds range given formed outside => exact ⟨range, given, formed, outside⟩
    | pointIds range given formed id member outside => simp [none] at member
    | box box given formed id member point found outside => simp [none] at member
  · rintro ⟨range, given, formed, outside⟩
    exact .cellIds range given formed outside

instance (options : Options) (mesh : Mesh) (cell : Cell) : Decidable (options.Passes mesh cell) :=
  decidable_of_iff
    ((∀ range ∈ options.cellIds, range.min ≤ cell.id ∧ cell.id ≤ range.max) ∧
      (∀ range ∈ options.pointIds, ∀ id ∈ cell.points, range.min ≤ id ∧ id ≤ range.max) ∧
      ∀ box ∈ options.box, ∀ id ∈ cell.points, ∀ point ∈ mesh.point? id, box.Holds point)
    ⟨fun given => ⟨given.1, given.2.1, given.2.2⟩,
      fun passes => ⟨passes.cellIds, passes.pointIds, passes.box⟩⟩

instance (options : Options) (mesh : Mesh) (cell : Cell) : Decidable (options.Clips mesh cell) :=
  decidable_of_iff _ clips_iff.symm

end Options

/-- A cell of the mesh is visible exactly if it passes all modes that are there. -/
theorem Skin.isVisible_iff {cell : Cell} (listed : cell ∈ mesh.cellList) :
    isVisible mesh options cell = true ↔ options.Passes mesh cell := by
  have found : ∀ id ∈ cell.points, mesh.point? id = some (mesh.points.getD id .origin) := by
    intro id member
    have bound : id < mesh.points.size := Mesh.points_lt_of_mem listed id member
    simp [Mesh.point?, Array.getD, bound]
  simp only [isVisible, Options.keepsCell, Options.keepsPoint, Bool.and_eq_true, List.all_eq_true,
    Option.all_eq_true, IdRange.contains_iff, Box.contains_iff]
  constructor
  · rintro ⟨cell_ids, points⟩
    refine ⟨cell_ids, fun range given id member => (points id member).1 range given,
      fun box given id member point here => ?_⟩
    rw [found id member, Option.some.injEq] at here
    exact here ▸ (points id member).2 box given
  · intro passes
    exact ⟨passes.cellIds, fun id member => ⟨fun range given => passes.pointIds range given id member,
      fun box given => passes.box box given id member _ (found id member)⟩⟩

namespace Visibility

/-- What a visibility says of the cells of a mesh, and how many it counts. -/
structure Tells (visibility : Visibility) (mesh : Mesh) (options : Options) : Prop where
  visible : ∀ cell ∈ mesh.cellList,
    visibility.isVisible? cell.id = some (decide (options.Passes mesh cell))
  count : visibility.count mesh.numCells =
    mesh.cellList.countP fun cell => decide (options.Passes mesh cell)

/-- The tags of a range do not depend on how it is cut. -/
theorem tagRange_eq_mapM (sharing : Sharing) (first count : Nat) :
    tagRange mesh options sharing first count =
      (List.range' first count).mapM (keepsCell? mesh options) := by
  induction sharing generalizing first count with
  | alone => rfl
  | split front one other early late =>
    have cut : List.range' first count =
        List.range' first (min front count) ++
          List.range' (first + min front count) (count - min front count) := by
      rw [List.range'_append_1]
      congr 1
      omega
    rw [tagRange, early, late, cut, List.mapM_append]

/-- Sharing out the work changes nothing. -/
theorem classifyShared_eq (sharing : Sharing) (mesh : Mesh) (options : Options) :
    classifyShared sharing mesh options = classify mesh options := by
  simp only [classifyShared, classify, tagRange_eq_mapM, List.range_eq_range']

/-- Classifying tells of each cell whether it passes all modes that are there. -/
theorem classify_tells (mesh : Mesh) (options : Options) :
    ∃ visibility, classify mesh options = some visibility ∧ visibility.Tells mesh options := by
  obtain ⟨visibility, classified, exact⟩ := classify_exact mesh options
  have same : ∀ cell ∈ mesh.cellList,
      Skin.isVisible mesh options cell = decide (options.Passes mesh cell) := by
    intro cell listed
    rw [Bool.eq_iff_iff, Skin.isVisible_iff listed, decide_eq_true_iff]
  refine ⟨visibility, classified, fun cell listed => ?_, ?_⟩
  · rw [exact cell listed, same cell listed]
  · rw [count_classify classified]
    exact List.countP_congr fun cell listed => by rw [same cell listed]

end Visibility
end MeshSkin
