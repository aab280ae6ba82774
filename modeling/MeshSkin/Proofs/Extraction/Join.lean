import MeshSkin.Proofs.Extraction.Carried
import MeshSkin.Proofs.Skin.Join
import MeshSkin.Proofs.Skin.Renumbered

/-!
# Runs over meshes side by side

Without ranges of ids, a full run over two joined meshes gives in every bucket what a run over the
first gives and then what a run over the second gives, each under its new ids, and counts what both
count together (`Extraction.run_join`).
-/

namespace MeshSkin

variable {first second : Mesh} {options : Options}

namespace Stats

theorem zero_add (stats : Stats) : zero.add stats = stats := by
  simp [add, zero]

theorem add_assoc (a b c : Stats) : (a.add b).add c = a.add (b.add c) := by
  simp [add, Nat.add_assoc]

theorem sum_append (some more : List Stats) : sum (some ++ more) = (sum some).add (sum more) := by
  -- A sum is taken from the left, so what comes first moves along as its start.
  have from_start : ∀ start, more.foldl add start = start.add (sum more) := by
    unfold sum
    induction more with
    | nil => exact fun start => by simp [add, zero]
    | cons stats rest ih =>
      intro start
      rw [List.foldl_cons, List.foldl_cons, ih, ih (zero.add stats), zero_add, add_assoc]
  rw [sum, List.foldl_append, from_start, ← sum]

end Stats

/-- Joined meshes count as much as both. -/
theorem Skin.totals_join (joinable : first.Joinable second) (asks : AsksNoIds options) :
    totals (first.join second joinable) options =
      (totals first options).add (totals second options) := by
  have left : (first.cellList.map fun cell =>
      (visit (first.join second joinable) options cell).stats) =
        first.cellList.map fun cell => (visit first options cell).stats := by
    apply List.map_congr_left
    intro cell listed
    have same := stats_renumber (foundIn_join_left joinable asks) listed
    rwa [renumber_id] at same
  have right : ((second.cellList.map (Cell.renumber (first.numCells + ·) (first.numPoints + ·))).map
      fun cell => (visit (first.join second joinable) options cell).stats) =
        second.cellList.map fun cell => (visit second options cell).stats := by
    rw [List.map_map]
    exact List.map_congr_left fun cell listed =>
      stats_renumber (foundIn_join_right joinable asks) listed
  rw [totals, counted, Mesh.cellList_join, Mesh.joinedCells, List.map_append, left, right, Stats.sum_append,
    numCentres_join joinable asks]
  rfl

/-- A surface that has everything from two others, over meshes that were joined: in each bucket the
primitives of the first and then those of the second, and all points. -/
structure Surface.Joined (left right whole : Surface) (first second : Mesh) : Prop where
  entries_eq : ∀ bucket, ∃ held more,
    left.entries? bucket = some held ∧ right.entries? bucket = some more ∧
      whole.entries? bucket = some (held.map (Entry.renumber id (first.leftId second)) ++
        more.map (Entry.renumber (first.numCells + ·)
          (first.rightId second left.stats.pointsSynthesized)))
  left_point_eq : ∀ id < left.numPoints,
    whole.points[first.leftId second id]? = left.points[id]?
  right_point_eq : ∀ id < right.numPoints,
    whole.points[first.rightId second left.stats.pointsSynthesized id]? = right.points[id]?
  stats_eq : whole.stats = left.stats.add right.stats

namespace Extraction

/-- The entries of a bucket under the numbers that a joined mesh gives them. -/
theorem map_entry_renumber {mesh other : Mesh} {σ : Nat → Nat}
    (within : mesh.cellData.Within mesh.numCells σ other.cellData) (τ : Nat → Nat)
    (options : Options) (bucket : Bucket) :
    ((Skin.inBucket mesh options bucket).map (Primitive.renumber σ τ)).map (Primitive.entry other) =
      ((Skin.inBucket mesh options bucket).map (Primitive.entry mesh)).map
        (Surface.Entry.renumber σ τ) := by
  rw [List.map_map, List.map_map]
  apply List.map_congr_left
  intro primitive member
  obtain ⟨cell, listed, emits⟩ := List.mem_flatMap.1 member
  apply Primitive.entry_renumber within
  rw [Skin.source_of_mem_contribution (List.mem_filter.1 emits).1]
  exact (Mesh.mem_cellList.1 listed).1

/-- Runs over two meshes and over both side by side. -/
theorem run_join (joinable : first.Joinable second) (options : Options)
    (no_cells : ∀ range ∈ options.cellIds, range.isValid = false)
    (no_points : ∀ range ∈ options.pointIds, range.isValid = false)
    {cadence cadence' cadence'' : Cadence} {poll poll' poll'' : Nat → Bool}
    (quiet : cadence.Quiet first.numCells poll) (quiet' : cadence'.Quiet second.numCells poll')
    (quiet'' : cadence''.Quiet (first.join second joinable).numCells poll'') :
    ∃ left right whole, Extraction.run first options.normalized cadence poll = some left ∧
      Extraction.run second options.normalized cadence' poll' = some right ∧
      Extraction.run (first.join second joinable) options.normalized cadence'' poll'' = some whole ∧
      left.surface.Joined right.surface whole.surface first second := by
  have asks : Skin.AsksNoIds options.normalized :=
    ⟨filter_isValid_eq_none no_cells, filter_isValid_eq_none no_points⟩
  obtain ⟨left, runs, full⟩ := run_full first options.normalized quiet
  obtain ⟨right, runs', full'⟩ := run_full second options.normalized quiet'
  obtain ⟨whole, runs'', full''⟩ := run_full (first.join second joinable) options.normalized quiet''
  have made : left.surface.stats.pointsSynthesized = Skin.numCentres first options.normalized := by
    rw [full.stats_eq, Skin.totals]
  have numCells := Mesh.numCells_join joinable
  refine ⟨left, right, whole, runs, runs', runs'', fun bucket => ?_, fun id => ?_, fun id => ?_, ?_⟩
  · refine ⟨_, _, full.holds.entries?_eq bucket, full'.holds.entries?_eq bucket, ?_⟩
    rw [full''.holds.entries?_eq, Skin.inBucket_join joinable asks, List.map_append, made,
      map_entry_renumber joinable.cells.within_left, map_entry_renumber joinable.cells.within_right]
  · exact full.point?_carried full'' (Skin.carried_join_left joinable asks) fun some => by omega
  · rw [made]
    exact full'.point?_carried full'' (Skin.carried_join_right joinable asks) fun some => by omega
  · rw [full''.stats_eq, full.stats_eq, full'.stats_eq, Skin.totals_join joinable asks]

end Extraction

theorem Mesh.twoSheets_joinable : twoSheets.Joinable twoSheetsExchanged :=
  ⟨twoSheets_built, twoSheets_exchanged.built twoSheets_built, rfl, rfl⟩

/-- Two curved quads with the same two beside them. -/
theorem twoSheets_joined :
    Mesh.twoSheets.Joinable .twoSheetsExchanged ∧
      (∀ range ∈ Options.standard.cellIds, range.isValid = false) ∧
      (∀ range ∈ Options.standard.pointIds, range.isValid = false) ∧
      ∃ left right whole,
        Extraction.run .twoSheets Options.standard.normalized .standard (fun _ => false) =
          some left ∧
        Extraction.run .twoSheetsExchanged Options.standard.normalized .standard (fun _ => false) =
          some right ∧
        Extraction.run (Mesh.twoSheets.join .twoSheetsExchanged Mesh.twoSheets_joinable)
          Options.standard.normalized .standard (fun _ => false) = some whole ∧
        left.surface.Joined right.surface whole.surface .twoSheets .twoSheetsExchanged := by
  have no_cells : ∀ range ∈ Options.standard.cellIds, range.isValid = false := by decide
  have no_points : ∀ range ∈ Options.standard.pointIds, range.isValid = false := by decide
  exact ⟨Mesh.twoSheets_joinable, no_cells, no_points,
    Extraction.run_join Mesh.twoSheets_joinable .standard no_cells no_points (fun _ _ _ => rfl)
      (fun _ _ _ => rfl) fun _ _ _ => rfl⟩

end MeshSkin
