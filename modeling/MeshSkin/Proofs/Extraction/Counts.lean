import MeshSkin.Proofs.Extraction.Full
import MeshSkin.Proofs.Skin.Counts

/-!
# Accounts of a run

The counts of a run, stopped or not, account for every cell it visited, for every face of the solids
among them and for every primitive of its surface (`Extraction.run_accounted`). In particular a
surface has no more than six primitives for each straight cell, and no more than 48 for any cell
(`Surface.Accounted.numCells_le`).
-/

namespace MeshSkin

namespace Skin

section Stats

variable (mesh : Mesh) (options : Options) (cell : Cell)

theorem visit_of_extracted (extracted : isExtracted mesh options cell = true) :
    (visit mesh options cell).stats =
      { Stats.zero with
        cellsVisited := 1
        cellsExtracted := 1
        emptyCells := isAmong cell [.empty]
        unknownCells := (!CellKind.named.contains cell.kind).toNat
        cellsTessellated := isAmong cell CellKind.curved
        facesEmitted := (keptFaces mesh options cell).length
        facesSuppressed := (suppressedFaces mesh options cell).length } := by
  simp only [isExtracted, Bool.and_eq_true, Bool.not_eq_true'] at extracted
  unfold visit Visit.stats
  rw [extracted.1, extracted.2]
  have kinds : (cell.kind.treatment == .skip).toNat = isAmong cell [.empty] ∧
      (cell.kind.treatment == .unknown).toNat = (!CellKind.named.contains cell.kind).toNat ∧
        cell.kind.isQuadratic.toNat = isAmong cell CellKind.curved := by
    unfold isAmong
    cases cell.kind <;> refine ⟨?_, ?_, ?_⟩ <;> rfl
  simp only [kinds]
  rfl

variable (cells : List Cell)

theorem count_counted (count : Stats → Nat) (count_zero : count .zero = 0)
    (count_add : ∀ a b, count (a.add b) = count a + count b) :
    count (counted mesh options cells) =
      tally cells fun cell => count (visit mesh options cell).stats := by
  rw [counted, Stats.count_sum count count_zero count_add, List.map_map]
  rfl

/-- A count that only extracted cells add to. -/
theorem count_counted_extracted (count : Stats → Nat) (number : Cell → Nat)
    (count_zero : count .zero = 0) (count_add : ∀ a b, count (a.add b) = count a + count b)
    (ghost : count { Stats.zero with cellsVisited := 1, ghostCells := 1 } = 0)
    (clipped : count { Stats.zero with cellsVisited := 1, cellsClipped := 1 } = 0)
    (extracted : ∀ cell, isExtracted mesh options cell = true →
      count (visit mesh options cell).stats = number cell) :
    count (counted mesh options cells) =
      tally (cells.filter (isExtracted mesh options)) number := by
  rw [count_counted mesh options cells count count_zero count_add, tally_filter]
  apply tally_congr
  intro cell _
  cases here : isExtracted mesh options cell with
  | true => exact extracted cell here
  | false =>
    -- A ghost is not looked at any further, so only other cells count as clipped.
    unfold isExtracted at here
    simp only [visit, Visit.stats]
    cases ghosts : isGhost mesh options cell with
    | true => exact ghost
    | false =>
      have hidden : isVisible mesh options cell = false := by simpa [ghosts] using here
      rw [hidden]
      exact clipped

/-- Every visited cell is a ghost, clipped or extracted. -/
theorem cellsVisited_counted :
    (counted mesh options cells).cellsVisited = (counted mesh options cells).ghostCells +
      (counted mesh options cells).cellsClipped + (counted mesh options cells).cellsExtracted := by
  rw [count_counted mesh options cells Stats.cellsVisited rfl fun _ _ => rfl,
    count_counted mesh options cells Stats.ghostCells rfl fun _ _ => rfl,
    count_counted mesh options cells Stats.cellsClipped rfl fun _ _ => rfl,
    count_counted mesh options cells Stats.cellsExtracted rfl fun _ _ => rfl, ← tally_add, ← tally_add]
  apply tally_congr
  intro cell _
  unfold visit Visit.stats
  cases isGhost mesh options cell <;> cases isVisible mesh options cell <;> rfl

theorem cellsExtracted_counted : (counted mesh options cells).cellsExtracted =
    (cells.filter (isExtracted mesh options)).length := by
  rw [count_counted_extracted mesh options cells Stats.cellsExtracted (fun _ => 1) rfl
    (fun _ _ => rfl) rfl rfl fun cell extracted => by rw [visit_of_extracted _ _ _ extracted]]
  simp [tally]

theorem emptyCells_counted : (counted mesh options cells).emptyCells =
    countKinds (cells.filter (isExtracted mesh options)) [.empty] := by
  rw [← tally_isAmong]
  exact count_counted_extracted mesh options cells Stats.emptyCells _ rfl (fun _ _ => rfl) rfl rfl
    fun cell extracted => by rw [visit_of_extracted _ _ _ extracted]

theorem unknownCells_counted : (counted mesh options cells).unknownCells =
    (cells.filter (isExtracted mesh options)).countP fun cell =>
      !CellKind.named.contains cell.kind := by
  rw [← tally_toNat]
  exact count_counted_extracted mesh options cells Stats.unknownCells _ rfl (fun _ _ => rfl) rfl rfl
    fun cell extracted => by rw [visit_of_extracted _ _ _ extracted]

theorem cellsTessellated_counted : (counted mesh options cells).cellsTessellated =
    countKinds (cells.filter (isExtracted mesh options)) CellKind.curved := by
  rw [← tally_isAmong]
  exact count_counted_extracted mesh options cells Stats.cellsTessellated _ rfl (fun _ _ => rfl) rfl
    rfl fun cell extracted => by rw [visit_of_extracted _ _ _ extracted]

theorem facesEmitted_counted : (counted mesh options cells).facesEmitted =
    tally (cells.filter (isExtracted mesh options)) fun cell =>
      (keptFaces mesh options cell).length :=
  count_counted_extracted mesh options cells Stats.facesEmitted _ rfl (fun _ _ => rfl) rfl rfl
    fun cell extracted => by rw [visit_of_extracted _ _ _ extracted]

theorem facesSuppressed_counted : (counted mesh options cells).facesSuppressed =
    tally (cells.filter (isExtracted mesh options)) fun cell =>
      (suppressedFaces mesh options cell).length :=
  count_counted_extracted mesh options cells Stats.facesSuppressed _ rfl (fun _ _ => rfl) rfl rfl
    fun cell extracted => by rw [visit_of_extracted _ _ _ extracted]

end Stats

end Skin

namespace Surface

/-- The extracted cells among those that were visited. -/
def extracted (surface : Surface) (mesh : Mesh) (options : Options) : List Cell :=
  (mesh.cellList.take surface.stats.cellsVisited).filter (Skin.isExtracted mesh options)

/-- The number of extracted cells of some kinds. -/
def kindsOf (surface : Surface) (mesh : Mesh) (options : Options) (kinds : List CellKind) : Nat :=
  Skin.countKinds (surface.extracted mesh options) kinds

/-- The number of kept faces of the extracted cells of some kinds. -/
def facesOf (surface : Surface) (mesh : Mesh) (options : Options) (kinds : List CellKind) : Nat :=
  Skin.countFaces mesh options (surface.extracted mesh options) kinds

/-- The counts of a surface and the sizes of its buckets, by the cells that were visited. -/
structure Accounted (surface : Surface) (mesh : Mesh) (options : Options) : Prop where
  visited_eq : surface.stats.cellsVisited =
    surface.stats.ghostCells + surface.stats.cellsClipped + surface.stats.cellsExtracted
  visits_all : surface.aborted = false → surface.stats.cellsVisited = mesh.numCells
  extracted_eq : surface.stats.cellsExtracted = (surface.extracted mesh options).length
  empty_eq : surface.stats.emptyCells = surface.kindsOf mesh options [.empty]
  unknown_eq : surface.stats.unknownCells =
    (surface.extracted mesh options).countP fun cell => !CellKind.named.contains cell.kind
  tessellated_eq : surface.stats.cellsTessellated = surface.kindsOf mesh options CellKind.curved
  faces_eq : surface.stats.facesEmitted + surface.stats.facesSuppressed =
    ((surface.extracted mesh options).map fun cell => cell.kind.numFaces).sum
  suppressed_eq : options.interiorFaces = true → surface.stats.facesSuppressed = 0
  emitted_eq : surface.stats.facesEmitted =
    surface.facesOf mesh options CellKind.linearSolids +
      surface.facesOf mesh options [.quadraticTetra] +
      surface.facesOf mesh options [.quadraticHexahedron]
  verts_eq : surface.verts.size = surface.kindsOf mesh options [.vertex, .polyVertex]
  lines_eq : surface.lines.size = surface.kindsOf mesh options [.line, .polyLine] +
    2 * surface.kindsOf mesh options [.quadraticEdge]
  strips_eq : surface.strips.size = surface.kindsOf mesh options [.triangleStrip]
  polys_eq : surface.polys.size =
    surface.kindsOf mesh options [.triangle, .quad, .polygon, .pixel] +
      4 * surface.kindsOf mesh options [.quadraticTriangle] +
      8 * surface.kindsOf mesh options [.quadraticQuad] +
      surface.facesOf mesh options CellKind.linearSolids +
      4 * surface.facesOf mesh options [.quadraticTetra] +
      8 * surface.facesOf mesh options [.quadraticHexahedron]
  synthesized_eq : surface.stats.pointsSynthesized =
    surface.kindsOf mesh options [.quadraticQuad] +
      surface.facesOf mesh options [.quadraticHexahedron]
  numCells_eq : surface.numCells =
    surface.verts.size + surface.lines.size + surface.polys.size + surface.strips.size
  numCells_le : surface.numCells ≤ 48 * surface.stats.cellsExtracted
  numCells_le_of_straight :
    (∀ cell ∈ surface.extracted mesh options, cell.kind ∉ CellKind.curved) →
      surface.numCells ≤ 6 * surface.stats.cellsExtracted
  numCells_eq_of_solid :
    (∀ cell ∈ surface.extracted mesh options, cell.kind ∈ CellKind.linearSolids) →
      surface.numCells = surface.stats.facesEmitted

end Surface

namespace Assembly

variable {mesh : Mesh} {options : Options} {surface : Surface} {done : Nat}

open Skin (tally countIn isExtracted pieces)

section Finished

variable (finished : (after mesh options done).Finished mesh surface)

include finished

/-- A bucket has what the extracted cells contribute to it. -/
theorem Finished.size_bucket (bucket : Bucket) :
    (surface.bucket bucket).size =
      tally ((mesh.cellList.take done).filter (isExtracted mesh options)) fun cell =>
        countIn bucket (pieces mesh options cell) := by
  rw [← Skin.tally_emitted _ (countIn bucket) rfl, finished.bucket_eq, ← Connectivity.length_toLists,
    cells_after, List.length_map, Skin.inBucketBefore, List.length_flatMap]
  exact Skin.tally_congr fun cell _ => Skin.length_filter_primitives _ _ _

theorem Finished.numCells_eq : surface.numCells =
    surface.verts.size + surface.lines.size + surface.polys.size + surface.strips.size := by
  have size : ∀ bucket, (surface.bucket bucket).size =
      (Skin.inBucketBefore mesh options done bucket).length := by
    intro bucket
    rw [finished.bucket_eq, ← Connectivity.length_toLists, cells_after, List.length_map]
  have verts := size .verts
  have lines := size .lines
  have polys := size .polys
  have strips := size .strips
  simp only [Surface.bucket] at verts lines polys strips
  rw [Surface.numCells, ← Array.length_toList, finished.origins_eq, origins_after, verts, lines, polys,
    strips]
  simp [Bucket.all, Nat.add_assoc]

end Finished

/-- The new points are the centres of the extracted cells. -/
theorem numNewPoints_after (done : Nat) :
    (after mesh options done).numNewPoints =
      tally ((mesh.cellList.take done).filter (isExtracted mesh options)) fun cell =>
        Skin.countCentres (pieces mesh options cell) := by
  have centres : mesh.numPoints + (after mesh options done).numNewPoints =
      Skin.firstCentre mesh options done := numPoints_add_numNewPoints_after done
  rw [Skin.firstCentre, Skin.countCentres_flatMap] at centres
  rw [← Skin.tally_emitted _ Skin.countCentres rfl]
  exact Nat.add_left_cancel centres

/-- What all the buckets have of the extracted cells. -/
theorem Finished.numCells_eq_tally (finished : (after mesh options done).Finished mesh surface) :
    surface.numCells =
      tally ((mesh.cellList.take done).filter (isExtracted mesh options)) fun cell =>
        Skin.countAll (pieces mesh options cell) := by
  have verts := finished.size_bucket .verts
  have lines := finished.size_bucket .lines
  have polys := finished.size_bucket .polys
  have strips := finished.size_bucket .strips
  simp only [Surface.bucket] at verts lines polys strips
  rw [finished.numCells_eq, verts, lines, polys, strips, ← Skin.tally_add, ← Skin.tally_add,
    ← Skin.tally_add]
  rfl

/-- The counts of the first cells. -/
theorem Finished.accounted (finished : (after mesh options done).Finished mesh surface)
    (bound : done ≤ mesh.numCells)
    (stats_eq : surface.stats = { Skin.counted mesh options (mesh.cellList.take done) with
      pointsSynthesized := (after mesh options done).numNewPoints })
    (all : surface.aborted = false → done = mesh.numCells) : surface.Accounted mesh options := by
  have visited : surface.stats.cellsVisited = done := by
    rw [stats_eq]
    show (Skin.counted mesh options (mesh.cellList.take done)).cellsVisited = done
    rw [Skin.count_counted mesh options _ Stats.cellsVisited rfl fun _ _ => rfl]
    simp [tally, Pass.cellsVisited_visit, Mesh.length_cellList, bound]
  have cells : (mesh.cellList.take done).filter (isExtracted mesh options) =
      surface.extracted mesh options := by
    rw [Surface.extracted, visited]
  have extracted_eq : surface.stats.cellsExtracted = (surface.extracted mesh options).length := by
    rw [stats_eq, ← cells]
    exact Skin.cellsExtracted_counted mesh options _
  constructor
  case visited_eq =>
    rw [stats_eq]
    exact Skin.cellsVisited_counted mesh options _
  case visits_all => rwa [visited]
  case extracted_eq => exact extracted_eq
  case empty_eq =>
    rw [stats_eq, Surface.kindsOf, ← cells]
    exact Skin.emptyCells_counted mesh options _
  case unknown_eq =>
    rw [stats_eq, ← cells]
    exact Skin.unknownCells_counted mesh options _
  case tessellated_eq =>
    rw [stats_eq, Surface.kindsOf, ← cells]
    exact Skin.cellsTessellated_counted mesh options _
  case faces_eq =>
    rw [stats_eq, ← cells]
    show (Skin.counted mesh options _).facesEmitted + (Skin.counted mesh options _).facesSuppressed = _
    rw [Skin.facesEmitted_counted, Skin.facesSuppressed_counted, ← Skin.tally_add]
    exact Skin.tally_congr fun cell _ => Skin.length_keptFaces_add cell
  case suppressed_eq =>
    intro shown
    rw [stats_eq]
    show (Skin.counted mesh options _).facesSuppressed = 0
    rw [Skin.facesSuppressed_counted]
    simp [tally, Skin.suppressedFaces_of_shown _ shown]
  case emitted_eq =>
    rw [stats_eq]
    show (Skin.counted mesh options _).facesEmitted = _
    rw [Skin.facesEmitted_counted, cells]
    simp only [Skin.length_keptFaces, Skin.tally_add, Skin.tally_facesAmong, Surface.facesOf]
  case verts_eq =>
    have size := finished.size_bucket .verts
    rwa [cells, Skin.tally_countIn_verts] at size
  case lines_eq =>
    have size := finished.size_bucket .lines
    rwa [cells, Skin.tally_countIn_lines] at size
  case strips_eq =>
    have size := finished.size_bucket .strips
    rwa [cells, Skin.tally_countIn_strips] at size
  case polys_eq =>
    have size := finished.size_bucket .polys
    rwa [cells, Skin.tally_countIn_polys] at size
  case synthesized_eq =>
    rw [stats_eq]
    show (after mesh options done).numNewPoints = _
    rw [numNewPoints_after, cells]
    simp only [Skin.countCentres_pieces, Skin.tally_add, Skin.tally_isAmong, Skin.tally_facesAmong,
      Surface.kindsOf, Surface.facesOf]
  case numCells_eq => exact finished.numCells_eq
  case numCells_le =>
    rw [finished.numCells_eq_tally, cells, extracted_eq]
    exact Skin.tally_le 48 fun cell _ => Skin.countAll_pieces_le cell
  case numCells_le_of_straight =>
    intro straight
    rw [finished.numCells_eq_tally, cells, extracted_eq]
    exact Skin.tally_le 6 fun cell member =>
      Skin.countAll_pieces_le_of_straight cell (straight cell member)
  case numCells_eq_of_solid =>
    intro solid
    rw [finished.numCells_eq_tally, stats_eq]
    show _ = (Skin.counted mesh options _).facesEmitted
    rw [Skin.facesEmitted_counted, cells]
    exact Skin.tally_congr fun cell member =>
      Skin.countAll_pieces_of_solid cell (solid cell member)

end Assembly

/-- Without a cell nothing is counted and nothing is there. -/
theorem Surface.accounted_empty {mesh : Mesh} (none : mesh.numCells = 0) (options : Options) :
    Surface.empty.Accounted mesh options := by
  refine ⟨rfl, fun _ => none.symm, rfl, rfl, rfl, rfl, rfl, fun _ => rfl, rfl, rfl, rfl, rfl, rfl, rfl,
    rfl, Nat.le_refl _, fun _ => Nat.le_refl _, fun _ => rfl⟩

/-- The counts of a run account for all that it visited and emitted, wherever it was stopped. -/
theorem Extraction.run_accounted (mesh : Mesh) (options : Options) (cadence : Cadence)
    (poll : Nat → Bool) :
    ∃ run, Extraction.run mesh options cadence poll = some run ∧
      run.surface.Accounted mesh options := by
  by_cases nonempty : 0 < mesh.numCells
  · obtain ⟨run, runs, finished, stats_eq, aborted_eq⟩ := run_finished nonempty options cadence poll
    rw [Pass.counts_ended] at stats_eq
    refine ⟨run, runs, finished.accounted ?_ stats_eq fun going => ?_⟩
    · cases stops : cadence.stop? mesh.numCells poll with
      | none => exact Nat.le_refl _
      | some cell => exact Nat.le_of_lt (Cadence.stop?_eq_some_iff.1 stops).1
    · rw [going] at aborted_eq
      rw [Option.isNone_iff_eq_none.1 (Option.isSome_eq_false_iff.1 aborted_eq.symm),
        Option.getD_none]
  · have none : mesh.numCells = 0 := by omega
    exact ⟨emptyRun mesh, by rw [run, if_pos (Mesh.isEmpty_iff.2 none)],
      Surface.accounted_empty none options⟩

end MeshSkin
