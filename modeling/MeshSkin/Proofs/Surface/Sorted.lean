import MeshSkin.Proofs.Attribute.Extendable
import MeshSkin.Proofs.Mesh.Renumbered
import MeshSkin.Proofs.Skin.Placing
import MeshSkin.Proofs.Surface.Parts

/-!
# An assembly sorts what it is given

Primitives and new points may be handed to an assembly in any order. The finished surface lists the
primitives sorted by their buckets, and in one bucket in the order in which they were emitted, each
with its own cell of origin and the attributes of that cell (`Assembly.finish_sorts`). The cells of
origin and the ids are kept apart, and a primitive is looked up by counting off the buckets, so this
also says that both find the same primitive under an id, even where buckets or primitives are
empty. The new points get consecutive ids. There is a surface exactly if the stencils of the new
points can be read.
-/

namespace MeshSkin

/-- The place of a bucket in the order of the buckets. -/
def Bucket.rank (bucket : Bucket) : Nat := Bucket.all.idxOf bucket

namespace Primitive

/-- The buckets are in order. -/
def precedes (first second : Primitive) : Bool := decide (first.bucket.rank ≤ second.bucket.rank)

theorem precedes_trans (first second third : Primitive) :
    first.precedes second = true → second.precedes third = true → first.precedes third = true := by
  simp only [precedes, decide_eq_true_eq]
  exact Nat.le_trans

theorem precedes_total (first second : Primitive) :
    (first.precedes second || second.precedes first) = true := by
  simp only [precedes, Bool.or_eq_true, decide_eq_true_eq]
  exact Nat.le_total _ _

/-- In a sorted list the buckets follow one another. -/
theorem flatMap_filter_of_pairwise {primitives : List Primitive}
    (sorted : primitives.Pairwise fun first second => first.precedes second = true) :
    (Bucket.all.flatMap fun bucket => primitives.filter fun primitive => primitive.bucket == bucket) =
      primitives := by
  induction primitives with
  | nil => rfl
  | cons primitive rest ih =>
    obtain ⟨least, sorted⟩ := List.pairwise_cons.1 sorted
    -- No bucket before that of the first primitive has anything.
    have none_before : ∀ bucket : Bucket, bucket.rank < primitive.bucket.rank →
        (rest.filter fun other => other.bucket == bucket) = [] := by
      intro bucket before
      rw [List.filter_eq_nil_iff]
      intro other member
      have after : primitive.bucket.rank ≤ other.bucket.rank := by
        simpa [precedes] using least other member
      simp only [beq_iff_eq]
      rintro rfl
      omega
    have later := ih sorted
    simp only [Bucket.all, List.flatMap_cons, List.flatMap_nil, List.append_nil] at later ⊢
    cases bucket : primitive.bucket <;> rw [bucket] at none_before
    case verts => simp [bucket, later]
    case lines =>
      rw [none_before .verts (by decide)] at later
      simpa [bucket, none_before .verts (by decide)] using later
    case polys =>
      rw [none_before .verts (by decide), none_before .lines (by decide)] at later
      simpa [bucket, none_before .verts (by decide), none_before .lines (by decide)] using later
    case strips =>
      rw [none_before .verts (by decide), none_before .lines (by decide),
        none_before .polys (by decide)] at later
      simpa [bucket, none_before .verts (by decide), none_before .lines (by decide),
        none_before .polys (by decide)] using later

/-- Sorting leaves the primitives of each bucket in their order. -/
theorem filter_mergeSort (primitives : List Primitive) (bucket : Bucket) :
    (primitives.mergeSort precedes).filter (fun primitive => primitive.bucket == bucket) =
      primitives.filter fun primitive => primitive.bucket == bucket := by
  have alike : (primitives.filter fun primitive => primitive.bucket == bucket).Pairwise
      fun first second => first.precedes second = true := by
    rw [List.pairwise_filter]
    refine List.pairwise_of_forall fun first second here there => ?_
    rw [beq_iff_eq] at here there
    simp [precedes, here, there]
  have kept := (List.sublist_mergeSort precedes_trans precedes_total alike
    List.filter_sublist).filter fun primitive => primitive.bucket == bucket
  rw [List.filter_filter] at kept
  simp only [Bool.and_self] at kept
  refine (kept.eq_of_length ?_).symm
  exact ((List.mergeSort_perm primitives precedes).filter _).length_eq.symm

/-- Sorted primitives are those of one bucket behind those of another. -/
theorem mergeSort_eq_flatMap (primitives : List Primitive) :
    primitives.mergeSort precedes =
      Bucket.all.flatMap fun bucket => primitives.filter fun primitive => primitive.bucket == bucket := by
  have sorted := List.pairwise_mergeSort precedes_trans precedes_total primitives
  rw [← flatMap_filter_of_pairwise sorted]
  exact congrArg (List.flatMap · Bucket.all) (funext (filter_mergeSort primitives))

end Primitive

namespace Surface

/-- The primitive with this id and its cell of origin. -/
def primitive? (surface : Surface) (id : Nat) : Option Primitive := do
  let (bucket, ids) ← surface.cell? id
  return ⟨bucket, ← surface.origins[id]?, ids⟩

/-- All primitives in the order of their ids. -/
def primitives? (surface : Surface) : Option (List Primitive) :=
  (List.range surface.numCells).mapM surface.primitive?

/-- Counting off buckets finds what stands at a place of the buckets one behind the other. -/
theorem locate?_eq_getElem? (surface : Surface) (buckets : List Bucket) (id : Nat) :
    surface.locate? buckets id =
      (buckets.flatMap fun bucket => (surface.bucket bucket).toLists.map (Prod.mk bucket))[id]? := by
  induction buckets generalizing id with
  | nil => rfl
  | cons bucket rest ih =>
    have length : ((surface.bucket bucket).toLists.map (Prod.mk bucket)).length =
        (surface.bucket bucket).size := by
      rw [List.length_map, Connectivity.length_toLists]
    rw [locate?, List.flatMap_cons]
    split
    · rename_i here
      rw [List.getElem?_append_left (by rwa [length]), List.getElem?_map,
        Connectivity.cell?_eq_getElem?_toLists]
    · rename_i later
      rw [List.getElem?_append_right (by rw [length]; omega), length, ih]

/-- The surface lists the given primitives sorted, each under one id with its own cell of origin
and the attributes of that cell, and nothing else. -/
structure Sorts (surface : Surface) (mesh : Mesh) (emitted : List Primitive) : Prop where
  primitives : surface.primitives? = some (emitted.mergeSort Primitive.precedes)
  outside : ∀ id, surface.cell? id = none ↔ surface.numCells ≤ id
  attributes : ∀ (id origin : Nat), surface.origins[id]? = some origin →
    ∃ tuples, mesh.cellData.tuples? origin = some tuples ∧ surface.cellData.tuples? id = some tuples

end Surface

namespace Assembly

/-- What can be done with an assembly before it is finished. -/
inductive Step where
  | emit (primitive : Primitive)
  | addPoint (point : NewPoint)
  deriving DecidableEq, Repr

namespace Step

def primitive? : Step → Option Primitive
  | .emit primitive => some primitive
  | .addPoint _ => none

def newPoint? : Step → Option NewPoint
  | .emit _ => none
  | .addPoint point => some point

end Step

/-- The primitives that are emitted, in order. -/
def emitted (steps : List Step) : List Primitive := steps.filterMap Step.primitive?

/-- The new points, in order. -/
def added (steps : List Step) : List NewPoint := steps.filterMap Step.newPoint?

/-- Takes steps one after the other and collects the ids told for new points. -/
def take (assembly : Assembly) : List Step → List Nat × Assembly
  | [] => ([], assembly)
  | .emit primitive :: rest =>
    (assembly.emit primitive.bucket primitive.source primitive.ids).take rest
  | .addPoint point :: rest =>
    let (id, next) := assembly.addPoint point
    let (ids, last) := next.take rest
    (id :: ids, last)

/-- However the steps are mixed, they append the primitives and the points, and the points are
numbered in their order. -/
theorem take_eq (assembly : Assembly) (steps : List Step) :
    assembly.take steps =
      ((List.range' assembly.nextPoint (added steps).length),
        assembly.append (emitted steps) (added steps)) := by
  induction steps generalizing assembly with
  | nil => simp [take, added, emitted, append_nil]
  | cons step rest ih =>
    cases step with
    | emit primitive =>
      have one : assembly.emit primitive.bucket primitive.source primitive.ids =
          assembly.append [primitive] [] := by
        unfold append
        rw [addPoints_nil]
        rfl
      rw [take, ih, one, append_append, nextPoint_append]
      rfl
    | addPoint point =>
      have one : (assembly.addPoint point).2 = assembly.append [] [point] :=
        snd_addPoint assembly point
      change (assembly.nextPoint :: ((assembly.addPoint point).2.take rest).1,
        ((assembly.addPoint point).2.take rest).2) = _
      rw [one, ih, append_append, nextPoint_append]
      rfl

section Finish

variable {mesh : Mesh} {assembly : Assembly} {stats : Stats} {aborted : Bool}

/-- With all cells of origin in the mesh, only the stencils of new points can keep an assembly from
being finished. -/
theorem exists_finish_iff (inside : ∀ origin ∈ assembly.origins, origin < mesh.numCells) :
    (∃ surface, assembly.finish mesh stats aborted = some surface) ↔
      ∀ array ∈ mesh.pointData.arrays, Extendable array.components array.values.size
        (assembly.newPoints.toList.map NewPoint.stencil) := by
  have rows : ∀ origin ∈ assembly.origins, origin < mesh.cells.size := by
    rw [← mesh.valid.sameSize]
    exact inside
  obtain ⟨cellData, gathered, _⟩ := AttributeTable.gather_eq_some mesh.valid.cellTuples rows
  have extended : (assembly.extendPoints mesh).isSome ↔
      (mesh.pointData.extend (assembly.newPoints.toList.map NewPoint.stencil)).isSome := by
    unfold extendPoints
    split
    · rename_i none
      rw [Array.isEmpty_iff.1 none]
      simp [AttributeTable.extend_nil]
    · rw [Option.isSome_map]
  rw [← AttributeTable.isSome_extend_iff mesh.valid.pointTuples, ← extended]
  unfold finish
  simp only [gathered, Option.bind_eq_bind, Option.bind_some]
  cases assembly.extendPoints mesh with
  | none => simp
  | some points => simp

/-- The buckets of a surface and its cells of origin are those of the assembly. -/
theorem buckets_of_finish {surface : Surface}
    (h : assembly.finish mesh stats aborted = some surface) :
    (∀ bucket, surface.bucket bucket = (assembly.bucket bucket).cells) ∧
      surface.origins.toList = assembly.origins := by
  unfold finish at h
  simp only [Option.bind_eq_bind, Option.bind_eq_some_iff, Option.pure_def, Option.some.injEq] at h
  obtain ⟨_, _, _, _, rfl⟩ := h
  refine ⟨fun bucket => ?_, rfl⟩
  cases bucket <;> rfl

end Finish

section Sorts

variable {mesh : Mesh} {primitives : List Primitive}

theorem bucket_empty (numPoints numCells : Nat) (bucket : Bucket) :
    (empty numPoints numCells).bucket bucket =
      PrimitiveList.empty (numCells / capacityDivisor + 1) := by
  cases bucket <;> rfl

/-- The cells of origin are in the order of the sorted primitives. -/
theorem origins_append_empty (numPoints numCells : Nat) (points : List NewPoint) :
    ((empty numPoints numCells).append primitives points).origins =
      (primitives.mergeSort Primitive.precedes).map Primitive.source := by
  rw [Primitive.mergeSort_eq_flatMap, List.map_flatMap, origins]
  refine congrArg (List.flatMap · Bucket.all) (funext fun bucket => ?_)
  rw [bucket_append, PrimitiveList.sources_pushEach, bucket_empty]
  simp [PrimitiveList.empty]

theorem origin_lt (numPoints numCells : Nat) (points : List NewPoint)
    (inside : ∀ primitive ∈ primitives, primitive.source < mesh.numCells) :
    ∀ origin ∈ ((empty numPoints numCells).append primitives points).origins,
      origin < mesh.numCells := by
  intro origin member
  rw [origins_append_empty, List.mem_map] at member
  obtain ⟨primitive, sorted, rfl⟩ := member
  exact inside primitive ((List.mergeSort_perm _ _).mem_iff.1 sorted)

variable {numPoints numCells : Nat} {points : List NewPoint} {stats : Stats} {aborted : Bool}
  {surface : Surface}
  (made : ((empty numPoints numCells).append primitives points).finish mesh stats aborted =
    some surface)

include made

theorem toLists_bucket (bucket : Bucket) :
    (surface.bucket bucket).toLists =
      (primitives.filter fun primitive => primitive.bucket == bucket).map Primitive.ids := by
  rw [(buckets_of_finish made).1, bucket_append, PrimitiveList.cells_pushEach, bucket_empty]
  simp [PrimitiveList.empty, Connectivity.toLists_empty]

theorem origins_eq_map :
    surface.origins.toList = (primitives.mergeSort Primitive.precedes).map Primitive.source := by
  rw [(buckets_of_finish made).2, origins_append_empty]

theorem numCells_eq_length :
    surface.numCells = (primitives.mergeSort Primitive.precedes).length := by
  rw [Surface.numCells, ← Array.length_toList, origins_eq_map made, List.length_map]

/-- Counting off the buckets finds the primitives in their sorted order. -/
theorem cell?_eq_getElem? (id : Nat) : surface.cell? id =
    ((primitives.mergeSort Primitive.precedes).map fun primitive =>
      (primitive.bucket, primitive.ids))[id]? := by
  rw [Surface.cell?, Surface.locate?_eq_getElem?, Primitive.mergeSort_eq_flatMap, List.map_flatMap]
  refine congrArg (fun list => (List.flatMap list Bucket.all)[id]?) (funext fun bucket => ?_)
  rw [toLists_bucket made, List.map_map]
  refine List.map_congr_left fun primitive member => ?_
  have same : primitive.bucket = bucket := by simpa using (List.mem_filter.1 member).2
  rw [Function.comp_apply, same]

/-- What is emitted into an empty assembly is sorted by the buckets it goes to. -/
theorem sorts_of_finish (inside : ∀ primitive ∈ primitives, primitive.source < mesh.numCells) :
    surface.Sorts mesh primitives := by
  refine ⟨?primitives, ?outside, ?attributes⟩
  case primitives =>
    unfold Surface.primitives?
    rw [numCells_eq_length made]
    apply Checked.mapM_range
    intro id bound
    have origin : surface.origins[id]? =
        some (primitives.mergeSort Primitive.precedes)[id].source := by
      rw [← Array.getElem?_toList, origins_eq_map made, List.getElem?_map,
        List.getElem?_eq_getElem bound]
      rfl
    rw [Surface.primitive?, cell?_eq_getElem? made, List.getElem?_map,
      List.getElem?_eq_getElem bound, origin]
    rfl
  case outside =>
    intro id
    rw [cell?_eq_getElem? made, List.getElem?_eq_none_iff, List.length_map, numCells_eq_length made]
  case attributes =>
    intro id origin read
    have rows := origin_lt numPoints numCells points inside
    obtain ⟨cellData, gathered, related⟩ :=
      AttributeTable.gather_eq_some mesh.tupleCount?_cellData rows
    obtain rfl := Option.some.inj (gathered.symm.trans (gather_of_finish made))
    rw [← (buckets_of_finish made).2] at related
    obtain ⟨bound, same⟩ := Array.getElem?_eq_some_iff.1 read
    obtain ⟨tuples, original, copied⟩ :=
      AttributeTable.tuples?_gathered related (i := id) (by simpa using bound)
    rw [Array.getElem_toList, same] at original
    exact ⟨tuples, original, copied⟩

end Sorts

/-- New points are numbered in their order behind the points of the mesh. If all primitives come from
cells of the mesh, the assembly can be finished exactly when the stencils of the new points can be
read one after the other in all arrays of the points, and then the surface lists the primitives
sorted by their buckets. -/
theorem finish_sorts (mesh : Mesh) (numPoints numCells : Nat) (steps : List Step) (stats : Stats)
    (aborted : Bool) (inside : ∀ primitive ∈ emitted steps, primitive.source < mesh.numCells) :
    ∃ ids assembly, (empty numPoints numCells).take steps = (ids, assembly) ∧
      ids = (List.range (added steps).length).map (numPoints + ·) ∧
      ((∃ surface, assembly.finish mesh stats aborted = some surface) ↔
        ∀ array ∈ mesh.pointData.arrays, Extendable array.components array.values.size
          ((added steps).map NewPoint.stencil)) ∧
      ∀ surface, assembly.finish mesh stats aborted = some surface →
        surface.Sorts mesh (emitted steps) := by
  refine ⟨_, _, take_eq _ steps, List.range'_eq_map_range .., ?_,
    fun surface made => sorts_of_finish made inside⟩
  rw [exists_finish_iff (origin_lt numPoints numCells (added steps) inside), newPoints_append]
  simp [empty]

end Assembly

section TwoSheets

open Assembly

/-- Primitives of both sheets in mixed order, one of them without points, and two new points, the
second between the first one and a corner. -/
def mixedSteps : List Step :=
  [.emit ⟨.polys, 1, [0, 1, 8]⟩, .addPoint ⟨⟨1.0, 1.0, 0.0⟩, [(0, 0.5), (2, 0.5)]⟩,
    .emit ⟨.verts, 0, []⟩, .emit ⟨.strips, 1, [0, 1, 2]⟩, .emit ⟨.polys, 0, [2, 3, 9]⟩,
    .addPoint ⟨⟨1.5, 1.5, 0.0⟩, [(8, 0.5), (2, 0.5)]⟩]

theorem twoSheets_sorts :
    (∀ primitive ∈ emitted mixedSteps, primitive.source < Mesh.twoSheets.numCells) ∧
      ∃ ids assembly surface, (empty 8 2).take mixedSteps = (ids, assembly) ∧ ids = [8, 9] ∧
        assembly.finish Mesh.twoSheets .zero false = some surface ∧
        surface.primitives? = some [⟨.verts, 0, []⟩, ⟨.polys, 1, [0, 1, 8]⟩,
          ⟨.polys, 0, [2, 3, 9]⟩, ⟨.strips, 1, [0, 1, 2]⟩] := by
  have inside : ∀ primitive ∈ emitted mixedSteps,
      primitive.source < Mesh.twoSheets.numCells := by decide
  obtain ⟨ids, assembly, taken, told, finished, sorts⟩ :=
    Assembly.finish_sorts Mesh.twoSheets 8 2 mixedSteps .zero false inside
  have extendable : ∀ array ∈ Mesh.twoSheets.pointData.arrays,
      Extendable array.components array.values.size ((added mixedSteps).map NewPoint.stencil) := by
    intro array member
    have sizes : ∀ array ∈ Mesh.twoSheets.pointData.arrays,
        array.components = 1 ∧ array.values.size = 8 := by decide
    rw [(sizes array member).1, (sizes array member).2]
    exact extendable_cons.2 ⟨by decide, extendable_cons.2 ⟨by decide, by simp [Extendable]⟩⟩
  obtain ⟨surface, made⟩ := finished.2 extendable
  refine ⟨inside, ids, assembly, surface, taken, told, made, ?_⟩
  rw [(sorts surface made).primitives, Primitive.mergeSort_eq_flatMap]
  rfl

/-- A new point whose stencil names the point itself keeps the assembly from being finished. -/
theorem twoSheets_unfinished :
    ∃ steps : List Step,
      (∀ primitive ∈ emitted steps, primitive.source < Mesh.twoSheets.numCells) ∧
        ∀ stats aborted,
          ((empty 8 2).take steps).2.finish Mesh.twoSheets stats aborted = none := by
  refine ⟨[.addPoint ⟨.origin, List.replicate 8 (8, 0.125)⟩], by decide, fun _ _ => rfl⟩

end TwoSheets

end MeshSkin
