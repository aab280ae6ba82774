import MeshSkin.Connectivity.Lemmas
import MeshSkin.Proofs.Attribute.Rows
import MeshSkin.Proofs.Skin
import MeshSkin.Proofs.Surface.Finish

/-!
# Reading a surface

A surface read part by part: its points with their attributes (`Surface.nodes?`), and the
primitives of each bucket with their cells of origin and their attributes (`Surface.entries?`).
A finished assembly can be read: an entry is what was emitted, with the attributes of its cell
of origin (`Assembly.Finished.entries?_eq`), and more new points do not change the nodes of
those before (`Assembly.nodes?_isPrefix`).
-/

namespace MeshSkin

namespace Checked

variable {α : Type}

/-- Lookups that give the members of a list one by one. -/
theorem mapM_range {f : Nat → Option α} {list : List α}
    (h : ∀ (i : Nat) (bound : i < list.length), f i = some list[i]) :
    (List.range list.length).mapM f = some list := by
  induction list generalizing f with
  | nil => rfl
  | cons head rest ih =>
    have later : (List.range rest.length).mapM (f ∘ Nat.succ) = some rest :=
      ih fun i bound => h (i + 1) (Nat.succ_lt_succ bound)
    rw [List.length_cons, List.range_succ_eq_map, List.mapM_cons, h 0 (Nat.zero_lt_succ _),
      List.mapM_map, later]
    rfl

/-- The answers to some of the lookups come first among the answers to all of them. -/
theorem mapM_range_isPrefix {f g : Nat → Option α} {few many : Nat} (fewer : few ≤ many)
    (same : ∀ i < few, ∃ out, f i = some out ∧ g i = some out)
    (answers : ∀ i < many, ∃ out, g i = some out) :
    ∃ held all, (List.range few).mapM f = some held ∧ (List.range many).mapM g = some all ∧
      held <+: all := by
  have both : ∀ i ∈ List.range few, ∃ out other, f i = some out ∧ g i = some other ∧ out = other := by
    intro i member
    obtain ⟨out, found, also⟩ := same i (List.mem_range.1 member)
    exact ⟨out, out, found, also, rfl⟩
  have others : ∀ i ∈ (List.range (many - few)).map (few + ·), ∃ out, g i = some out ∧ True := by
    intro i member
    obtain ⟨j, listed, rfl⟩ := List.mem_map.1 member
    have bound := List.mem_range.1 listed
    obtain ⟨out, found⟩ := answers (few + j) (by omega)
    exact ⟨out, found, trivial⟩
  obtain ⟨held, _, found, also, equal⟩ := mapM_forall₂_both both
  obtain ⟨rest, later, _⟩ := mapM_forall₂ others
  rw [List.forall₂_eq_eq_eq] at equal
  subst equal
  refine ⟨held, held ++ rest, found, ?_, List.prefix_append held rest⟩
  rw [← Nat.add_sub_cancel' fewer, List.range_add, List.mapM_append, also, later]
  rfl

end Checked

namespace Surface

/-- A point with its attributes. -/
structure Node where
  position : Point
  tuples : List (String × Values)
  deriving DecidableEq, Repr

/-- A primitive with its cell of origin and its attributes. -/
structure Entry where
  ids : List Nat
  origin : Nat
  tuples : List (String × Values)
  deriving DecidableEq, Repr

def node? (surface : Surface) (id : Nat) : Option Node := do
  return ⟨← surface.points[id]?, ← surface.pointData.tuples? id⟩

/-- All points in order. -/
def nodes? (surface : Surface) : Option (List Node) :=
  (List.range surface.numPoints).mapM surface.node?

/-- The id of the first primitive of a bucket: it comes after those of the buckets before. -/
def firstId (surface : Surface) : Bucket → Nat
  | .verts => 0
  | .lines => surface.verts.size
  | .polys => surface.verts.size + surface.lines.size
  | .strips => surface.verts.size + surface.lines.size + surface.polys.size

/-- The primitive at a place of a bucket. -/
def entry? (surface : Surface) (bucket : Bucket) (place : Nat) : Option Entry := do
  return ⟨← (surface.bucket bucket).cell? place,
    ← surface.origins[surface.firstId bucket + place]?,
    ← surface.cellData.tuples? (surface.firstId bucket + place)⟩

/-- All primitives of a bucket in order. -/
def entries? (surface : Surface) (bucket : Bucket) : Option (List Entry) :=
  (List.range (surface.bucket bucket).size).mapM (surface.entry? bucket)

/-- The entries of a bucket that come from a cell. -/
def entriesOf? (surface : Surface) (bucket : Bucket) (cell : Nat) : Option (List Entry) :=
  (surface.entries? bucket).map fun entries => entries.filter fun entry => entry.origin == cell

/-- An entry under other numbers, with the same attributes. -/
def Entry.renumber (σ τ : Nat → Nat) (entry : Entry) : Entry :=
  ⟨entry.ids.map τ, σ entry.origin, entry.tuples⟩

/-- The primitives of a bucket that come from a cell. -/
def primitivesOf? (surface : Surface) (bucket : Bucket) (cell : Nat) : Option (List (List Nat)) :=
  (surface.entries? bucket).map fun entries =>
    (entries.filter fun entry => entry.origin == cell).map Entry.ids

/-- What a surface has from a cell are the primitives of some pieces, whose centres are new
points and are numbered one after the other. -/
def Draws (surface : Surface) (mesh : Mesh) (cell : Nat) (pieces : List Piece) : Prop :=
  ∃ centre, mesh.numPoints ≤ centre ∧ ∀ bucket, surface.primitivesOf? bucket cell =
    some (((Skin.primitives cell centre pieces).filter fun primitive =>
      primitive.bucket == bucket).map Primitive.ids)

end Surface

/-- A primitive of the skin with the attributes of its cell of origin. -/
def Primitive.entry (mesh : Mesh) (primitive : Primitive) : Surface.Entry :=
  ⟨primitive.ids, primitive.source, (mesh.cellData.tuples? primitive.source).getD []⟩

namespace Assembly

variable {mesh : Mesh} {assembly : Assembly} {surface : Surface}

/-- Every primitive has one cell of origin. -/
def Paired (assembly : Assembly) : Prop :=
  ∀ bucket, (assembly.bucket bucket).sources.size = (assembly.bucket bucket).cells.size

/-- The cells of origin of a bucket start at the id of its first primitive. -/
theorem Finished.getElem?_origins (finished : assembly.Finished mesh surface)
    (paired : assembly.Paired) {bucket : Bucket} {place : Nat}
    (h : place < (assembly.bucket bucket).sources.size) :
    surface.origins[surface.firstId bucket + place]? =
      (assembly.bucket bucket).sources[place]? := by
  have size : ∀ other, (surface.bucket other).size = (assembly.bucket other).sources.size := by
    intro other
    rw [finished.bucket_eq, paired]
  have verts := size .verts
  have lines := size .lines
  have polys := size .polys
  simp only [Surface.bucket] at verts lines polys
  rw [← Array.getElem?_toList, finished.origins_eq, origins]
  simp only [Bucket.all, List.flatMap_cons, List.flatMap_nil, List.append_nil]
  -- Now both sides are lookups, on the left in four lists one behind the other.
  cases bucket <;> grind [Surface.firstId]

/-- What was emitted into a bucket can be read there, with the attributes of its origin. -/
theorem Finished.entries?_eq (finished : assembly.Finished mesh surface)
    (paired : assembly.Paired) {bucket : Bucket} {primitives : List Primitive}
    (cells : (assembly.bucket bucket).cells.toLists = primitives.map Primitive.ids)
    (sources : (assembly.bucket bucket).sources.toList = primitives.map Primitive.source) :
    surface.entries? bucket = some (primitives.map (Primitive.entry mesh)) := by
  have size : (surface.bucket bucket).size = (primitives.map (Primitive.entry mesh)).length := by
    rw [finished.bucket_eq, ← Connectivity.length_toLists, cells, List.length_map, List.length_map]
  unfold Surface.entries?
  rw [size]
  apply Checked.mapM_range
  intro i bound
  rw [List.length_map] at bound
  have counted : (assembly.bucket bucket).sources.size = primitives.length := by
    rw [← Array.length_toList, sources, List.length_map]
  have ids : (surface.bucket bucket).cell? i = some primitives[i].ids := by
    rw [finished.bucket_eq, Connectivity.cell?_eq_getElem?_toLists, cells]
    simp [bound]
  have origin : surface.origins[surface.firstId bucket + i]? = some primitives[i].source := by
    rw [finished.getElem?_origins paired (counted ▸ bound), ← Array.getElem?_toList, sources]
    simp [bound]
  obtain ⟨inside, same⟩ := Array.getElem?_eq_some_iff.1 origin
  obtain ⟨tuples, original, made⟩ := AttributeTable.tuples?_gathered finished.cellData
    (i := surface.firstId bucket + i) (by simpa using inside)
  rw [Array.getElem_toList, same] at original
  unfold Surface.entry?
  rw [ids, origin, made, List.getElem_map, Primitive.entry, original]
  rfl

section Grown

variable {early late : Assembly} {first second : Surface} {stats others : Stats}
  {aborted stopped : Bool} {more : List NewPoint} (sound_early : early.Sound mesh)
  (sound_late : late.Sound mesh)
  (grown : late.newPoints.toList = early.newPoints.toList ++ more)
  (some_first : early.finish mesh stats aborted = some first)
  (some_second : late.finish mesh others stopped = some second)

include sound_early sound_late grown some_first some_second

/-- More new points come behind all points that are there. -/
theorem points_eq_append : second.points = first.points ++ (more.map NewPoint.position).toArray := by
  rw [(finished_of_finish sound_early some_first).1.points_eq,
    (finished_of_finish sound_late some_second).1.points_eq, Array.append_assoc]
  apply congrArg (mesh.points ++ ·)
  apply Array.toList_inj.1
  simp [grown]

/-- More new points leave a node as it is. -/
theorem node?_eq_some {id : Nat} (bound : id < first.numPoints) :
    ∃ node, first.node? id = some node ∧ second.node? id = some node := by
  have points := points_eq_append sound_early sound_late grown some_first some_second
  have count : first.numPoints =
      mesh.points.size + (early.newPoints.toList.map NewPoint.stencil).length := by
    unfold Surface.numPoints
    rw [(finished_of_finish sound_early some_first).1.points_eq]
    simp
  have inside : ∀ stencil ∈ early.newPoints.toList.map NewPoint.stencil ++ more.map NewPoint.stencil,
      ∀ entry ∈ stencil, entry.1 < mesh.points.size := by
    intro stencil member
    rw [← List.map_append, ← grown] at member
    obtain ⟨point, listed, rfl⟩ := List.mem_map.1 member
    exact sound_late.stencils point listed
  have some_data := extend_of_finish some_second
  rw [grown, List.map_append] at some_data
  obtain ⟨tuples, found, also⟩ := AttributeTable.extend_append mesh.valid.pointTuples inside
    (extend_of_finish some_first) some_data (count ▸ bound)
  have position : first.points[id]? = some first.points[id] := Array.getElem?_eq_getElem bound
  refine ⟨⟨first.points[id], tuples⟩, ?_, ?_⟩
  · unfold Surface.node?
    rw [position, found]
    rfl
  · unfold Surface.node?
    rw [points, Array.getElem?_append_left bound, position, also]
    rfl

/-- A surface with more new points has the nodes of one with fewer, and then its others. -/
theorem nodes?_isPrefix :
    ∃ held all, first.nodes? = some held ∧ second.nodes? = some all ∧ held <+: all := by
  have fewer : first.numPoints ≤ second.numPoints := by
    unfold Surface.numPoints
    rw [points_eq_append sound_early sound_late grown some_first some_second, Array.size_append]
    omega
  apply Checked.mapM_range_isPrefix fewer
  · exact fun id => node?_eq_some sound_early sound_late grown some_first some_second
  · intro id bound
    obtain ⟨node, found, _⟩ := node?_eq_some sound_late sound_late (List.append_nil _).symm
      some_second some_second bound
    exact ⟨node, found⟩

end Grown

end Assembly
end MeshSkin
