import Mathlib.Data.List.Induction
import Mathlib.Data.List.Nodup
import MeshSkin.Mesh.Builder
import MeshSkin.Mesh.Cells
import MeshSkin.Proofs.Connectivity.Canonical

/-!
# Built meshes

A mesh is built by calls of a builder, from arrays that were checked for whole tuples when they
were made. Both tables of a builder grow alike (`Builder.Site.table_run`): they hold arrays that were
attached, under distinct names (`Builder.attached_after`). So the built meshes are those whose arrays
fill whole tuples and have distinct names in each table (`Mesh.built_iff`), and calling a builder
with the parts of such a mesh gives the mesh back (`Mesh.rebuilt_eq_ok_iff`).
-/

namespace MeshSkin

namespace AttributeTable

/-- No two arrays have the same name. -/
def Distinct (table : AttributeTable) : Prop := (table.arrays.map Attribute.name).Nodup

instance (table : AttributeTable) : Decidable table.Distinct :=
  inferInstanceAs (Decidable (List.Nodup _))

theorem isSome_find?_iff {table : AttributeTable} {name : String} :
    (table.find? name).isSome ↔ name ∈ table.arrays.map Attribute.name := by
  simp [find?]

/-- An array is added behind the others if its name is new, and refused by its name otherwise. -/
theorem add_eq_ite (table : AttributeTable) (array : Attribute) :
    table.add array =
      if array.name ∈ table.arrays.map Attribute.name then .error (.duplicateAttribute array.name)
      else .ok ⟨table.arrays ++ [array]⟩ := by
  simp only [add, isSome_find?_iff]

/-- The table with one more array, unless its name is in use. -/
def attach (table : AttributeTable) (array : Attribute) : AttributeTable :=
  if array.name ∈ table.arrays.map Attribute.name then table else ⟨table.arrays ++ [array]⟩

theorem mem_of_mem_attach {table : AttributeTable} {array other : Attribute}
    (member : other ∈ (table.attach array).arrays) : other ∈ table.arrays ∨ other = array := by
  unfold attach at member
  split at member
  · exact Or.inl member
  · exact (List.mem_append.1 member).imp_right List.mem_singleton.1

/-- One more array has a new name. -/
theorem distinct_concat_iff {arrays : List Attribute} {array : Attribute} :
    Distinct ⟨arrays ++ [array]⟩ ↔
      Distinct ⟨arrays⟩ ∧ array.name ∉ arrays.map Attribute.name := by
  unfold Distinct
  rw [List.map_append, List.map_singleton, ← List.concat_eq_append, List.nodup_concat]
  exact and_comm

theorem Distinct.attach {table : AttributeTable} (distinct : table.Distinct) (array : Attribute) :
    (table.attach array).Distinct := by
  unfold AttributeTable.attach
  split
  · exact distinct
  · exact distinct_concat_iff.2 ⟨distinct, by assumption⟩

/-- Of distinct names each is new to those before it. -/
theorem Distinct.fresh {arrays rest : List Attribute} {array : Attribute}
    (distinct : Distinct ⟨arrays ++ [array] ++ rest⟩) :
    array.name ∉ arrays.map Attribute.name := by
  unfold Distinct at distinct
  rw [List.map_append] at distinct
  have first : Distinct ⟨arrays ++ [array]⟩ := (List.nodup_append.1 distinct).1
  exact (distinct_concat_iff.1 first).2

/-- Under distinct names each array is found under its own. -/
theorem Distinct.find?_eq_some {table : AttributeTable} (distinct : table.Distinct)
    {array : Attribute} (member : array ∈ table.arrays) : table.find? array.name = some array := by
  have named : (table.find? array.name).isSome :=
    isSome_find?_iff.2 (List.mem_map_of_mem member)
  obtain ⟨first, found⟩ := Option.isSome_iff_exists.1 named
  have same : first.name = array.name := by
    simpa using List.find?_some found
  rw [found, Option.some.injEq]
  exact List.inj_on_of_nodup_map distinct (List.mem_of_find?_eq_some found) member same

end AttributeTable

instance (array : Attribute) : Decidable array.WellShaped :=
  decidable_of_iff (0 < array.components ∧ array.values.size % array.components = 0)
    ⟨fun given => ⟨given.1, given.2⟩, fun shaped => ⟨shaped.components_pos, shaped.whole⟩⟩

namespace Builder

/-- One call of a builder. -/
inductive Call where
  | addPoint (point : Point)
  | addCell (kind : CellKind) (ids : List Nat)
  | addPointArray (array : Attribute)
  | addCellArray (array : Attribute)
  deriving DecidableEq, Repr

namespace Call

def run (builder : Builder) : Call → Builder
  | .addPoint point => (builder.addPoint point).2
  | .addCell kind ids => (builder.addCell kind ids).2
  | .addPointArray array => builder.addPointArray array
  | .addCellArray array => builder.addCellArray array

/-- An array that is attached was made from its values. -/
def Checked : Call → Prop
  | .addPointArray array | .addCellArray array =>
    Attribute.ofValues array.name array.components array.values = .ok array
  | _ => True

def pointArray? : Call → Option Attribute
  | .addPointArray array => some array
  | _ => none

def cellArray? : Call → Option Attribute
  | .addCellArray array => some array
  | _ => none

end Call

/-- A table that arrays are attached to. -/
inductive Site where
  | points
  | cells
  deriving DecidableEq, Repr

namespace Site

/-- The call that attaches an array to it. -/
def call : Site → Attribute → Call
  | points => .addPointArray
  | cells => .addCellArray

/-- The array that a call attaches to it. -/
def array? : Site → Call → Option Attribute
  | points => Call.pointArray?
  | cells => Call.cellArray?

def table : Site → Builder → AttributeTable
  | points => pointData
  | cells => cellData

/-- The builder with another table in its place. -/
def replace : Site → Builder → AttributeTable → Builder
  | points, builder, table => { builder with pointData := table }
  | cells, builder, table => { builder with cellData := table }

end Site

/-- A call adds a point or a cell, or it attaches an array to a table. -/
@[elab_as_elim]
theorem Call.casesBySite {motive : Call → Prop} (addPoint : ∀ point, motive (.addPoint point))
    (addCell : ∀ kind ids, motive (.addCell kind ids))
    (attach : ∀ (site : Site) (array : Attribute), motive (site.call array)) (call : Call) :
    motive call := by
  cases call with
  | addPoint point => exact addPoint point
  | addCell kind ids => exact addCell kind ids
  | addPointArray array => exact attach .points array
  | addCellArray array => exact attach .cells array

namespace Site

variable {site other : Site} {builder : Builder} {array : Attribute}

theorem array?_eq_some_iff {call : Call} : site.array? call = some array ↔ call = site.call array := by
  cases site <;> cases call <;> simp [Site.array?, Site.call, Call.pointArray?, Call.cellArray?]

@[simp] theorem array?_call : site.array? (site.call array) = some array :=
  array?_eq_some_iff.2 rfl

theorem array?_call_of_ne (h : other ≠ site) : site.array? (other.call array) = none := by
  cases site <;> cases other <;> first | rfl | exact absurd rfl h

@[simp] theorem table_replace (table : AttributeTable) :
    site.table (site.replace builder table) = table := by
  cases site <;> rfl

theorem table_replace_of_ne (h : other ≠ site) (table : AttributeTable) :
    site.table (other.replace builder table) = site.table builder := by
  cases site <;> cases other <;> first | rfl | exact absurd rfl h

theorem pending_replace (site : Site) (table : AttributeTable) :
    (site.replace builder table).pending = builder.pending := by
  cases site <;> rfl

@[simp] theorem table_refuse (error : MeshError) :
    site.table (builder.refuse error) = site.table builder := by
  cases site <;> rfl

theorem run_call_of_ok {made : AttributeTable} (added : (site.table builder).add array = .ok made) :
    (site.call array).run builder = site.replace builder made := by
  cases site <;> simp_all only [table, call, replace, Call.run, addPointArray, addCellArray]

theorem run_call_of_error {error : MeshError}
    (refused : (site.table builder).add array = .error error) :
    (site.call array).run builder = builder.refuse error := by
  cases site <;> simp_all only [table, call, Call.run, addPointArray, addCellArray]

/-- What attaching does: the array goes behind the others, or its name is refused. -/
theorem run_call (site : Site) (builder : Builder) (array : Attribute) :
    (site.call array).run builder =
      if array.name ∈ (site.table builder).arrays.map Attribute.name then
        builder.refuse (.duplicateAttribute array.name)
      else site.replace builder ⟨(site.table builder).arrays ++ [array]⟩ := by
  have outcome := (site.table builder).add_eq_ite array
  split at outcome
  · rename_i used
    rw [if_pos used]
    exact run_call_of_error outcome
  · rename_i fresh
    rw [if_neg fresh]
    exact run_call_of_ok outcome

/-- Points and cells do not take part. -/
theorem geometry_run_call (site : Site) (builder : Builder) (array : Attribute) :
    ((site.call array).run builder).points = builder.points ∧
      ((site.call array).run builder).kinds = builder.kinds ∧
      ((site.call array).run builder).cells = builder.cells := by
  rw [run_call]
  split
  · exact ⟨rfl, rfl, rfl⟩
  · cases site <;> exact ⟨rfl, rfl, rfl⟩

/-- What a call does to a table. -/
theorem table_run (site : Site) (builder : Builder) (call : Call) :
    site.table (call.run builder) =
      ((site.array? call).map (site.table builder).attach).getD (site.table builder) := by
  cases call using Call.casesBySite with
  | addPoint point => cases site <;> rfl
  | addCell kind ids => cases site <;> rfl
  | attach other array =>
    rw [run_call]
    by_cases same : other = site
    · subst same
      rw [array?_call, Option.map_some, Option.getD_some, AttributeTable.attach]
      split <;> simp
    · rw [array?_call_of_ne same]
      split
      · exact table_refuse _
      · exact table_replace_of_ne same _

end Site

/-- The builder after some calls. -/
def after (calls : List Call) : Builder := calls.foldl Call.run .empty

theorem after_concat (calls : List Call) (call : Call) :
    after (calls ++ [call]) = call.run (after calls) := by
  rw [after, after, List.foldl_append, List.foldl_cons, List.foldl_nil]

/-- What some calls attached, each name once in a table. -/
structure Attached (calls : List Call) (builder : Builder) : Prop where
  arrays : ∀ site : Site, ∀ array ∈ (site.table builder).arrays, site.call array ∈ calls
  names : ∀ site : Site, (site.table builder).Distinct

theorem Attached.run {calls : List Call} {builder : Builder} (attached : Attached calls builder)
    (call : Call) : Attached (calls ++ [call]) (call.run builder) where
  arrays site array member := by
    rw [site.table_run] at member
    cases added : site.array? call with
    | none =>
      rw [added] at member
      exact List.mem_append_left _ (attached.arrays site array member)
    | some last =>
      rw [added] at member
      rcases AttributeTable.mem_of_mem_attach member with early | rfl
      · exact List.mem_append_left _ (attached.arrays site array early)
      · simp [Site.array?_eq_some_iff.1 added]
  names site := by
    rw [site.table_run]
    cases site.array? call with
    | none => exact attached.names site
    | some last => exact (attached.names site).attach last

/-- The tables of a builder hold what its calls attached. -/
theorem attached_after (calls : List Call) : Attached calls (after calls) := by
  induction calls using List.reverseRecOn with
  | nil =>
    have none : ∀ site : Site, site.table (after []) = .empty := by
      intro site
      cases site <;> rfl
    exact ⟨fun site array member => by simp [none, AttributeTable.empty] at member,
      fun site => none site ▸ List.nodup_nil⟩
  | append_singleton calls call ih =>
    rw [after_concat]
    exact ih.run call

/-- Points are appended one by one. -/
theorem foldl_addPoint (points : List Point) (builder : Builder) :
    (points.map Call.addPoint).foldl Call.run builder =
      { builder with points := builder.points ++ points.toArray } := by
  induction points generalizing builder with
  | nil => simp
  | cons point rest ih =>
    rw [List.map_cons, List.foldl_cons, ih]
    simp [Call.run, addPoint]

theorem foldl_addCell (cells : List (CellKind × List Nat)) (builder : Builder) :
    (cells.map fun (kind, ids) => Call.addCell kind ids).foldl Call.run builder =
      { builder with
        kinds := builder.kinds ++ (cells.map Prod.fst).toArray
        cells := (cells.map Prod.snd).foldl Connectivity.push builder.cells } := by
  induction cells generalizing builder with
  | nil => simp
  | cons cell rest ih =>
    rw [List.map_cons, List.foldl_cons, ih]
    simp [Call.run, addCell, Connectivity.add]

/-- Arrays with new and distinct names are attached one behind the other. -/
theorem Site.foldl_call (site : Site) (arrays : List Attribute) (builder : Builder)
    (distinct : AttributeTable.Distinct ⟨(site.table builder).arrays ++ arrays⟩) :
    (arrays.map site.call).foldl Call.run builder =
      site.replace builder ⟨(site.table builder).arrays ++ arrays⟩ := by
  induction arrays generalizing builder with
  | nil => cases site <;> simp [replace, table]
  | cons array rest ih =>
    rw [List.append_cons] at distinct
    rw [List.map_cons, List.foldl_cons, site.run_call, if_neg distinct.fresh, ih]
    · cases site <;> simp [replace, table]
    · rwa [table_replace]

end Builder

namespace Mesh

open Builder (Site)

/-- Every array of the cells has a tuple for each cell. -/
theorem tupleCount?_cellData (mesh : Mesh) :
    ∀ array ∈ mesh.cellData.arrays, array.tupleCount? = some mesh.numCells := by
  rw [numCells, mesh.valid.sameSize]
  exact mesh.valid.cellTuples

/-- Points, cells and arrays of a mesh as calls of a builder. -/
def calls (mesh : Mesh) : List Builder.Call :=
  mesh.points.toList.map .addPoint ++
    (mesh.kinds.toList.zip mesh.cells.toLists).map (fun (kind, ids) => .addCell kind ids) ++
    mesh.pointData.arrays.map .addPointArray ++ mesh.cellData.arrays.map .addCellArray

/-- The mesh that a builder makes of the parts of a mesh. -/
def rebuilt (mesh : Mesh) : Except Fault Mesh := (Builder.after mesh.calls).build

/-- A builder makes the mesh from arrays that were made from their values. -/
def Built (mesh : Mesh) : Prop :=
  ∃ calls : List Builder.Call, (∀ call ∈ calls, call.Checked) ∧
    (Builder.after calls).build = .ok mesh

/-- The builder after the parts of a mesh with distinct names holds just these parts. -/
theorem after_calls {mesh : Mesh} (point_names : mesh.pointData.Distinct)
    (cell_names : mesh.cellData.Distinct) :
    Builder.after mesh.calls =
      ⟨mesh.points, mesh.kinds, mesh.cells, mesh.pointData, mesh.cellData, none⟩ := by
  have paired : mesh.kinds.toList.length = mesh.cells.toLists.length := by
    rw [length_toLists, numCells, Array.length_toList]
  have kinds := List.map_fst_zip (Nat.le_of_eq paired)
  have cells := List.map_snd_zip (Nat.le_of_eq paired.symm)
  have packed : mesh.cells.toLists.foldl Connectivity.push .empty = mesh.cells :=
    mesh.cells.ofLists_toLists
  have listed : mesh.calls = mesh.points.toList.map .addPoint ++
      (mesh.kinds.toList.zip mesh.cells.toLists).map (fun (kind, ids) => .addCell kind ids) ++
      mesh.pointData.arrays.map (Site.call .points) ++ mesh.cellData.arrays.map (Site.call .cells) := rfl
  rw [Builder.after, listed, List.foldl_append, List.foldl_append, List.foldl_append,
    Builder.foldl_addPoint, Builder.foldl_addCell, Site.foldl_call .points,
    Site.foldl_call .cells]
  · simp [Builder.empty, AttributeTable.empty, Site.replace, Site.table, kinds, cells, packed]
  · simpa [Builder.empty, AttributeTable.empty, Site.table, Site.replace] using cell_names
  · simpa [Builder.empty, AttributeTable.empty, Site.table] using point_names

/-- A built mesh has the tables of its builder. -/
theorem tables_of_build {builder : Builder} {mesh : Mesh} (built : builder.build = .ok mesh) :
    mesh.pointData = builder.pointData ∧ mesh.cellData = builder.cellData := by
  unfold Builder.build at built
  split at built
  · cases built
  · exact (ofParts_eq_ok_iff.1 built).2.2.2

/-- A builder makes a mesh again from its parts exactly if their names are distinct. -/
theorem rebuilt_eq_ok_iff {mesh : Mesh} :
    mesh.rebuilt = .ok mesh ↔ mesh.pointData.Distinct ∧ mesh.cellData.Distinct := by
  constructor
  · intro built
    obtain ⟨point_data, cell_data⟩ := tables_of_build built
    have attached := Builder.attached_after mesh.calls
    rw [point_data, cell_data]
    exact ⟨attached.names .points, attached.names .cells⟩
  · intro given
    unfold rebuilt
    rw [after_calls given.1 given.2]
    exact ofParts_eq_ok_iff.2 ⟨rfl, rfl, rfl, rfl, rfl⟩

/-- The built meshes are those whose arrays fill whole tuples and have distinct names. -/
theorem built_iff {mesh : Mesh} :
    mesh.Built ↔
      ((∀ array ∈ mesh.pointData.arrays, array.WellShaped) ∧ mesh.pointData.Distinct) ∧
        (∀ array ∈ mesh.cellData.arrays, array.WellShaped) ∧ mesh.cellData.Distinct := by
  constructor
  · intro built
    obtain ⟨calls, checked, built⟩ := built
    obtain ⟨point_data, cell_data⟩ := tables_of_build built
    have attached := Builder.attached_after calls
    rw [point_data, cell_data]
    refine ⟨⟨fun array member => ?_, attached.names .points⟩, fun array member => ?_,
      attached.names .cells⟩
    · exact (Attribute.ofValues_eq_ok_iff.1
        (checked _ (attached.arrays .points array member))).2
    · exact (Attribute.ofValues_eq_ok_iff.1
        (checked _ (attached.arrays .cells array member))).2
  · intro given
    obtain ⟨⟨point_shapes, point_names⟩, cell_shapes, cell_names⟩ := given
    refine ⟨mesh.calls, fun call member => ?_, rebuilt_eq_ok_iff.2 ⟨point_names, cell_names⟩⟩
    simp only [calls, List.mem_append, List.mem_map] at member
    rcases member with ((⟨point, _, rfl⟩ | ⟨cell, _, rfl⟩) | ⟨array, listed, rfl⟩) |
      ⟨array, listed, rfl⟩
    · trivial
    · trivial
    · exact Attribute.ofValues_eq_ok_iff.2 ⟨rfl, point_shapes array listed⟩
    · exact Attribute.ofValues_eq_ok_iff.2 ⟨rfl, cell_shapes array listed⟩

end Mesh
end MeshSkin
