import MeshSkin.Proofs.Mesh.Gathered

/-!
# Meshes from calls

What a builder makes of the calls it was given. Points and cells get the ids 0, 1, … in the order of
their calls. The first call that uses a name of its table again decides what is built, namely
nothing, and leaves both tables alone; without such a call the parts are exactly those of the calls,
in their order (`Builder.after_keeps`).
-/

namespace MeshSkin.Builder

section Built

variable {calls : List Call} {builder : Builder} {call : Call} {name : String}

/-- What is recorded stays so, whatever is called later. -/
theorem pending_run_of_some {error : MeshError} (pending : builder.pending = some error)
    (call : Call) : (call.run builder).pending = some error := by
  cases call using Call.casesBySite with
  | addPoint point => exact pending
  | addCell kind ids => exact pending
  | attach site array =>
    rw [site.run_call]
    split
    · simp [refuse, pending]
    · rw [site.pending_replace, pending]

theorem pending_foldl_of_some {error : MeshError} (pending : builder.pending = some error)
    (rest : List Call) : (rest.foldl Call.run builder).pending = some error := by
  induction rest generalizing builder with
  | nil => exact pending
  | cons call rest ih => exact ih (pending_run_of_some pending call)

/-- The first call that repeats a name decides what is built. -/
theorem build_of_first {before rest : List Call} (fresh : NoRepeats before)
    (repeats : call.Repeats before name) :
    (after (before ++ call :: rest)).build = .error (.invalid (.duplicateAttribute name)) := by
  have gathered := gathered_after before
  have first : (call.run (after before)).pending = some (.duplicateAttribute name) := by
    rw [gathered.run_of_repeats repeats, refuse, gathered.pending.2 fresh]
    rfl
  have last : (after (before ++ call :: rest)).pending = some (.duplicateAttribute name) := by
    rw [after, List.foldl_append, List.foldl_cons]
    exact pending_foldl_of_some first rest
  rw [build, last]

/-- A line without points behind a repeated name is not what is complained about. -/
example : (after [.addPointArray ⟨"a", 1, .bytes #[]⟩, .addPointArray ⟨"a", 1, .bytes #[]⟩,
    .addCell .line [0, 1]]).build = .error (.invalid (.duplicateAttribute "a")) := by
  decide

/-- Calls that repeat no name attach arrays of distinct names to each table. -/
theorem NoRepeats.distinct (fresh : NoRepeats calls) (site : Site) :
    AttributeTable.Distinct ⟨calls.filterMap site.array?⟩ := by
  induction calls using List.reverseRecOn with
  | nil => exact List.nodup_nil
  | append_singleton calls call ih =>
    obtain ⟨early, last⟩ := noRepeats_concat_iff.1 fresh
    rw [filterMap_concat]
    cases attached : site.array? call with
    | none => simpa using ih early
    | some array =>
      obtain rfl := Site.array?_eq_some_iff.1 attached
      exact AttributeTable.distinct_concat_iff.2
        ⟨ih early, fun used => last _ (Call.repeats_call_iff.2 ⟨rfl, used⟩)⟩

/-- Each of their arrays is found under its name. -/
theorem NoRepeats.find?_eq_some (fresh : NoRepeats calls) (site : Site) {array : Attribute}
    (member : site.call array ∈ calls) :
    AttributeTable.find? ⟨calls.filterMap site.array?⟩ array.name = some array :=
  (fresh.distinct site).find?_eq_some (List.mem_filterMap.2 ⟨_, member, Site.array?_call⟩)

/-- The mesh of the points, cells and arrays of some calls, in their order. -/
def ofCalls (calls : List Call) : Except Fault Mesh :=
  Mesh.ofParts (calls.filterMap Call.point?).toArray
    ((calls.filterMap Call.cell?).map Prod.fst).toArray
    (.ofLists ((calls.filterMap Call.cell?).map Prod.snd))
    ⟨calls.filterMap Call.pointArray?⟩ ⟨calls.filterMap Call.cellArray?⟩

theorem build_of_noRepeats (fresh : NoRepeats calls) : (after calls).build = ofCalls calls := by
  obtain ⟨points, kinds, cells, tables, pending⟩ := gathered_after calls
  have point_arrays : (after calls).pointData.arrays = calls.filterMap Call.pointArray? :=
    (tables .points).all (fresh.distinct .points)
  have cell_arrays : (after calls).cellData.arrays = calls.filterMap Call.cellArray? :=
    (tables .cells).all (fresh.distinct .cells)
  rw [build, pending.2 fresh, ofCalls, points, kinds, cells, ← point_arrays, ← cell_arrays]

/-- A builder that makes a mesh was called without repeated names. -/
theorem noRepeats_of_build {mesh : Mesh} (built : (after calls).build = .ok mesh) :
    NoRepeats calls := by
  rcases noRepeats_or_first calls with fresh | ⟨before, call, rest, name, rfl, fresh, repeats⟩
  · exact fresh
  · rw [build_of_first fresh repeats] at built
    cases built

end Built

/-- What becomes of the calls of a builder. -/
structure Keeps (calls : List Call) : Prop where
  /-- The id of a point is the number of points before it, and so with cells. -/
  pointIds : ∀ before point rest, calls = before ++ .addPoint point :: rest →
    ((after before).addPoint point).1 = (before.filterMap Call.point?).length
  cellIds : ∀ before kind ids rest, calls = before ++ .addCell kind ids :: rest →
    ((after before).addCell kind ids).1 = (before.filterMap Call.cell?).length
  /-- The first repeated name is named as the fault, whatever else is wrong. -/
  first : ∀ before call rest name, calls = before ++ call :: rest → NoRepeats before →
    call.Repeats before name →
    (after calls).build = .error (.invalid (.duplicateAttribute name))
  /-- Without a repeated name the parts are those of the calls. -/
  parts : NoRepeats calls → (after calls).build = ofCalls calls
  /-- One of both is the case. -/
  firstOrNone : NoRepeats calls ∨ ∃ before call rest name, calls = before ++ call :: rest ∧
    NoRepeats before ∧ call.Repeats before name
  /-- An array under a repeated name is attached to nothing. -/
  refused : ∀ before call rest name, calls = before ++ call :: rest →
    call.Repeats before name →
    call.run (after before) =
      { after before with pending := (after before).pending <|> some (.duplicateAttribute name) }
  /-- A table has, under each name, the first array that was attached to it. -/
  pointTable : ∀ name, (after calls).pointData.find? name =
    AttributeTable.find? ⟨calls.filterMap Call.pointArray?⟩ name
  cellTable : ∀ name, (after calls).cellData.find? name =
    AttributeTable.find? ⟨calls.filterMap Call.cellArray?⟩ name
  /-- In a built mesh everything is found under the id or the name of its call. -/
  points : ∀ mesh, (after calls).build = .ok mesh → ∀ before point rest,
    calls = before ++ .addPoint point :: rest →
    mesh.point? ((after before).addPoint point).1 = some point
  cells : ∀ mesh, (after calls).build = .ok mesh → ∀ before kind ids rest,
    calls = before ++ .addCell kind ids :: rest →
    mesh.kind? ((after before).addCell kind ids).1 = some kind ∧
      mesh.cell? ((after before).addCell kind ids).1 = some ids
  pointArrays : ∀ mesh, (after calls).build = .ok mesh → ∀ array,
    .addPointArray array ∈ calls → mesh.pointData.find? array.name = some array
  cellArrays : ∀ mesh, (after calls).build = .ok mesh → ∀ array,
    .addCellArray array ∈ calls → mesh.cellData.find? array.name = some array

section Results

variable {calls : List Call} {mesh : Mesh}

theorem addPoint_after (calls : List Call) (point : Point) :
    ((after calls).addPoint point).1 = (calls.filterMap Call.point?).length := by
  rw [addPoint, (gathered_after calls).points]
  simp

theorem addCell_after (calls : List Call) (kind : CellKind) (ids : List Nat) :
    ((after calls).addCell kind ids).1 = (calls.filterMap Call.cell?).length := by
  simp only [addCell, Connectivity.add]
  rw [(gathered_after calls).cells, Connectivity.size_ofLists, List.length_map]

/-- A built mesh has the parts of the calls. -/
theorem parts_of_build (built : (after calls).build = .ok mesh) :
    mesh.points = (calls.filterMap Call.point?).toArray ∧
      mesh.kinds = ((calls.filterMap Call.cell?).map Prod.fst).toArray ∧
      mesh.cells = .ofLists ((calls.filterMap Call.cell?).map Prod.snd) ∧
      mesh.pointData = ⟨calls.filterMap Call.pointArray?⟩ ∧
      mesh.cellData = ⟨calls.filterMap Call.cellArray?⟩ := by
  rw [build_of_noRepeats (noRepeats_of_build built)] at built
  exact Mesh.ofParts_eq_ok_iff.1 built

theorem point?_of_build (built : (after calls).build = .ok mesh) {before rest : List Call}
    {point : Point} (split : calls = before ++ .addPoint point :: rest) :
    mesh.point? ((after before).addPoint point).1 = some point := by
  rw [addPoint_after, Mesh.point?, (parts_of_build built).1, split]
  simp [Call.point?]

theorem cell?_of_build (built : (after calls).build = .ok mesh) {before rest : List Call}
    {kind : CellKind} {ids : List Nat} (split : calls = before ++ .addCell kind ids :: rest) :
    mesh.kind? ((after before).addCell kind ids).1 = some kind ∧
      mesh.cell? ((after before).addCell kind ids).1 = some ids := by
  obtain ⟨_, kinds, cells, _, _⟩ := parts_of_build built
  have here : (calls.filterMap Call.cell?)[(before.filterMap Call.cell?).length]? =
      some (kind, ids) := by
    rw [split]
    simp [Call.cell?]
  rw [addCell_after, Mesh.kind?, Mesh.cell?, kinds, cells, Connectivity.cell?_eq_getElem?_toLists,
    Connectivity.toLists_ofLists]
  simp [here]

end Results

/-- A builder loses nothing of its calls and keeps the first of their faults. -/
theorem after_keeps (calls : List Call) : Keeps calls where
  pointIds before point _ _ := addPoint_after before point
  cellIds before kind ids _ _ := addCell_after before kind ids
  first before call rest name split fresh repeats := by
    rw [split]
    exact build_of_first fresh repeats
  parts fresh := build_of_noRepeats fresh
  firstOrNone := noRepeats_or_first calls
  refused before call _ name _ repeats := (gathered_after before).run_of_repeats repeats
  pointTable := ((gathered_after calls).tables .points).found
  cellTable := ((gathered_after calls).tables .cells).found
  points _ built _ _ _ split := point?_of_build built split
  cells _ built _ _ _ _ split := cell?_of_build built split
  pointArrays _ built _ member := by
    rw [(parts_of_build built).2.2.2.1]
    exact (noRepeats_of_build built).find?_eq_some .points member
  cellArrays _ built _ member := by
    rw [(parts_of_build built).2.2.2.2]
    exact (noRepeats_of_build built).find?_eq_some .cells member

end MeshSkin.Builder
