import MeshSkin.Proofs.Mesh.Building

/-!
# What a builder has

After any calls a builder has their points and cells, and in each table the first array under each
name, in the order of the calls. It has recorded a fault exactly if one of the calls used a name
again (`Builder.gathered_after`).
-/

namespace MeshSkin

namespace AttributeTable

/-- A table holds, under each name, the first of some arrays with that name, and all of them if they
have distinct names. -/
structure Gathers (table : AttributeTable) (arrays : List Attribute) : Prop where
  found : ∀ name, table.find? name = find? ⟨arrays⟩ name
  all : Distinct ⟨arrays⟩ → table.arrays = arrays

namespace Gathers

variable {table : AttributeTable} {arrays : List Attribute} {array : Attribute}

theorem mem_names_iff (gathers : table.Gathers arrays) {name : String} :
    name ∈ table.arrays.map Attribute.name ↔ name ∈ arrays.map Attribute.name := by
  rw [← isSome_find?_iff, gathers.found, isSome_find?_iff]

/-- One more array behind the others. -/
theorem concat (gathers : table.Gathers arrays) (array : Attribute) :
    Gathers ⟨table.arrays ++ [array]⟩ (arrays ++ [array]) where
  found name := by
    have found := gathers.found name
    simp only [find?] at found ⊢
    rw [List.find?_append, List.find?_append, found]
  all distinct := by simp only [gathers.all (distinct_concat_iff.1 distinct).1]

/-- An array under a name in use is not the first one with that name. -/
theorem concat_used (gathers : table.Gathers arrays)
    (used : array.name ∈ arrays.map Attribute.name) : table.Gathers (arrays ++ [array]) where
  found name := by
    have named : array.name = name → (find? ⟨arrays⟩ name).isSome :=
      fun same => isSome_find?_iff.2 (same ▸ used)
    rw [gathers.found]
    simp only [find?] at named ⊢
    rw [List.find?_append]
    by_cases same : array.name = name
    · -- The name is found among the earlier arrays already.
      rw [Option.or_of_isSome (named same)]
    · simp [same]
  all distinct := absurd used (distinct_concat_iff.1 distinct).2

theorem attach (gathers : table.Gathers arrays) (array : Attribute) :
    (table.attach array).Gathers (arrays ++ [array]) := by
  unfold AttributeTable.attach
  split
  · rename_i used
    exact gathers.concat_used (gathers.mem_names_iff.1 used)
  · exact gathers.concat array

end Gathers
end AttributeTable

namespace Builder

namespace Call

def point? : Call → Option Point
  | .addPoint point => some point
  | _ => none

def cell? : Call → Option (CellKind × List Nat)
  | .addCell kind ids => some (kind, ids)
  | _ => none

/-- A call attaches an array under a name that an earlier call used in the same table. -/
inductive Repeats (before : List Call) : Call → String → Prop where
  | point (array : Attribute)
      (used : array.name ∈ (before.filterMap pointArray?).map Attribute.name) :
      Repeats before (.addPointArray array) array.name
  | cell (array : Attribute)
      (used : array.name ∈ (before.filterMap cellArray?).map Attribute.name) :
      Repeats before (.addCellArray array) array.name

end Call

theorem Call.repeats_call_iff {site : Site} {array : Attribute} {before : List Call} {name : String} :
    (site.call array).Repeats before name ↔
      name = array.name ∧ array.name ∈ (before.filterMap site.array?).map Attribute.name := by
  constructor
  · intro repeats
    cases site <;> cases repeats <;> exact ⟨rfl, by assumption⟩
  · rintro ⟨rfl, used⟩
    cases site with
    | points => exact .point array used
    | cells => exact .cell array used

theorem Call.Repeats.exists_site {call : Call} {before : List Call} {name : String}
    (repeats : call.Repeats before name) : ∃ (site : Site) (array : Attribute), call = site.call array := by
  cases repeats with
  | point array _ => exact ⟨.points, array, rfl⟩
  | cell array _ => exact ⟨.cells, array, rfl⟩

/-- No call repeats a name. -/
def NoRepeats (calls : List Call) : Prop :=
  ∀ before call rest, calls = before ++ call :: rest → ∀ name, ¬ call.Repeats before name

/-- What a builder has of its calls. -/
structure Gathered (calls : List Call) (builder : Builder) : Prop where
  points : builder.points = (calls.filterMap Call.point?).toArray
  kinds : builder.kinds = ((calls.filterMap Call.cell?).map Prod.fst).toArray
  cells : builder.cells = .ofLists ((calls.filterMap Call.cell?).map Prod.snd)
  tables : ∀ site : Site, (site.table builder).Gathers (calls.filterMap site.array?)
  pending : builder.pending = none ↔ NoRepeats calls

section Splits

variable {calls before rest : List Call} {call other : Call}

/-- A call among some calls and one more is one of them, or the last one. -/
theorem concat_eq_append_cons_iff :
    calls ++ [call] = before ++ other :: rest ↔
      (∃ more, rest = more ++ [call] ∧ calls = before ++ other :: more) ∨
        rest = [] ∧ calls = before ∧ call = other := by
  rcases List.eq_nil_or_concat' rest with rfl | ⟨more, last, rfl⟩
  · simp
  · rw [← List.cons_append, ← List.append_assoc, List.append_singleton_inj]
    constructor
    · rintro ⟨same, rfl⟩
      exact Or.inl ⟨more, rfl, same⟩
    · rintro (⟨_, rest, same⟩ | ⟨none, _⟩)
      · obtain ⟨rfl, rfl⟩ := List.append_singleton_inj.1 rest
        exact ⟨same, rfl⟩
      · simp at none

theorem noRepeats_nil : NoRepeats [] := by
  intro before call rest split
  simp at split

theorem noRepeats_concat_iff :
    NoRepeats (calls ++ [call]) ↔ NoRepeats calls ∧ ∀ name, ¬ call.Repeats calls name := by
  constructor
  · intro fresh
    refine ⟨fun before other rest split => ?_, fresh calls call [] rfl⟩
    exact fresh before other (rest ++ [call]) (by simp [split])
  · rintro ⟨fresh, last⟩ before other rest split
    rcases concat_eq_append_cons_iff.1 split with ⟨more, _, split⟩ | ⟨_, rfl, rfl⟩
    · exact fresh before other more split
    · exact last

/-- Calls repeat no name, or there is a first one that does. -/
theorem noRepeats_or_first (calls : List Call) :
    NoRepeats calls ∨ ∃ before call rest name, calls = before ++ call :: rest ∧
      NoRepeats before ∧ call.Repeats before name := by
  induction calls using List.reverseRecOn with
  | nil => exact Or.inl noRepeats_nil
  | append_singleton calls call ih =>
    rcases ih with fresh | ⟨before, other, rest, name, rfl, fresh, repeats⟩
    · by_cases last : ∃ name, call.Repeats calls name
      · obtain ⟨name, repeats⟩ := last
        exact Or.inr ⟨calls, call, [], name, rfl, fresh, repeats⟩
      · exact Or.inl (noRepeats_concat_iff.2 ⟨fresh, not_exists.1 last⟩)
    · exact Or.inr ⟨before, other, rest ++ [call], name, by simp, fresh, repeats⟩

end Splits

section Steps

variable {calls : List Call} {builder : Builder} {call : Call} {name : String}

/-- A call that repeats a name is recorded if it is the first, and changes nothing else. -/
theorem Gathered.run_of_repeats (gathered : Gathered calls builder)
    (repeats : call.Repeats calls name) :
    call.run builder = builder.refuse (.duplicateAttribute name) := by
  obtain ⟨site, array, rfl⟩ := repeats.exists_site
  obtain ⟨rfl, used⟩ := Call.repeats_call_iff.1 repeats
  rw [site.run_call, if_pos ((gathered.tables site).mem_names_iff.2 used)]

theorem pending_refuse_ne_none {error : MeshError} : (builder.refuse error).pending ≠ none := by
  unfold refuse
  cases builder.pending <;> simp

/-- Only a repeated name is a reason for a refusal. -/
theorem pending_run_of_fresh (gathered : Gathered calls builder)
    (fresh : ∀ name, ¬ call.Repeats calls name) : (call.run builder).pending = builder.pending := by
  cases call using Call.casesBySite with
  | addPoint point => rfl
  | addCell kind ids => rfl
  | attach site array =>
    have new : array.name ∉ (site.table builder).arrays.map Attribute.name := fun used =>
      fresh _ (Call.repeats_call_iff.2 ⟨rfl, (gathered.tables site).mem_names_iff.1 used⟩)
    rw [site.run_call, if_neg new, site.pending_replace]

theorem gathered_empty : Gathered [] .empty where
  points := rfl
  kinds := rfl
  cells := rfl
  tables site := by cases site <;> exact ⟨fun _ => rfl, fun _ => rfl⟩
  pending := iff_of_true rfl noRepeats_nil

theorem Gathered.pending_run (gathered : Gathered calls builder) (call : Call) :
    (call.run builder).pending = none ↔ NoRepeats (calls ++ [call]) := by
  rw [noRepeats_concat_iff, ← gathered.pending]
  -- A repeated name leaves something recorded in any case, whether it is the first or not.
  by_cases last : ∃ name, call.Repeats calls name
  · obtain ⟨name, repeats⟩ := last
    rw [gathered.run_of_repeats repeats]
    exact iff_of_false pending_refuse_ne_none fun given => given.2 name repeats
  · rw [pending_run_of_fresh gathered (not_exists.1 last)]
    exact (and_iff_left (not_exists.1 last)).symm

theorem filterMap_concat {α : Type} (view : Call → Option α) :
    (calls ++ [call]).filterMap view = calls.filterMap view ++ (view call).toList := by
  rw [List.filterMap_append, List.filterMap_cons, List.filterMap_nil]
  cases view call <;> rfl

theorem points_run (builder : Builder) (call : Call) :
    (call.run builder).points = builder.points ++ call.point?.toList := by
  cases call using Call.casesBySite with
  | addPoint point => simp [Call.run, addPoint, Call.point?]
  | addCell kind ids => simp [Call.run, addCell, Call.point?]
  | attach site array =>
    rw [(site.geometry_run_call builder array).1]
    cases site <;> simp [Site.call, Call.point?]

/-- A cell goes to the kinds and to the lists of points, or to neither. -/
theorem cells_run (builder : Builder) (call : Call) :
    (call.run builder).kinds = builder.kinds ++ call.cell?.toList.map Prod.fst ∧
      (call.run builder).cells =
        (call.cell?.toList.map Prod.snd).foldl Connectivity.push builder.cells := by
  cases call using Call.casesBySite with
  | addPoint point => simp [Call.run, addPoint, Call.cell?]
  | addCell kind ids => simp [Call.run, addCell, Connectivity.add, Call.cell?]
  | attach site array =>
    obtain ⟨_, kinds, cells⟩ := site.geometry_run_call builder array
    rw [kinds, cells]
    cases site <;> simp [Site.call, Call.cell?]

theorem table_run_gathers {site : Site} {arrays : List Attribute}
    (gathers : (site.table builder).Gathers arrays) (call : Call) :
    (site.table (call.run builder)).Gathers (arrays ++ (site.array? call).toList) := by
  rw [site.table_run]
  cases site.array? call with
  | none => simpa using gathers
  | some array => exact gathers.attach array

/-- What a builder has stays so with one more call. -/
theorem Gathered.run (gathered : Gathered calls builder) (call : Call) :
    Gathered (calls ++ [call]) (call.run builder) where
  points := by
    rw [filterMap_concat, points_run, gathered.points]
    simp
  kinds := by
    rw [filterMap_concat, (cells_run builder call).1, gathered.kinds]
    simp
  cells := by
    rw [filterMap_concat, (cells_run builder call).2, gathered.cells, List.map_append,
      Connectivity.ofLists, Connectivity.ofLists, List.foldl_append]
  tables site := by
    rw [filterMap_concat]
    exact table_run_gathers (gathered.tables site) call
  pending := gathered.pending_run call

theorem gathered_after (calls : List Call) : Gathered calls (after calls) := by
  induction calls using List.reverseRecOn with
  | nil => exact gathered_empty
  | append_singleton calls call ih =>
    rw [after_concat]
    exact ih.run call

end Steps

end Builder
end MeshSkin
