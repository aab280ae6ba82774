import MeshSkin.Document.Mesh
import MeshSkin.Proofs.Attribute.Arrays
import MeshSkin.Proofs.Mesh.Building
import MeshSkin.Proofs.Mesh.Unanswered

/-!
# Meshes read from documents

Reading a mesh asks less of its arrays than making them does. It has no answer when the check of
the parts comes to an array without components (`Mesh.reading_unanswered_iff`). Otherwise only
whole tuples are counted, so an array may have values left over, and a name may be used twice;
apart from these two faults what is read could have been built (`Mesh.built_iff_of_ofDocument`).
-/

namespace MeshSkin

namespace Document

/-- A result that is a value or a named error. -/
def Answered {α : Type} (result : Except DecodeError α) : Prop :=
  result ≠ .error (.refused .undefined)

section Answered

variable {α β : Type}

theorem answered_ok (value : α) : Answered (.ok value) := by simp [Answered]

theorem answered_malformed : Answered (.error .malformed : Except DecodeError α) := by
  simp [Answered]

theorem answered_bind {first : Except DecodeError α} {next : α → Except DecodeError β}
    (answered : Answered first) (onward : ∀ value, Answered (next value)) :
    Answered (first >>= next) := by
  cases first with
  | error error => simpa [Answered, bind, Except.bind] using answered
  | ok value => exact onward value

theorem answered_map {first : Except DecodeError α} (answered : Answered first) (f : α → β) :
    Answered (first.map f) := by
  cases first with
  | error error => simpa [Answered, Except.map] using answered
  | ok value => exact answered_ok _

theorem answered_mapM {read : Document → Except DecodeError α} (answered : ∀ doc, Answered (read doc))
    (docs : List Document) : Answered (docs.mapM read) := by
  induction docs with
  | nil => exact answered_ok _
  | cons doc rest ih =>
    rw [List.mapM_cons]
    exact answered_bind (answered doc) fun _ => answered_bind ih fun _ => answered_ok _

theorem answered_toList {read : Document → Except DecodeError α}
    (answered : ∀ doc, Answered (read doc)) (doc : Document) : Answered (doc.toList read) := by
  unfold toList
  split
  · exact answered_mapM answered _
  · exact answered_malformed

theorem answered_need {read : Document → Except DecodeError α}
    (answered : ∀ doc, Answered (read doc)) (fields : Fields) (name : String) :
    Answered (fields.need name read) := by
  unfold Fields.need
  split
  · exact answered _
  · exact answered_malformed

theorem answered_fields (names : List String) (doc : Document) : Answered (doc.fields names) := by
  unfold fields
  split
  · exact answered_ok _
  · split
    · exact answered_ok _
    · exact answered_malformed
  · exact answered_malformed

theorem answered_toNat (doc : Document) : Answered doc.toNat := by
  unfold toNat
  split
  · exact answered_ok _
  · exact answered_malformed

theorem answered_toIntIn (lo hi : Int) (doc : Document) : Answered (doc.toIntIn lo hi) := by
  unfold toIntIn
  split
  · split
    · exact answered_ok _
    · exact answered_malformed
  · exact answered_malformed

theorem answered_toReal (doc : Document) : Answered doc.toReal := by
  unfold toReal
  split
  · exact answered_ok _
  · exact answered_ok _
  · exact answered_malformed

theorem answered_toText (doc : Document) : Answered doc.toText := by
  unfold toText
  split
  · exact answered_ok _
  · exact answered_malformed

end Answered

section Refused

variable {α : Type} {first : Except Fault α}

theorem refused_eq_ok_iff {value : α} :
    first.mapError DecodeError.refused = .ok value ↔ first = .ok value := by
  cases first with
  | error fault => exact iff_of_false (fun same => by cases same) (fun same => by cases same)
  | ok made =>
    change Except.ok made = .ok value ↔ _
    simp

theorem refused_eq_undefined_iff :
    first.mapError DecodeError.refused = .error (.refused .undefined) ↔
      first = .error .undefined := by
  cases first with
  | error fault =>
    change Except.error (DecodeError.refused fault) = _ ↔ _
    simp
  | ok made => exact iff_of_false (fun same => by cases same) (fun same => by cases same)

end Refused

end Document

open Document

theorem Point.answered_ofDocument (doc : Document) : Answered (Point.ofDocument doc) := by
  unfold Point.ofDocument
  split
  · exact answered_bind (answered_toReal _) fun _ => answered_bind (answered_toReal _) fun _ =>
      answered_bind (answered_toReal _) fun _ => answered_ok _
  · exact answered_malformed

theorem CellKind.answered_ofDocument (doc : Document) : Answered (CellKind.ofDocument doc) := by
  have named : ∀ name, Answered (CellKind.ofDocument.named? name) := by
    intro name
    unfold CellKind.ofDocument.named?
    split
    · exact answered_ok _
    · exact answered_malformed
  unfold CellKind.ofDocument
  split
  · exact named _
  · split
    · exact answered_map (answered_map (answered_toIntIn _ _ _) _) _
    · split
      · exact named _
      · exact answered_malformed
  · exact answered_malformed

theorem Connectivity.answered_ofDocument (doc : Document) :
    Answered (Connectivity.ofDocument doc) := by
  unfold Connectivity.ofDocument
  refine answered_bind (answered_fields _ _) fun fields =>
    answered_bind (answered_need (answered_toList answered_toNat) _ _) fun offsets =>
      answered_bind (answered_need (answered_toList answered_toNat) _ _) fun ids => ?_
  cases ofOffsets offsets.toArray ids.toArray with
  | error fault => exact fun same => by cases same
  | ok cells => exact answered_ok cells

theorem Values.answered_ofDocument (doc : Document) : Answered (Values.ofDocument doc) := by
  unfold Values.ofDocument
  split
  · exact answered_map (answered_toList (fun doc => answered_map (answered_toIntIn _ _ doc) _) _) _
  · exact answered_map (answered_toList (fun doc => answered_map (answered_toIntIn _ _ doc) _) _) _
  · exact answered_map (answered_toList answered_toReal _) _
  · exact answered_malformed

theorem AttributeTable.answered_ofDocument (doc : Document) :
    Answered (AttributeTable.ofDocument doc) := by
  have array : ∀ doc, Answered (Attribute.ofDocument doc) := fun doc =>
    answered_bind (answered_fields _ _) fun _ =>
      answered_bind (answered_need answered_toText _ _) fun _ =>
        answered_bind (answered_need answered_toNat _ _) fun _ =>
          answered_bind (answered_need Values.answered_ofDocument _ _) fun _ => answered_ok _
  exact answered_bind (answered_fields _ _) fun _ =>
    answered_bind (answered_need (answered_toList array) _ _) fun _ => answered_ok _

namespace Mesh

/-- What a mesh is made of. -/
structure Parts where
  points : Array Point
  kinds : Array CellKind
  cells : Connectivity
  pointData : AttributeTable
  cellData : AttributeTable
  deriving DecidableEq, Repr

namespace Parts

/-- The parts that a document gives, before they are checked together. -/
def ofDocument (doc : Document) : Except DecodeError Parts := do
  let fields ← doc.fields ["points", "types", "cells", "point_data", "cell_data"]
  let points ← fields.need "points" (Document.toList Point.ofDocument)
  let kinds ← fields.need "types" (Document.toList CellKind.ofDocument)
  let cells ← fields.need "cells" Connectivity.ofDocument
  let pointData ← fields.need "point_data" AttributeTable.ofDocument
  let cellData ← fields.need "cell_data" AttributeTable.ofDocument
  return ⟨points.toArray, kinds.toArray, cells, pointData, cellData⟩

/-- The mesh made of the parts. -/
def mesh (parts : Parts) : Except Fault Mesh :=
  ofParts parts.points parts.kinds parts.cells parts.pointData parts.cellData

/-- The check of the parts comes to an array without components. -/
def Unanswered (parts : Parts) : Prop :=
  Mesh.Unanswered parts.points parts.kinds parts.cells parts.pointData parts.cellData

theorem answered_ofDocument (doc : Document) : Answered (ofDocument doc) :=
  answered_bind (answered_fields _ _) fun _ =>
    answered_bind (answered_need (answered_toList Point.answered_ofDocument) _ _) fun _ =>
      answered_bind (answered_need (answered_toList CellKind.answered_ofDocument) _ _) fun _ =>
        answered_bind (answered_need Connectivity.answered_ofDocument _ _) fun _ =>
          answered_bind (answered_need AttributeTable.answered_ofDocument _ _) fun _ =>
            answered_bind (answered_need AttributeTable.answered_ofDocument _ _) fun _ =>
              answered_ok _

end Parts

/-- A mesh is read by reading its parts and checking them together. -/
theorem ofDocument_eq_bind (doc : Document) :
    ofDocument doc = Parts.ofDocument doc >>= fun parts => parts.mesh.mapError .refused := by
  unfold ofDocument Parts.ofDocument
  simp only [bind_assoc, pure_bind]
  rfl

/-- The parts of a mesh. -/
def parts (mesh : Mesh) : Parts :=
  ⟨mesh.points, mesh.kinds, mesh.cells, mesh.pointData, mesh.cellData⟩

theorem Parts.mesh_eq_ok_iff {parts : Parts} {mesh : Mesh} :
    parts.mesh = .ok mesh ↔ parts = mesh.parts := by
  unfold Parts.mesh
  rw [ofParts_eq_ok_iff]
  cases parts
  simp only [Mesh.parts, Parts.mk.injEq]
  constructor <;> rintro ⟨rfl, rfl, rfl, rfl, rfl⟩ <;> exact ⟨rfl, rfl, rfl, rfl, rfl⟩

/-- A mesh is read from the documents that give its parts. -/
theorem ofDocument_eq_ok_iff {doc : Document} {mesh : Mesh} :
    ofDocument doc = .ok mesh ↔ Parts.ofDocument doc = .ok mesh.parts := by
  rw [ofDocument_eq_bind]
  cases found : Parts.ofDocument doc with
  | error error => simp [bind, Except.bind]
  | ok parts =>
    change parts.mesh.mapError DecodeError.refused = .ok mesh ↔ Except.ok parts = .ok mesh.parts
    rw [Except.ok.injEq, ← Parts.mesh_eq_ok_iff, refused_eq_ok_iff]

/-- Parts are a mesh, or refused for a named reason, and so is a document, unless the check comes
to an array without components. -/
theorem reading_unanswered_iff (parts : Parts) (doc : Document) :
    (parts.mesh = .error .undefined ↔ parts.Unanswered) ∧
      (ofDocument doc = .error (.refused .undefined) ↔
        ∃ parts, Parts.ofDocument doc = .ok parts ∧ parts.Unanswered) := by
  have made : ∀ parts : Parts, parts.mesh = .error .undefined ↔ parts.Unanswered :=
    fun _ => ofParts_eq_undefined_iff
  refine ⟨made parts, ?_⟩
  rw [ofDocument_eq_bind]
  cases found : Parts.ofDocument doc with
  | error error =>
    have answered := Parts.answered_ofDocument doc
    rw [found] at answered
    simpa [Answered, bind, Except.bind] using answered
  | ok read =>
    change read.mesh.mapError DecodeError.refused = _ ↔ _
    simp only [Except.ok.injEq, exists_eq_left', ← made, refused_eq_undefined_iff]

/-- An array of whole tuples has exactly the values that its tuples need. -/
theorem wellShaped_iff {array : Attribute} {count : Nat} (tuples : array.tupleCount? = some count) :
    array.WellShaped ↔ array.values.size = array.components * count := by
  obtain ⟨positive, rfl⟩ := Attribute.tupleCount?_eq_some_iff.1 tuples
  have split := Nat.div_add_mod array.values.size array.components
  constructor
  · intro shaped
    have whole := shaped.whole
    omega
  · intro exact_size
    exact ⟨positive, by omega⟩

/-- What is read has at least one component in every array and, with what is left over not counted,
a tuple for each point or cell. It could have been built exactly if nothing is left over and no name
is used twice in a table; and a builder makes it again exactly if no name is. -/
theorem built_iff_of_ofDocument {doc : Document} {mesh : Mesh} (read : ofDocument doc = .ok mesh) :
    Parts.ofDocument doc = .ok mesh.parts ∧
      (∀ array ∈ mesh.pointData.arrays, 0 < array.components ∧
        array.values.size / array.components = mesh.numPoints) ∧
      (∀ array ∈ mesh.cellData.arrays, 0 < array.components ∧
        array.values.size / array.components = mesh.numCells) ∧
      (mesh.Built ↔
        ((∀ array ∈ mesh.pointData.arrays,
            array.values.size = array.components * mesh.numPoints) ∧ mesh.pointData.Distinct) ∧
          (∀ array ∈ mesh.cellData.arrays,
            array.values.size = array.components * mesh.numCells) ∧ mesh.cellData.Distinct) ∧
      (mesh.rebuilt = .ok mesh ↔ mesh.pointData.Distinct ∧ mesh.cellData.Distinct) := by
  have point_tuples : ∀ array ∈ mesh.pointData.arrays, array.tupleCount? = some mesh.numPoints :=
    mesh.valid.pointTuples
  have cell_tuples := mesh.tupleCount?_cellData
  refine ⟨ofDocument_eq_ok_iff.1 read,
    fun array member => Attribute.tupleCount?_eq_some_iff.1 (point_tuples array member),
    fun array member => Attribute.tupleCount?_eq_some_iff.1 (cell_tuples array member), ?_,
    rebuilt_eq_ok_iff⟩
  rw [built_iff, forall₂_congr fun array member => wellShaped_iff (point_tuples array member),
    forall₂_congr fun array member => wellShaped_iff (cell_tuples array member)]

end Mesh

namespace Document

/-- An array of floats as it is stored. -/
def reals (name : String) (components : Nat) (values : List Float) : Document :=
  .record [("name", .text name), ("num_components", .ofNat components),
    ("data", .record [("Float64", .list (values.map .real))])]

/-- A single point with the given arrays, and no cells. -/
def onePoint (arrays : List Document) : Document :=
  .record [("points", .list [.list [.real 0.0, .real 0.0, .real 0.0]]), ("types", .list []),
    ("cells", .record [("offsets", .list [.integer 0]), ("connectivity", .list [])]),
    ("point_data", .record [("arrays", .list arrays)]),
    ("cell_data", .record [("arrays", .list [])])]

end Document

/-- Two arrays under different names, both of whole tuples. -/
theorem onePoint_built :
    ∃ mesh, Mesh.ofDocument (.onePoint [.reals "a" 1 [0.0], .reals "b" 2 [0.0, 1.0]]) = .ok mesh ∧
      mesh.Built ∧ mesh.rebuilt = .ok mesh := by
  refine ⟨_, rfl, ?_⟩
  obtain ⟨_, _, _, built, rebuilt⟩ := @Mesh.built_iff_of_ofDocument
    (.onePoint [.reals "a" 1 [0.0], .reals "b" 2 [0.0, 1.0]]) _ rfl
  exact ⟨built.2 (by decide), rebuilt.2 (by decide)⟩

/-- Two documents that are read although no builder makes what they say: in the first two arrays
have one name, in the second a value is left over. -/
theorem faultyArrays_read :
    (∃ mesh, Mesh.ofDocument (.onePoint [.reals "a" 1 [0.0], .reals "a" 1 [1.0]]) = .ok mesh ∧
        ¬ mesh.pointData.Distinct ∧
        mesh.rebuilt = .error (.invalid (.duplicateAttribute "a"))) ∧
      ∃ mesh, Mesh.ofDocument (.onePoint [.reals "a" 2 [0.0, 1.0, 2.0]]) = .ok mesh ∧
        ∃ array ∈ mesh.pointData.arrays,
          array.values.size ≠ array.components * mesh.numPoints ∧
          Attribute.ofValues array.name array.components array.values =
            .error (.attributeShape "a" 2 3) := by
  refine ⟨⟨_, rfl, by decide, by decide⟩, _, rfl, by decide⟩

/-- An array without components leaves both questions open. -/
theorem noComponents_unanswered :
    Mesh.ofDocument (.onePoint [.reals "a" 0 []]) = .error (.refused .undefined) ∧
      Mesh.ofParts #[⟨0.0, 0.0, 0.0⟩] #[] .empty ⟨[⟨"a", 0, .reals #[]⟩]⟩ .empty =
        .error .undefined := by
  constructor <;> rfl

end MeshSkin
