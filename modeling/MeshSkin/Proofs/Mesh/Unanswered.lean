import MeshSkin.Mesh

/-!
# Parts without an answer

Whether parts make a mesh is a question with an answer, unless the check comes to an array
without components, which has no number of tuples. It comes there if points and cells pass and
all arrays before have the number of tuples that is asked for (`Mesh.ofParts_eq_undefined_iff`).
-/

namespace MeshSkin

namespace AttributeTable

/-- An array without components, and before it only arrays of the expected number of tuples. -/
def Unanswered (table : AttributeTable) (expected : Nat) : Prop :=
  ∃ before array rest, table.arrays = before ++ array :: rest ∧ array.components = 0 ∧
    ∀ other ∈ before, other.tupleCount? = some expected

theorem checkTuples_eq_undefined_iff {expected : Nat} {array : Attribute} :
    checkTuples expected array = .error .undefined ↔ array.components = 0 := by
  unfold checkTuples Attribute.tupleCount?
  by_cases none : array.components = 0
  · simp [none]
  · simp only [none, if_false, iff_false]
    split <;> simp

/-- The first array without components is reached if all before it pass. -/
theorem unanswered_cons_iff {array : Attribute} {arrays : List Attribute} {expected : Nat} :
    Unanswered ⟨array :: arrays⟩ expected ↔
      array.components = 0 ∨
        array.tupleCount? = some expected ∧ Unanswered ⟨arrays⟩ expected := by
  unfold Unanswered
  constructor
  · intro given
    obtain ⟨before, stop, rest, split, none, passed⟩ := given
    cases before with
    | nil =>
      obtain ⟨rfl, rfl⟩ := List.cons.inj split
      exact Or.inl none
    | cons head before =>
      obtain ⟨rfl, rfl⟩ := List.cons.inj split
      exact Or.inr ⟨passed _ (by simp), before, stop, rest, rfl, none, fun other member =>
        passed other (List.mem_cons_of_mem _ member)⟩
  · intro given
    rcases given with none | ⟨passes, before, stop, rest, split, none, passed⟩
    · exact ⟨[], array, arrays, rfl, none, by simp⟩
    · simp only at split
      exact ⟨array :: before, stop, rest, by rw [split]; rfl, none,
        List.forall_mem_cons.2 ⟨passes, passed⟩⟩

theorem validate_eq_undefined_iff {table : AttributeTable} {expected : Nat} :
    table.validate expected = .error .undefined ↔ table.Unanswered expected := by
  obtain ⟨arrays⟩ := table
  induction arrays with
  | nil => simp [validate, Unanswered, pure, Except.pure]
  | cons array rest ih =>
    change (checkTuples expected array >>= fun _ => validate ⟨rest⟩ expected) = _ ↔ _
    rw [Fault.seq_eq_error_iff, checkTuples_eq_undefined_iff, checkTuples_eq_ok_iff, ih,
      unanswered_cons_iff]

end AttributeTable

namespace Mesh

/-- Points and cells pass, and the check comes to an array without components. -/
def Unanswered (points : Array Point) (kinds : Array CellKind) (cells : Connectivity)
    (pointData cellData : AttributeTable) : Prop :=
  checkGeometry points kinds cells = .ok () ∧
    (pointData.Unanswered points.size ∨
      (∀ array ∈ pointData.arrays, array.tupleCount? = some points.size) ∧
        cellData.Unanswered cells.size)

variable {points : Array Point} {kinds : Array CellKind} {cells : Connectivity}
  {pointData cellData : AttributeTable}

theorem check_eq_undefined_iff :
    check points kinds cells pointData cellData = .error .undefined ↔
      Unanswered points kinds cells pointData cellData := by
  have named : (checkGeometry points kinds cells).mapError Fault.invalid ≠ .error .undefined := by
    simp [Fault.mapError_eq_error_iff]
  rw [check, Fault.seq_eq_error_iff, Fault.seq_eq_error_iff, Fault.mapError_eq_ok_iff,
    AttributeTable.validate_eq_undefined_iff, AttributeTable.validate_eq_ok_iff,
    AttributeTable.validate_eq_undefined_iff, Unanswered]
  simp only [named, false_or]

/-- Parts are a mesh, or are refused for a named reason, or the check stops without an answer:
exactly when it comes to an array without components. -/
theorem ofParts_eq_undefined_iff :
    ofParts points kinds cells pointData cellData = .error .undefined ↔
      Unanswered points kinds cells pointData cellData := by
  rw [← check_eq_undefined_iff]
  unfold ofParts
  split
  · rename_i accepted
    simp [accepted]
  · rename_i fault refused
    simp [refused]

end Mesh
end MeshSkin
