import MeshSkin.CellKind
import MeshSkin.Connectivity

/-!
# Why a mesh is refused

One constructor for each way in which points, cells and attributes can fail to form
a mesh, with the message that names the offender.
-/

namespace MeshSkin

inductive MeshError where
  | danglingPoint (cell point numPoints : Nat)
  | pointCountMismatch (cell : Nat) (kind : CellKind) (expected actual : Nat)
  | tooFewPoints (cell : Nat) (kind : CellKind) (least actual : Nat)
  | cellCountMismatch (kinds cells : Nat)
  | malformedOffsets (fault : OffsetsFault)
  | nonFiniteCoordinate (point : Nat)
  | attributeLength (name : String) (expected actual : Nat)
  | attributeShape (name : String) (components values : Nat)
  | duplicateAttribute (name : String)
  deriving DecidableEq, Repr

namespace MeshError

def message : MeshError → String
  | .danglingPoint cell point numPoints =>
    s!"cell {cell} references point {point}, but the grid has {numPoints} points"
  | .pointCountMismatch cell kind expected actual =>
    s!"cell {cell} of type {kind.name} expects {expected} points, got {actual}"
  | .tooFewPoints cell kind least actual =>
    s!"cell {cell} of type {kind.name} needs at least {least} points, got {actual}"
  | .cellCountMismatch kinds cells => s!"{kinds} cell types for {cells} cells"
  | .malformedOffsets fault => s!"malformed connectivity offsets: {fault.message}"
  | .nonFiniteCoordinate point => s!"point {point} has a non-finite coordinate"
  | .attributeLength name expected actual =>
    s!"attribute '{name}' has {actual} tuples, expected {expected}"
  | .attributeShape name components values =>
    s!"attribute '{name}' has {values} values for {components} components"
  | .duplicateAttribute name => s!"duplicate attribute name '{name}'"

end MeshError

/-- What stops a check: a fault it names, or a question without an answer, such as the
number of tuples of an array with no components. -/
inductive Fault where
  | invalid (error : MeshError)
  | undefined
  deriving DecidableEq, Repr

namespace Fault

/-- Two checks in a row pass when both pass. -/
theorem seq_eq_ok_iff {ε : Type} {first rest : Except ε Unit} :
    (first >>= fun _ => rest) = .ok () ↔ first = .ok () ∧ rest = .ok () := by
  cases first with
  | error fault => simp [bind, Except.bind]
  | ok _ => simp [bind, Except.bind]

/-- Two checks in a row stop at a fault of the first, or pass it and stop at one of the second. -/
theorem seq_eq_error_iff {ε : Type} {first rest : Except ε Unit} {fault : ε} :
    (first >>= fun _ => rest) = .error fault ↔
      first = .error fault ∨ first = .ok () ∧ rest = .error fault := by
  cases first with
  | error other => simp [bind, Except.bind]
  | ok _ => simp [bind, Except.bind]

theorem mapError_eq_ok_iff {ε ε' : Type} {first : Except ε Unit} {wrap : ε → ε'} :
    first.mapError wrap = .ok () ↔ first = .ok () := by
  cases first with
  | error fault =>
    change Except.error (wrap fault) = .ok () ↔ _
    simp only [reduceCtorEq]
  | ok _ => exact ⟨fun _ => rfl, fun _ => rfl⟩

theorem mapError_eq_error_iff {ε ε' : Type} {first : Except ε Unit} {wrap : ε → ε'} {fault : ε'} :
    first.mapError wrap = .error fault ↔ ∃ error, first = .error error ∧ wrap error = fault := by
  cases first with
  | error error =>
    change Except.error (wrap error) = .error fault ↔ _
    simp only [Except.error.injEq, exists_eq_left']
  | ok _ =>
    change Except.ok () = .error fault ↔ _
    simp only [reduceCtorEq, false_and, exists_false]

end Fault
end MeshSkin
