import MeshSkin.Attribute

/-!
# Attribute tables

The attributes of all points, or of all cells, in the order in which they were added.
The reserved array of ghost levels lives among those of the cells.
-/

namespace MeshSkin

structure AttributeTable where
  arrays : List Attribute
  deriving DecidableEq, Repr

namespace AttributeTable

/-- Name of the reserved array that gives each cell its ghost level. -/
def ghostLevelsName : String := "vtkGhostLevels"

def empty : AttributeTable := ⟨[]⟩

/-- The first array with this name. -/
def find? (table : AttributeTable) (name : String) : Option Attribute :=
  table.arrays.find? fun array => array.name == name

/-- Appends an array under a name not in use yet. -/
def add (table : AttributeTable) (array : Attribute) : Except MeshError AttributeTable :=
  if (table.find? array.name).isSome then .error (.duplicateAttribute array.name)
  else .ok ⟨table.arrays ++ [array]⟩

/-- Checks one array for `expected` tuples. -/
def checkTuples (expected : Nat) (array : Attribute) : Except Fault Unit :=
  match array.tupleCount? with
  | none => .error .undefined
  | some actual =>
    if actual = expected then .ok ()
    else .error (.invalid (.attributeLength array.name expected actual))

/-- Every array has `expected` tuples; otherwise the first one that has not. -/
def validate (table : AttributeTable) (expected : Nat) : Except Fault Unit :=
  table.arrays.forM (checkTuples expected)

theorem checkTuples_eq_ok_iff {expected : Nat} {array : Attribute} :
    checkTuples expected array = .ok () ↔ array.tupleCount? = some expected := by
  simp only [checkTuples]
  split
  · simp_all
  · split <;> simp_all

theorem validate_eq_ok_iff {table : AttributeTable} {expected : Nat} :
    table.validate expected = .ok () ↔
      ∀ array ∈ table.arrays, array.tupleCount? = some expected := by
  obtain ⟨arrays⟩ := table
  simp only [validate]
  induction arrays with
  | nil => simp [pure, Except.pure]
  | cons array rest ih =>
    change (checkTuples expected array >>= fun _ => rest.forM (checkTuples expected)) = .ok () ↔ _
    rw [Fault.seq_eq_ok_iff, checkTuples_eq_ok_iff, ih, List.forall_mem_cons]

/-- The ghost levels, if the reserved array holds bytes in single components. -/
def ghostLevels? (table : AttributeTable) : Option (Array UInt8) :=
  match table.find? ghostLevelsName with
  | some ⟨_, 1, .bytes levels⟩ => some levels
  | _ => none

/-- Usable ghost levels are those of the first array with the reserved name. -/
theorem ghostLevels?_eq_some_iff {table : AttributeTable} {levels : Array UInt8} :
    table.ghostLevels? = some levels ↔
      (table.arrays.find? fun array => array.name == "vtkGhostLevels") =
        some ⟨"vtkGhostLevels", 1, .bytes levels⟩ := by
  constructor
  · intro usable
    unfold ghostLevels? find? at usable
    split at usable
    · rename_i name values found
      have named : name = "vtkGhostLevels" := by simpa [ghostLevelsName] using List.find?_some found
      rw [Option.some.injEq] at usable
      subst named usable
      exact found
    · cases usable
  · intro found
    unfold ghostLevels? find? ghostLevelsName
    rw [found]
    rfl

def gather (table : AttributeTable) (rows : List Nat) : Option AttributeTable :=
  (table.arrays.mapM fun (array : Attribute) => array.gather rows).map AttributeTable.mk

def extend (table : AttributeTable) (stencils : List Stencil) : Option AttributeTable :=
  (table.arrays.mapM fun (array : Attribute) => array.extend stencils).map AttributeTable.mk

def sameValue (a b : AttributeTable) : Bool :=
  a.arrays.length == b.arrays.length &&
    (a.arrays.zip b.arrays).all fun (x, y) => x.sameValue y

end AttributeTable
end MeshSkin
