import MeshSkin.MeshError
import MeshSkin.Rounding

/-!
# Documents

The plain values in which meshes and options are stored and exchanged: nothing, truth
values, whole numbers, floats, texts, lists and records. This module holds the values
and the readers of the simple ones; a reader fails when the value has another shape.
-/

namespace MeshSkin

inductive Document where
  | null
  | bool (value : Bool)
  | integer (value : Int)
  | real (value : Float)
  | text (value : String)
  | list (items : List Document)
  | record (fields : List (String × Document))
  deriving Repr, Inhabited

/-- Why a document was not read: its shape is wrong, or what it says does not hold
together. -/
inductive DecodeError where
  | malformed
  | refused (fault : Fault)
  deriving DecidableEq, Repr

namespace Document

/-- A float as stored. What is not finite has no stored form and becomes nothing. -/
def ofReal (x : Float) : Document := if x.isFinite then .real x else .null

def ofNat (n : Nat) : Document := .integer n

def ofList {α : Type} (write : α → Document) (items : List α) : Document :=
  .list (items.map write)

def ofOption {α : Type} (write : α → Document) (value : Option α) : Document :=
  match value with
  | none => .null
  | some value => write value

/-- An id or a count: a whole number that is not negative. -/
def toNat : Document → Except DecodeError Nat
  | .integer (.ofNat n) => .ok n
  | _ => .error .malformed

/-- A whole number from `lo` up to but not including `hi`. -/
def toIntIn (lo hi : Int) : Document → Except DecodeError Int
  | .integer n => if lo ≤ n ∧ n < hi then .ok n else .error .malformed
  | _ => .error .malformed

def toByte (doc : Document) : Except DecodeError UInt8 :=
  (doc.toIntIn 0 256).map fun n => UInt8.ofNat n.toNat

def toInt64 (doc : Document) : Except DecodeError Int64 :=
  (doc.toIntIn Int64.minValue.toInt (Int64.maxValue.toInt + 1)).map Int64.ofInt

/-- A float; a whole number counts as the float nearest to it. -/
def toReal : Document → Except DecodeError Float
  | .real x => .ok x
  | .integer n => .ok (floatOfInt n)
  | _ => .error .malformed

def toBool : Document → Except DecodeError Bool
  | .bool value => .ok value
  | _ => .error .malformed

def toText : Document → Except DecodeError String
  | .text value => .ok value
  | _ => .error .malformed

def toList {α : Type} (read : Document → Except DecodeError α) :
    Document → Except DecodeError (List α)
  | .list items => items.mapM read
  | _ => .error .malformed

/-- Nothing, or a value. -/
def toOption {α : Type} (read : Document → Except DecodeError α) :
    Document → Except DecodeError (Option α)
  | .null => .ok none
  | doc => (read doc).map some

/-- The fields of a record by name. -/
structure Fields where
  find? : String → Option Document

namespace Fields

/-- Reads a field that has to be there. -/
def need {α : Type} (fields : Fields) (name : String)
    (read : Document → Except DecodeError α) : Except DecodeError α :=
  match fields.find? name with
  | some doc => read doc
  | none => .error .malformed

/-- Reads a field that has a standard value when it is not there. -/
def orStandard {α : Type} (fields : Fields) (name : String)
    (read : Document → Except DecodeError α) (standard : α) : Except DecodeError α :=
  match fields.find? name with
  | some doc => read doc
  | none => .ok standard

end Fields

/-- The fields of a record, or of a list that is not longer and gives them by position.
Fields with other names are ignored. -/
def fields (names : List String) : Document → Except DecodeError Fields
  | .record entries => .ok ⟨fun name => entries.lookup name⟩
  | .list items =>
    if items.length ≤ names.length then .ok ⟨fun name => (names.zip items).lookup name⟩
    else .error .malformed
  | _ => .error .malformed

end Document
end MeshSkin
