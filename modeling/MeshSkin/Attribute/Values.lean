import MeshSkin.Rounding
import MeshSkin.Slice

/-!
# Attribute values

The values of an attribute lie in one flat array of bytes, integers or floats, tuple
after tuple. Two operations make new arrays from old: gathering copies chosen tuples,
extending appends one interpolated tuple for each stencil.
-/

namespace MeshSkin

/-- Points with their weights in a weighted sum. -/
abbrev Stencil := List (Nat × Float)

/-- How a value of a storage type takes part in sums and how a sum is stored. -/
structure Storage (α : Type) where
  toFloat : α → Float
  ofFloat : Float → α

namespace Storage

/-- A sum is rounded and kept between 0 and 255. -/
def byte : Storage UInt8 where
  toFloat value := value.toFloat
  ofFloat sum := UInt8.ofNat (roundInto .awayFromZero 0 255 sum).toNat

/-- A sum is rounded and kept within 64 bits. -/
def integer : Storage Int64 where
  toFloat value := floatOfInt value.toInt
  ofFloat sum := Int64.ofInt
    (roundInto .awayFromZero Int64.minValue.toInt Int64.maxValue.toInt sum)

def real : Storage Float where
  toFloat value := value
  ofFloat sum := sum

end Storage

/-- Weighted values added from negative zero, in stencil order. -/
def weightedSum (value? : Nat → Option Float) (stencil : Stencil) : Option Float :=
  stencil.foldlM (fun sum (point, weight) => (value? point).map fun value => sum + weight * value)
    (-0.0)

section Tuples

variable {α : Type}

/-- The `row`-th tuple of `components` values. -/
def tuple? (components : Nat) (values : Array α) (row : Nat) : Option (List α) :=
  slice? values (row * components) ((row + 1) * components)

/-- The tuples named by `rows`, in that order. -/
def gatherTuples (components : Nat) (values : Array α) (rows : List Nat) : Option (Array α) :=
  (rows.mapM (tuple? components values)).map fun tuples => tuples.flatten.toArray

/-- Appends the weighted sum of component `k` of the stencil's tuples. -/
def pushComponent (storage : Storage α) (components : Nat) (stencil : Stencil)
    (values : Array α) (k : Nat) : Option (Array α) :=
  (weightedSum (fun point => values[point * components + k]?.map storage.toFloat) stencil).map
    fun sum => values.push (storage.ofFloat sum)

/-- Appends the weighted sums of `count` components from `k` on, as far as the first that
has none. -/
def pushComponents (storage : Storage α) (components : Nat) (stencil : Stencil) :
    Nat → Nat → Array α → Option (Array α)
  | _, 0, values => some values
  | k, count + 1, values =>
    match pushComponent storage components stencil values k with
    | none => none
    | some next => pushComponents storage components stencil (k + 1) count next

/-- Appends the weighted sum of the stencil's tuples, component by component. -/
def pushTuple (storage : Storage α) (components : Nat) (values : Array α)
    (stencil : Stencil) : Option (Array α) :=
  pushComponents storage components stencil 0 components values

/-- Appends one tuple for each stencil. -/
def pushTuples (storage : Storage α) (components : Nat) (values : Array α)
    (stencils : List Stencil) : Option (Array α) :=
  stencils.foldlM (pushTuple storage components) values

end Tuples

inductive Values where
  | bytes (values : Array UInt8)
  | integers (values : Array Int64)
  | reals (values : Array Float)
  deriving DecidableEq, Repr

namespace Values

def size : Values → Nat
  | .bytes values => values.size
  | .integers values => values.size
  | .reals values => values.size

def gather (components : Nat) (rows : List Nat) : Values → Option Values
  | .bytes values => (gatherTuples components values rows).map .bytes
  | .integers values => (gatherTuples components values rows).map .integers
  | .reals values => (gatherTuples components values rows).map .reals

def extend (components : Nat) (stencils : List Stencil) : Values → Option Values
  | .bytes values => (pushTuples .byte components values stencils).map .bytes
  | .integers values => (pushTuples .integer components values stencils).map .integers
  | .reals values => (pushTuples .real components values stencils).map .reals

/-- The `row`-th tuple, read as floats. -/
def floats? (components row : Nat) : Values → Option (List Float)
  | .bytes values => (tuple? components values row).map (·.map Storage.byte.toFloat)
  | .integers values => (tuple? components values row).map (·.map Storage.integer.toFloat)
  | .reals values => tuple? components values row

/-- Equality of storage and values; float zeros are equal, and what is not a number
equals nothing. -/
def sameValue : Values → Values → Bool
  | .bytes xs, .bytes ys => xs == ys
  | .integers xs, .integers ys => xs == ys
  | .reals xs, .reals ys => xs.size == ys.size && (xs.zip ys).all fun (x, y) => x.beq y
  | _, _ => false

end Values
end MeshSkin
