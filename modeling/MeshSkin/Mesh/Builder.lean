import MeshSkin.Mesh

/-!
# Building a mesh step by step

A builder takes points, cells and attributes one at a time. An attribute under a name
already in use is not attached; the first such refusal is kept and reported when the
mesh is built, before anything else is checked.
-/

namespace MeshSkin

structure Builder where
  points : Array Point
  kinds : Array CellKind
  cells : Connectivity
  pointData : AttributeTable
  cellData : AttributeTable
  /-- The first refusal so far. -/
  pending : Option MeshError
  deriving DecidableEq, Repr

namespace Builder

def empty : Builder := ⟨#[], #[], .empty, .empty, .empty, none⟩

/-- Appends a point and tells its id. -/
def addPoint (builder : Builder) (point : Point) : Nat × Builder :=
  (builder.points.size, { builder with points := builder.points.push point })

/-- Appends a cell and tells its id. -/
def addCell (builder : Builder) (kind : CellKind) (ids : List Nat) : Nat × Builder :=
  let (id, cells) := builder.cells.add ids
  (id, { builder with kinds := builder.kinds.push kind, cells })

/-- Keeps a refusal unless there is an earlier one. -/
def refuse (builder : Builder) (error : MeshError) : Builder :=
  { builder with pending := builder.pending <|> some error }

def addPointArray (builder : Builder) (array : Attribute) : Builder :=
  match builder.pointData.add array with
  | .ok pointData => { builder with pointData }
  | .error error => builder.refuse error

def addCellArray (builder : Builder) (array : Attribute) : Builder :=
  match builder.cellData.add array with
  | .ok cellData => { builder with cellData }
  | .error error => builder.refuse error

/-- The mesh built so far. -/
def build (builder : Builder) : Except Fault Mesh :=
  match builder.pending with
  | some error => .error (.invalid error)
  | none =>
    Mesh.ofParts builder.points builder.kinds builder.cells builder.pointData builder.cellData

end Builder
end MeshSkin
