import MeshSkin.Document
import MeshSkin.Mesh

/-!
# Meshes as documents

How kinds, connectivity, attributes and meshes are stored, and how they are read back.
Connectivity and meshes are checked again on reading. Attributes are not: an array may
come back with a ragged number of values, no components, or a name used twice.
-/

namespace MeshSkin

namespace CellKind

/-- A named kind is its name; an unknown kind is a record that holds its code. -/
def toDocument : CellKind → Document
  | .unknown code => .record [("Unknown", .ofNat code.toNat)]
  | kind => .text kind.baseName

/-- A name, also as the only field of a record with nothing in it, or an unknown code. -/
def ofDocument : Document → Except DecodeError CellKind
  | .text name => named? name
  | .record [(name, content)] =>
    if name = "Unknown" then content.toByte.map .unknown
    else match content with
      | .null => named? name
      | _ => .error .malformed
  | _ => .error .malformed
where
  named? (name : String) : Except DecodeError CellKind :=
    match ofName? name with
    | some kind => .ok kind
    | none => .error .malformed

end CellKind

namespace Point

def toDocument (point : Point) : Document :=
  .list [.ofReal point.x, .ofReal point.y, .ofReal point.z]

def ofDocument : Document → Except DecodeError Point
  | .list [x, y, z] => do return ⟨← x.toReal, ← y.toReal, ← z.toReal⟩
  | _ => .error .malformed

end Point

namespace Connectivity

def toDocument (cells : Connectivity) : Document :=
  .record [("offsets", .ofList .ofNat cells.offsets.toList),
    ("connectivity", .ofList .ofNat cells.ids.toList)]

def ofDocument (doc : Document) : Except DecodeError Connectivity := do
  let fields ← doc.fields ["offsets", "connectivity"]
  let offsets ← fields.need "offsets" (Document.toList Document.toNat)
  let ids ← fields.need "connectivity" (Document.toList Document.toNat)
  (ofOffsets offsets.toArray ids.toArray).mapError fun fault =>
    .refused (.invalid (.malformedOffsets fault))

end Connectivity

namespace Values

def toDocument : Values → Document
  | .bytes values => .record [("UInt8", .ofList (fun value => .ofNat value.toNat) values.toList)]
  | .integers values =>
    .record [("Int64", .ofList (fun value => .integer value.toInt) values.toList)]
  | .reals values => .record [("Float64", .ofList .ofReal values.toList)]

def ofDocument : Document → Except DecodeError Values
  | .record [("UInt8", doc)] =>
    (doc.toList Document.toByte).map fun values => .bytes values.toArray
  | .record [("Int64", doc)] =>
    (doc.toList Document.toInt64).map fun values => .integers values.toArray
  | .record [("Float64", doc)] =>
    (doc.toList Document.toReal).map fun values => .reals values.toArray
  | _ => .error .malformed

end Values

namespace Attribute

def toDocument (array : Attribute) : Document :=
  .record [("name", .text array.name), ("num_components", .ofNat array.components),
    ("data", array.values.toDocument)]

def ofDocument (doc : Document) : Except DecodeError Attribute := do
  let fields ← doc.fields ["name", "num_components", "data"]
  return ⟨← fields.need "name" Document.toText, ← fields.need "num_components" Document.toNat,
    ← fields.need "data" Values.ofDocument⟩

end Attribute

namespace AttributeTable

def toDocument (table : AttributeTable) : Document :=
  .record [("arrays", .ofList Attribute.toDocument table.arrays)]

def ofDocument (doc : Document) : Except DecodeError AttributeTable := do
  let fields ← doc.fields ["arrays"]
  return ⟨← fields.need "arrays" (Document.toList Attribute.ofDocument)⟩

end AttributeTable

namespace Mesh

def toDocument (mesh : Mesh) : Document :=
  .record [("points", .ofList Point.toDocument mesh.points.toList),
    ("types", .ofList CellKind.toDocument mesh.kinds.toList),
    ("cells", mesh.cells.toDocument),
    ("point_data", mesh.pointData.toDocument),
    ("cell_data", mesh.cellData.toDocument)]

def ofDocument (doc : Document) : Except DecodeError Mesh := do
  let fields ← doc.fields ["points", "types", "cells", "point_data", "cell_data"]
  let points ← fields.need "points" (Document.toList Point.ofDocument)
  let kinds ← fields.need "types" (Document.toList CellKind.ofDocument)
  let cells ← fields.need "cells" Connectivity.ofDocument
  let pointData ← fields.need "point_data" AttributeTable.ofDocument
  let cellData ← fields.need "cell_data" AttributeTable.ofDocument
  (ofParts points.toArray kinds.toArray cells pointData cellData).mapError .refused

end Mesh
end MeshSkin
