import MeshSkin.Document.Mesh
import MeshSkin.Options

/-!
# Options as documents

Every option may be left out of a document and then has its standard value. The three
clipping modes may also be given as nothing.
-/

namespace MeshSkin

namespace IdRange

def toDocument (range : IdRange) : Document :=
  .record [("min", .ofNat range.min), ("max", .ofNat range.max)]

def ofDocument (doc : Document) : Except DecodeError IdRange := do
  let fields ← doc.fields ["min", "max"]
  return ⟨← fields.need "min" Document.toNat, ← fields.need "max" Document.toNat⟩

end IdRange

namespace Box

def toDocument (box : Box) : Document :=
  .record [("min", box.min.toDocument), ("max", box.max.toDocument)]

def ofDocument (doc : Document) : Except DecodeError Box := do
  let fields ← doc.fields ["min", "max"]
  return ⟨← fields.need "min" Point.ofDocument, ← fields.need "max" Point.ofDocument⟩

end Box

namespace Options

def toDocument (options : Options) : Document :=
  .record [("cell_id_range", .ofOption IdRange.toDocument options.cellIds),
    ("point_id_range", .ofOption IdRange.toDocument options.pointIds),
    ("bounding_box", .ofOption Box.toDocument options.box),
    ("show_interior_faces", .bool options.interiorFaces),
    ("ghost_update_level", .ofNat options.ghostLevel.toNat),
    ("parallel_threshold", .ofNat options.parallelThreshold)]

def ofDocument (doc : Document) : Except DecodeError Options := do
  let fields ← doc.fields ["cell_id_range", "point_id_range", "bounding_box",
    "show_interior_faces", "ghost_update_level", "parallel_threshold"]
  return {
    cellIds := ← fields.orStandard "cell_id_range" (Document.toOption IdRange.ofDocument)
      standard.cellIds
    pointIds := ← fields.orStandard "point_id_range" (Document.toOption IdRange.ofDocument)
      standard.pointIds
    box := ← fields.orStandard "bounding_box" (Document.toOption Box.ofDocument) standard.box
    interiorFaces := ← fields.orStandard "show_interior_faces" Document.toBool
      standard.interiorFaces
    ghostLevel := ← fields.orStandard "ghost_update_level" Document.toByte standard.ghostLevel
    parallelThreshold := ← fields.orStandard "parallel_threshold" Document.toNat
      standard.parallelThreshold }

end Options
end MeshSkin
