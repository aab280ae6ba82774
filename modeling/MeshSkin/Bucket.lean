/-!
# Output buckets

A surface holds its primitives in four buckets. Their order here is the order of
primitive ids in the surface.
-/

namespace MeshSkin

inductive Bucket where
  | verts
  | lines
  | polys
  | strips
  deriving DecidableEq, Repr

namespace Bucket

def all : List Bucket := [.verts, .lines, .polys, .strips]

def name : Bucket → String
  | .verts => "Verts"
  | .lines => "Lines"
  | .polys => "Polys"
  | .strips => "Strips"

end Bucket
end MeshSkin
