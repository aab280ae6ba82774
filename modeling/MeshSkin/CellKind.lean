/-!
# Cell kinds

The kinds of cells a mesh may hold, each with its numeric code, its name and the
number of points it takes. A code outside the table is kept as an unknown kind,
so that a mesh with newer kinds can still be read.
-/

namespace MeshSkin

inductive CellKind where
  | empty
  | vertex
  | polyVertex
  | line
  | polyLine
  | triangle
  | triangleStrip
  | polygon
  | pixel
  | quad
  | tetra
  | voxel
  | hexahedron
  | wedge
  | pyramid
  | quadraticEdge
  | quadraticTriangle
  | quadraticQuad
  | quadraticTetra
  | quadraticHexahedron
  | unknown (code : UInt8)
  deriving DecidableEq, Repr, Inhabited

namespace CellKind

/-- The kinds that have a name of their own. -/
def named : List CellKind :=
  [.empty, .vertex, .polyVertex, .line, .polyLine, .triangle, .triangleStrip, .polygon,
    .pixel, .quad, .tetra, .voxel, .hexahedron, .wedge, .pyramid, .quadraticEdge,
    .quadraticTriangle, .quadraticQuad, .quadraticTetra, .quadraticHexahedron]

def code : CellKind → UInt8
  | .empty => 0
  | .vertex => 1
  | .polyVertex => 2
  | .line => 3
  | .polyLine => 4
  | .triangle => 5
  | .triangleStrip => 6
  | .polygon => 7
  | .pixel => 8
  | .quad => 9
  | .tetra => 10
  | .voxel => 11
  | .hexahedron => 12
  | .wedge => 13
  | .pyramid => 14
  | .quadraticEdge => 21
  | .quadraticTriangle => 22
  | .quadraticQuad => 23
  | .quadraticTetra => 24
  | .quadraticHexahedron => 25
  | .unknown code => code

/-- The named kind with this code, otherwise the unknown kind that carries it. -/
def ofCode (c : UInt8) : CellKind :=
  (named.find? fun kind => kind.code == c).getD (.unknown c)

def baseName : CellKind → String
  | .empty => "Empty"
  | .vertex => "Vertex"
  | .polyVertex => "PolyVertex"
  | .line => "Line"
  | .polyLine => "PolyLine"
  | .triangle => "Triangle"
  | .triangleStrip => "TriangleStrip"
  | .polygon => "Polygon"
  | .pixel => "Pixel"
  | .quad => "Quad"
  | .tetra => "Tetra"
  | .voxel => "Voxel"
  | .hexahedron => "Hexahedron"
  | .wedge => "Wedge"
  | .pyramid => "Pyramid"
  | .quadraticEdge => "QuadraticEdge"
  | .quadraticTriangle => "QuadraticTriangle"
  | .quadraticQuad => "QuadraticQuad"
  | .quadraticTetra => "QuadraticTetra"
  | .quadraticHexahedron => "QuadraticHexahedron"
  | .unknown _ => "Unknown"

/-- The named kind with this name. -/
def ofName? (name : String) : Option CellKind := named.find? fun kind => kind.baseName == name

/-- The text of a kind in messages; an unknown kind shows its code. -/
def name : CellKind → String
  | .unknown code => s!"Unknown({code})"
  | kind => kind.baseName

/-- Curved kinds, which carry midside points. -/
def isQuadratic : CellKind → Bool
  | .quadraticEdge | .quadraticTriangle | .quadraticQuad | .quadraticTetra
  | .quadraticHexahedron => true
  | _ => false

/-- The number of points of a kind of fixed size. -/
def pointCount? : CellKind → Option Nat
  | .empty => some 0
  | .vertex => some 1
  | .line => some 2
  | .triangle => some 3
  | .pixel | .quad | .tetra => some 4
  | .pyramid => some 5
  | .wedge => some 6
  | .voxel | .hexahedron => some 8
  | .quadraticEdge => some 3
  | .quadraticTriangle => some 6
  | .quadraticQuad => some 8
  | .quadraticTetra => some 10
  | .quadraticHexahedron => some 20
  | .polyVertex | .polyLine | .polygon | .triangleStrip | .unknown _ => none

/-- The least number of points a cell of this kind may have. -/
def minPointCount : CellKind → Nat
  | .polyVertex => 1
  | .polyLine => 2
  | .polygon | .triangleStrip => 3
  | kind => kind.pointCount?.getD 0

theorem mem_named_or_unknown (kind : CellKind) : kind ∈ named ∨ ∃ code, kind = .unknown code := by
  cases kind <;> simp [named]

theorem ofCode_code_of_mem_named : ∀ kind ∈ named, ofCode kind.code = kind := by decide

theorem code_ofCode (c : UInt8) : (ofCode c).code = c := by
  simp only [ofCode]
  cases found : named.find? fun kind => kind.code == c with
  | none => rfl
  | some kind => simpa using List.find?_some found

theorem ofName?_baseName_of_mem_named :
    ∀ kind ∈ named, ofName? kind.baseName = some kind := by decide

theorem minPointCount_of_pointCount {kind : CellKind} {n : Nat} (h : kind.pointCount? = some n) :
    kind.minPointCount = n := by
  cases kind <;> simp_all [pointCount?, minPointCount]

end CellKind
end MeshSkin
