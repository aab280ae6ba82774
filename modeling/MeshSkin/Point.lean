/-!
# Points

A point of space with float coordinates, and the few operations the synthesized
points need. Sums and products round after every single operation.
-/

namespace MeshSkin

structure Point where
  x : Float
  y : Float
  z : Float
  deriving DecidableEq, Repr, Inhabited

namespace Point

def origin : Point := ⟨0.0, 0.0, 0.0⟩

def add (p q : Point) : Point := ⟨p.x + q.x, p.y + q.y, p.z + q.z⟩

def scale (p : Point) (weight : Float) : Point := ⟨p.x * weight, p.y * weight, p.z * weight⟩

def isFinite (p : Point) : Bool := p.x.isFinite && p.y.isFinite && p.z.isFinite

def isNaN (p : Point) : Bool := p.x.isNaN || p.y.isNaN || p.z.isNaN

/-- No coordinate of `p` exceeds that of `q`; false when one is not a number. -/
def allLE (p q : Point) : Bool := p.x.le q.x && p.y.le q.y && p.z.le q.z

/-- Equality of values: the zeros are equal, and what is not a number equals nothing. -/
def sameValue (p q : Point) : Bool := p.x.beq q.x && p.y.beq q.y && p.z.beq q.z

end Point
end MeshSkin
