import MeshSkin.Incidence

/-!
# Queries with a buffer

One query after another is put to the same incidence, and all share a buffer. A query empties
the buffer, takes the cells at the first point of its face into it and narrows them in place at
every further point. What it leaves in the buffer is its answer; a point that the incidence does
not know leaves the query without one, and the buffer as it stands.
-/

namespace MeshSkin

structure FaceQuery where
  incidence : Incidence
  /-- The cells that the last query left. -/
  found : List Nat
  deriving DecidableEq, Repr

namespace FaceQuery

/-- Nothing asked yet. -/
def ofIncidence (incidence : Incidence) : FaceQuery := ⟨incidence, []⟩

def clear (query : FaceQuery) : FaceQuery := { query with found := [] }

/-- Takes cells behind those already in the buffer. -/
def take (query : FaceQuery) (cells : List Nat) : FaceQuery :=
  { query with found := query.found ++ cells }

/-- Leaves those in the buffer that stand in an increasing list. -/
def retain (query : FaceQuery) (cells : List Nat) : FaceQuery :=
  { query with found := Incidence.keepFound cells query.found }

/-- Narrows the buffer point by point, until it is empty. -/
def narrow (query : FaceQuery) : List Nat → Option (List Nat) × FaceQuery
  | [] => (some query.found, query)
  | point :: rest =>
    if query.found.isEmpty then (some query.found, query)
    else match query.incidence.cellsAt? point with
      | none => (none, query)
      | some cells => (query.retain cells).narrow rest

/-- Asks for the cells other than `owner` that contain every point of the face. -/
def ask (query : FaceQuery) (owner : Nat) (face : List Nat) : Option (List Nat) × FaceQuery :=
  match face with
  | [] => (some query.clear.found, query.clear)
  | point :: rest =>
    match query.incidence.cellsAt? point with
    | none => (none, query.clear)
    | some cells => (query.clear.take (cells.filter fun cell => cell != owner)).narrow rest

/-- The query after some owners and faces were asked for, answered or not. -/
def after (query : FaceQuery) (asked : List (Nat × List Nat)) : FaceQuery :=
  asked.foldl (fun query (owner, face) => (query.ask owner face).2) query

end FaceQuery
end MeshSkin
