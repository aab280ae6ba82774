import MeshSkin.Incidence.Query
import MeshSkin.Proofs.Incidence.Tiling

/-!
# Answers to face queries

The answer to a query is what the incidence says of the face alone, whatever the queries before
have left in the buffer (`FaceQuery.fst_ask`). It is the increasing list of the cells other than the
owner that contain the whole face, and there is none exactly if a point is looked up that does not
exist: the first one, or one that is reached with a cell left (`FaceQuery.ask_after_exact`).
-/

namespace MeshSkin

namespace Incidence

variable {mesh : Mesh} {incidence : Incidence}

/-- The face has a point that does not exist, and the points before it leave a reason to look it up:
it is the first, or a cell other than the owner contains them all. -/
def Astray (mesh : Mesh) (owner : Nat) (face : List Nat) : Prop :=
  ∃ before point rest, face = before ++ point :: rest ∧ mesh.numPoints ≤ point ∧
    (before = [] ∨ ∃ cell ids, cell ≠ owner ∧ mesh.cell? cell = some ids ∧ ∀ id ∈ before, id ∈ ids)

/-- What the sharers of a face are. -/
structure SharersExact (incidence : Incidence) (mesh : Mesh) (owner : Nat) (face : List Nat) :
    Prop where
  of_empty : face = [] → incidence.sharers owner face = some []
  of_inside : (∀ id ∈ face, id < mesh.numPoints) → ∃ row, incidence.sharers owner face = some row
  row : face ≠ [] → ∀ row, incidence.sharers owner face = some row → row.Pairwise (· < ·) ∧
    ∀ cell, cell ∈ row ↔
      cell ≠ owner ∧ ∃ ids, mesh.cell? cell = some ids ∧ ∀ id ∈ face, id ∈ ids
  unordered : (∀ id ∈ face, id < mesh.numPoints) → ∀ other, (∀ id, id ∈ other ↔ id ∈ face) →
    incidence.sharers owner other = incidence.sharers owner face
  unanswered : incidence.sharers owner face = none ↔ Astray mesh owner face

theorem idsWhere_eq_nil_iff {property : Cell → Bool} :
    idsWhere mesh property = [] ↔ ∀ cell ∈ mesh.cellList, property cell = false := by
  simp [idsWhere, List.filter_eq_nil_iff]

/-- One step of narrowing: no cell is left, or the point is looked up. -/
theorem Exact.narrow_cons (exact : incidence.Exact mesh) (property : Cell → Bool) (point : Nat)
    (rest : List Nat) :
    incidence.narrow (idsWhere mesh property) (point :: rest) =
      if idsWhere mesh property = [] then some []
      else if point < mesh.numPoints then
        incidence.narrow (idsWhere mesh fun cell => property cell && cell.points.contains point) rest
      else none := by
  rw [← keepFound_idsWhere]
  cases candidates : idsWhere mesh property with
  | nil => rfl
  | cons head tail =>
    rw [if_neg (List.cons_ne_nil head tail), Incidence.narrow, exact.cellsAt?_eq]
    · split <;> rfl
    · exact List.cons_ne_nil head tail

/-- Narrowing comes to a point that does not exist while one of the candidates contains all points
before it. -/
theorem Exact.narrow_eq_none_iff (exact : incidence.Exact mesh) (points : List Nat)
    (property : Cell → Bool) :
    incidence.narrow (idsWhere mesh property) points = none ↔
      ∃ before point rest, points = before ++ point :: rest ∧ mesh.numPoints ≤ point ∧
        ∃ cell ∈ mesh.cellList, property cell = true ∧ ∀ id ∈ before, id ∈ cell.points := by
  induction points generalizing property with
  | nil =>
    cases idsWhere mesh property <;> simp [Incidence.narrow]
  | cons head tail ih =>
    rw [exact.narrow_cons]
    by_cases left : idsWhere mesh property = []
    · -- No candidate is left for the points that follow.
      rw [if_pos left]
      simp only [reduceCtorEq, false_iff]
      rintro ⟨before, point, rest, _, _, cell, listed, holds, _⟩
      rw [idsWhere_eq_nil_iff.1 left cell listed] at holds
      cases holds
    rw [if_neg left]
    by_cases inside : head < mesh.numPoints
    · rw [if_pos inside, ih]
      constructor
      · rintro ⟨before, point, rest, rfl, outside, cell, listed, holds, contains⟩
        obtain ⟨holds, first⟩ := Bool.and_eq_true_iff.1 holds
        exact ⟨head :: before, point, rest, rfl, outside, cell, listed, holds,
          List.forall_mem_cons.2 ⟨List.contains_iff_mem.1 first, contains⟩⟩
      · rintro ⟨before, point, rest, split, outside, cell, listed, holds, contains⟩
        rcases List.cons_eq_append_iff.1 split with ⟨rfl, same⟩ | ⟨before, rfl, rfl⟩
        · obtain ⟨rfl, _⟩ := List.cons.inj same
          omega
        · obtain ⟨first, contains⟩ := List.forall_mem_cons.1 contains
          exact ⟨before, point, rest, rfl, outside, cell, listed,
            Bool.and_eq_true_iff.2 ⟨holds, List.contains_iff_mem.2 first⟩, contains⟩
    · rw [if_neg inside]
      obtain ⟨cell, listed, holds⟩ : ∃ cell ∈ mesh.cellList, property cell = true := by
        simpa [idsWhere_eq_nil_iff] using left
      simp only [true_iff]
      exact ⟨[], head, tail, rfl, by omega, cell, listed, holds, by simp⟩

/-- If narrowing comes to an end, it leaves the candidates that contain all points. -/
theorem Exact.narrow_eq_some (exact : incidence.Exact mesh) {points : List Nat}
    {property : Cell → Bool} {row : List Nat}
    (answered : incidence.narrow (idsWhere mesh property) points = some row) :
    row = idsWhere mesh fun cell => property cell && points.all cell.points.contains := by
  induction points generalizing property with
  | nil =>
    simp only [List.all_nil, Bool.and_true]
    revert answered
    cases idsWhere mesh property <;> simp [Incidence.narrow, eq_comm]
  | cons head tail ih =>
    rw [exact.narrow_cons] at answered
    simp only [List.all_cons, ← Bool.and_assoc]
    by_cases left : idsWhere mesh property = []
    · rw [if_pos left, Option.some.injEq] at answered
      rw [← answered, eq_comm, idsWhere_eq_nil_iff]
      intro cell listed
      rw [idsWhere_eq_nil_iff.1 left cell listed]
      rfl
    · rw [if_neg left] at answered
      split at answered
      · exact ih answered
      · cases answered

/-- A query starts with the other cells at the first point. -/
theorem Exact.sharers_cons (exact : incidence.Exact mesh) (owner point : Nat) (rest : List Nat) :
    incidence.sharers owner (point :: rest) =
      if point < mesh.numPoints then
        incidence.narrow
          (idsWhere mesh fun cell => cell.id != owner && cell.points.contains point) rest
      else none := by
  have others : (idsWhere mesh fun cell => cell.points.contains point).filter (· != owner) =
      idsWhere mesh fun cell => cell.id != owner && cell.points.contains point := by
    unfold idsWhere
    rw [List.filter_map, List.filter_filter]
    rfl
  rw [Incidence.sharers, exact.cellsAt?_eq]
  split
  · rw [Option.bind_eq_bind, Option.bind_some, others]
  · rfl

/-- The cells other than the owner that contain all of some points. -/
theorem mem_others {owner cell : Nat} {points : List Nat} :
    (cell ∈ idsWhere mesh fun other => other.id != owner && points.all other.points.contains) ↔
      cell ≠ owner ∧ ∃ ids, mesh.cell? cell = some ids ∧ ∀ id ∈ points, id ∈ ids := by
  rw [mem_idsWhere, Mesh.cellAt_id, Bool.and_eq_true, bne_iff_ne, List.all_eq_true]
  simp only [List.contains_iff_mem]
  constructor
  · rintro ⟨bound, other, contains⟩
    exact ⟨other, _, Mesh.cell?_eq_some bound, contains⟩
  · rintro ⟨other, ids, found, contains⟩
    have bound := Mesh.lt_numCells_of_cell? found
    rw [Mesh.cell?_eq_some bound, Option.some.injEq] at found
    exact ⟨bound, other, found ▸ contains⟩

theorem Exact.sharers_eq_some (exact : incidence.Exact mesh) {owner : Nat} {face row : List Nat}
    (nonempty : face ≠ []) (answered : incidence.sharers owner face = some row) :
    row = idsWhere mesh fun cell => cell.id != owner && face.all cell.points.contains := by
  cases face with
  | nil => exact absurd rfl nonempty
  | cons point rest =>
    rw [exact.sharers_cons] at answered
    split at answered
    · simp only [exact.narrow_eq_some answered, List.all_cons, Bool.and_assoc]
    · cases answered

/-- A query has no answer exactly if its face leads astray. -/
theorem Exact.sharers_eq_none_iff (exact : incidence.Exact mesh) (owner : Nat) (face : List Nat) :
    incidence.sharers owner face = none ↔ Astray mesh owner face := by
  cases face with
  | nil => simp [Incidence.sharers, Astray]
  | cons head tail =>
    rw [exact.sharers_cons]
    by_cases inside : head < mesh.numPoints
    · rw [if_pos inside, exact.narrow_eq_none_iff]
      constructor
      · rintro ⟨before, point, rest, rfl, outside, cell, listed, holds, contains⟩
        obtain ⟨other, first⟩ := Bool.and_eq_true_iff.1 holds
        obtain ⟨bound, same⟩ := Mesh.mem_cellList.1 listed
        refine ⟨head :: before, point, rest, rfl, outside, Or.inr ⟨cell.id, cell.points,
          bne_iff_ne.1 other, ?_, List.forall_mem_cons.2 ⟨List.contains_iff_mem.1 first, contains⟩⟩⟩
        rw [Mesh.cell?_eq_some bound, ← same]
      · rintro ⟨before, point, rest, split, outside, reason⟩
        rcases List.cons_eq_append_iff.1 split with ⟨rfl, same⟩ | ⟨before, rfl, rfl⟩
        · obtain ⟨rfl, _⟩ := List.cons.inj same
          omega
        · obtain ⟨cell, ids, other, found, contains⟩ := reason.resolve_left (List.cons_ne_nil _ _)
          obtain ⟨first, contains⟩ := List.forall_mem_cons.1 contains
          have bound := Mesh.lt_numCells_of_cell? found
          rw [Mesh.cell?_eq_some bound, Option.some.injEq] at found
          subst found
          exact ⟨before, point, rest, rfl, outside, mesh.cellAt cell, Mesh.cellAt_mem bound,
            Bool.and_eq_true_iff.2 ⟨bne_iff_ne.2 other, List.contains_iff_mem.2 first⟩, contains⟩
    · rw [if_neg inside]
      simp only [true_iff]
      exact ⟨[], head, tail, rfl, by omega, Or.inl rfl⟩

/-- A face of points that exist is a query with an answer. -/
theorem not_astray_of_inside {owner : Nat} {face : List Nat}
    (inside : ∀ id ∈ face, id < mesh.numPoints) : ¬ Astray mesh owner face := by
  rintro ⟨before, point, rest, rfl, outside, _⟩
  have bound := inside point (by simp)
  omega

theorem Exact.sharersExact (exact : incidence.Exact mesh) (owner : Nat) (face : List Nat) :
    incidence.SharersExact mesh owner face where
  of_empty empty := by rw [empty]; rfl
  of_inside inside := by
    apply Option.ne_none_iff_exists'.1
    rw [ne_eq, exact.sharers_eq_none_iff]
    exact not_astray_of_inside inside
  row nonempty row answered := by
    rw [exact.sharers_eq_some nonempty answered]
    exact ⟨pairwise_idsWhere mesh _, fun _ => mem_others⟩
  unordered inside other same := by
    by_cases empty : face = []
    · obtain rfl : other = [] := List.eq_nil_iff_forall_not_mem.2 (by simpa [empty] using same)
      rw [empty]
    · have nonempty : other ≠ [] := by
        rintro rfl
        exact empty (List.eq_nil_iff_forall_not_mem.2 (by simpa using same))
      rw [exact.sharers owner empty inside,
        exact.sharers owner nonempty fun id member => inside id ((same id).1 member)]
      have contains : ∀ cell : Cell,
          other.all cell.points.contains = face.all cell.points.contains := by
        intro cell
        rw [Bool.eq_iff_iff, List.all_eq_true, List.all_eq_true]
        simp only [same]
      simp only [contains]
  unanswered := exact.sharers_eq_none_iff owner face

end Incidence

namespace FaceQuery

theorem incidence_narrow (query : FaceQuery) (points : List Nat) :
    (query.narrow points).2.incidence = query.incidence := by
  induction points generalizing query with
  | nil => rfl
  | cons point rest ih =>
    rw [narrow]
    split
    · rfl
    · split
      · rfl
      · exact ih _

/-- Narrowing the buffer in place gives what narrowing its content gives. -/
theorem fst_narrow (query : FaceQuery) (points : List Nat) :
    (query.narrow points).1 = query.incidence.narrow query.found points := by
  induction points generalizing query with
  | nil => cases found : query.found <;> simp [narrow, found, Incidence.narrow]
  | cons point rest ih =>
    rw [narrow]
    cases found : query.found with
    | nil => rfl
    | cons head tail =>
      rw [Incidence.narrow]
      · simp only [List.isEmpty_cons, Bool.false_eq_true, if_false]
        cases query.incidence.cellsAt? point with
        | none => rfl
        | some cells =>
          rw [Option.bind_eq_bind, Option.bind_some, ih, retain, found]
      · exact List.cons_ne_nil head tail

/-- What was left in the buffer plays no part in the answer. -/
theorem fst_ask (query : FaceQuery) (owner : Nat) (face : List Nat) :
    (query.ask owner face).1 = query.incidence.sharers owner face := by
  cases face with
  | nil => rfl
  | cons point rest =>
    rw [ask, Incidence.sharers]
    cases query.incidence.cellsAt? point with
    | none => rfl
    | some cells => exact fst_narrow _ rest

theorem incidence_ask (query : FaceQuery) (owner : Nat) (face : List Nat) :
    (query.ask owner face).2.incidence = query.incidence := by
  cases face with
  | nil => rfl
  | cons point rest =>
    rw [ask]
    cases query.incidence.cellsAt? point with
    | none => rfl
    | some cells => exact incidence_narrow _ rest

theorem incidence_after (query : FaceQuery) (asked : List (Nat × List Nat)) :
    (query.after asked).incidence = query.incidence := by
  induction asked generalizing query with
  | nil => rfl
  | cons first rest ih =>
    rw [after, List.foldl_cons]
    exact (ih _).trans (query.incidence_ask first.1 first.2)

/-- Whatever was asked before, the answer to a query is given by its owner and its face: the cells
other than the owner that contain the face, in increasing order. -/
theorem ask_after_exact (mesh : Mesh) :
    ∃ incidence, Incidence.ofMesh mesh = some incidence ∧
      ∀ asked owner face,
        (((ofIncidence incidence).after asked).ask owner face).1 = incidence.sharers owner face ∧
          incidence.SharersExact mesh owner face := by
  obtain ⟨incidence, made, exact⟩ := Incidence.ofMesh_exact mesh
  refine ⟨incidence, made, fun asked owner face => ⟨?_, exact.sharersExact owner face⟩⟩
  rw [fst_ask, incidence_after]
  rfl

end FaceQuery
end MeshSkin
