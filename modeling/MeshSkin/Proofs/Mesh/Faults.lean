import MeshSkin.Proofs.Mesh.Unanswered

/-!
# The faults that are named

Each check goes through a list and stops at the first item that does not pass: the points, the cells,
the points of a cell, the arrays of a table. Here it is said for each of them which fault is named
then, and that the check names exactly this one.
-/

namespace MeshSkin

/-- A cell of this kind has so many points, or at least so many where their number varies. -/
def CellKind.Takes : CellKind → Nat → Prop
  | .empty, count => count = 0
  | .vertex, count => count = 1
  | .polyVertex, count => 1 ≤ count
  | .line, count => count = 2
  | .polyLine, count => 2 ≤ count
  | .triangle, count => count = 3
  | .triangleStrip, count | .polygon, count => 3 ≤ count
  | .pixel, count | .quad, count | .tetra, count => count = 4
  | .voxel, count | .hexahedron, count => count = 8
  | .wedge, count => count = 6
  | .pyramid, count => count = 5
  | .quadraticEdge, count => count = 3
  | .quadraticTriangle, count => count = 6
  | .quadraticQuad, count => count = 8
  | .quadraticTetra, count => count = 10
  | .quadraticHexahedron, count => count = 20
  | .unknown _, _ => True

theorem CellKind.admits_iff_takes {kind : CellKind} {count : Nat} :
    kind.Admits count ↔ kind.Takes count := by
  cases kind <;> simp [Admits, Takes, pointCount?, minPointCount]

/-- The first item of a list that does not pass: it stops, and all items before it pass. -/
def FirstAt {α : Type} (items : List α) (passes : α → Prop) (stops : Nat → α → Prop) : Prop :=
  ∃ place item, items[place]? = some item ∧ stops place item ∧
    ∀ early < place, ∀ other, items[early]? = some other → passes other

section FirstAt

variable {α : Type} {passes : α → Prop} {stops : Nat → α → Prop}

theorem not_firstAt_nil : ¬ FirstAt [] passes stops := by
  rintro ⟨place, item, here, _⟩
  simp at here

/-- The first item stops, or it passes and one behind it is the first to stop. -/
theorem firstAt_cons_iff {head : α} {tail : List α} :
    FirstAt (head :: tail) passes stops ↔
      stops 0 head ∨ passes head ∧ FirstAt tail passes fun place => stops (place + 1) := by
  constructor
  · rintro ⟨place, item, here, stop, earlier⟩
    cases place with
    | zero =>
      obtain rfl : head = item := by simpa using here
      exact Or.inl stop
    | succ place =>
      refine Or.inr ⟨earlier 0 (Nat.succ_pos _) head rfl, place, item, by simpa using here, stop, ?_⟩
      intro early before other there
      exact earlier (early + 1) (Nat.succ_lt_succ before) other (by simpa using there)
  · rintro (stop | ⟨passed, place, item, here, stop, earlier⟩)
    · exact ⟨0, head, rfl, stop, fun early before => absurd before (Nat.not_lt_zero early)⟩
    · refine ⟨place + 1, item, by simpa using here, stop, ?_⟩
      intro early before other there
      cases early with
      | zero =>
        obtain rfl : head = other := by simpa using there
        exact passed
      | succ early =>
        exact earlier early (Nat.lt_of_succ_lt_succ before) other (by simpa using there)

end FirstAt

namespace AttributeTable

/-- Every array has so many tuples. -/
def Filled (table : AttributeTable) (count : Nat) : Prop :=
  ∀ array ∈ table.arrays, array.tupleCount? = some count

/-- The first array of a table with another number of tuples is named. -/
def Mismatch (table : AttributeTable) (expected : Nat) (error : MeshError) : Prop :=
  FirstAt table.arrays (fun array => array.tupleCount? = some expected) fun _ array =>
    ∃ actual, array.tupleCount? = some actual ∧ actual ≠ expected ∧
      error = .attributeLength array.name expected actual

theorem checkTuples_eq_invalid_iff {expected : Nat} {array : Attribute} {error : MeshError} :
    checkTuples expected array = .error (.invalid error) ↔
      ∃ actual, array.tupleCount? = some actual ∧ actual ≠ expected ∧
        error = .attributeLength array.name expected actual := by
  unfold checkTuples
  cases array.tupleCount? with
  | none => simp
  | some actual =>
    by_cases same : actual = expected
    · simp [same]
    · simp only [if_neg same, Except.error.injEq, Fault.invalid.injEq, Option.some.injEq]
      constructor
      · rintro rfl
        exact ⟨actual, rfl, same, rfl⟩
      · rintro ⟨_, rfl, _, rfl⟩
        rfl

theorem validate_eq_invalid_iff {table : AttributeTable} {expected : Nat} {error : MeshError} :
    table.validate expected = .error (.invalid error) ↔ table.Mismatch expected error := by
  obtain ⟨arrays⟩ := table
  unfold Mismatch
  induction arrays with
  | nil => simp [validate, pure, Except.pure, not_firstAt_nil]
  | cons array rest ih =>
    change (checkTuples expected array >>= fun _ => validate ⟨rest⟩ expected) = _ ↔ _
    rw [Fault.seq_eq_error_iff, checkTuples_eq_invalid_iff, checkTuples_eq_ok_iff, ih,
      firstAt_cons_iff]

end AttributeTable

namespace Mesh

/-- A cell whose kind takes its number of points, all of which exist. -/
def SoundCell (numPoints : Nat) (kind : CellKind) (ids : List Nat) : Prop :=
  kind.Takes ids.length ∧ ∀ id ∈ ids, id < numPoints

/-- What is wrong with a cell by itself: its number of points, or else the first of its points that
does not exist. -/
inductive CellFault (numPoints cell : Nat) (kind : CellKind) (ids : List Nat) : MeshError → Prop where
  | count (expected : Nat) (fixed : kind.pointCount? = some expected)
      (differs : ids.length ≠ expected) :
      CellFault numPoints cell kind ids (.pointCountMismatch cell kind expected ids.length)
  | few (varies : kind.pointCount? = none) (few : ids.length < kind.minPointCount) :
      CellFault numPoints cell kind ids (.tooFewPoints cell kind kind.minPointCount ids.length)
  | dangling (takes : kind.Takes ids.length) (point : Nat)
      (first : FirstAt ids (· < numPoints) fun _ id => numPoints ≤ id ∧ id = point) :
      CellFault numPoints cell kind ids (.danglingPoint cell point numPoints)

/-- The first point that is not finite is named. -/
def NonFinite (points : Array Point) (error : MeshError) : Prop :=
  FirstAt points.toList (fun point => point.isFinite = true) fun id point =>
    point.isFinite = false ∧ error = .nonFiniteCoordinate id

/-- The first cell with a fault of its own is named; the first of the list has id `start`. -/
def CellsFault (numPoints start : Nat) (cells : List (CellKind × List Nat)) (error : MeshError) :
    Prop :=
  FirstAt cells (fun cell => SoundCell numPoints cell.1 cell.2) fun place cell =>
    CellFault numPoints (start + place) cell.1 cell.2 error

section Cells

variable {numPoints cell : Nat} {kind : CellKind} {ids : List Nat} {error : MeshError}

theorem checkCount_eq_error_iff {actual : Nat} :
    checkCount cell kind actual = .error error ↔
      (∃ expected, kind.pointCount? = some expected ∧ actual ≠ expected ∧
        error = .pointCountMismatch cell kind expected actual) ∨
      kind.pointCount? = none ∧ actual < kind.minPointCount ∧
        error = .tooFewPoints cell kind kind.minPointCount actual := by
  unfold checkCount
  cases kind.pointCount? with
  | some expected =>
    by_cases same : actual = expected
    · simp [same]
    · simp [same, eq_comm (a := error)]
  | none =>
    by_cases enough : kind.minPointCount ≤ actual
    · simp [enough, Nat.not_lt.2 enough]
    · simp [enough, Nat.not_le.1 enough, eq_comm (a := error)]

theorem checkIds_eq_error_iff :
    checkIds numPoints cell ids = .error error ↔
      ∃ point, FirstAt ids (· < numPoints) (fun _ id => numPoints ≤ id ∧ id = point) ∧
        error = .danglingPoint cell point numPoints := by
  induction ids with
  | nil => simp [checkIds, not_firstAt_nil]
  | cons id rest ih =>
    simp only [firstAt_cons_iff]
    unfold checkIds at ih ⊢
    by_cases outside : numPoints ≤ id
    · simp [outside, Nat.not_lt.2 outside, eq_comm (a := error)]
    · simp [outside, Nat.not_le.1 outside, ih]

/-- One cell passes both checks, or it has a fault of its own. -/
theorem check_cell_eq_error_iff :
    (checkCount cell kind ids.length >>= fun _ => checkIds numPoints cell ids) = .error error ↔
      CellFault numPoints cell kind ids error := by
  rw [Fault.seq_eq_error_iff, checkCount_eq_error_iff, checkCount_eq_ok_iff,
    CellKind.admits_iff_takes, checkIds_eq_error_iff]
  constructor
  · rintro ((⟨expected, fixed, differs, rfl⟩ | ⟨varies, few, rfl⟩) | ⟨takes, point, first, rfl⟩)
    · exact .count expected fixed differs
    · exact .few varies few
    · exact .dangling takes point first
  · rintro (⟨expected, fixed, differs⟩ | ⟨varies, few⟩ | ⟨takes, point, first⟩)
    · exact Or.inl (Or.inl ⟨expected, fixed, differs, rfl⟩)
    · exact Or.inl (Or.inr ⟨varies, few, rfl⟩)
    · exact Or.inr ⟨takes, point, first, rfl⟩

theorem check_cell_eq_ok_iff :
    (checkCount cell kind ids.length >>= fun _ => checkIds numPoints cell ids) = .ok () ↔
      SoundCell numPoints kind ids := by
  rw [Fault.seq_eq_ok_iff, checkCount_eq_ok_iff, CellKind.admits_iff_takes, checkIds_eq_ok_iff,
    SoundCell]

theorem checkCells_eq_error_iff {cells : List (CellKind × List Nat)} (start : Nat) :
    checkCells numPoints start cells = .error error ↔ CellsFault numPoints start cells error := by
  unfold CellsFault
  induction cells generalizing start with
  | nil => simp [checkCells, not_firstAt_nil]
  | cons head rest ih =>
    obtain ⟨kind, ids⟩ := head
    -- Both checks of a cell are taken as one, since `FirstAt` knows of cells and not of checks.
    have step : checkCells numPoints start ((kind, ids) :: rest) =
        (checkCount start kind ids.length >>= fun _ => checkIds numPoints start ids) >>= fun _ =>
          checkCells numPoints (start + 1) rest := by
      rw [checkCells, bind_assoc]
    have places (place : Nat) : start + 1 + place = start + (place + 1) := by omega
    rw [step, Fault.seq_eq_error_iff, check_cell_eq_error_iff, check_cell_eq_ok_iff, ih,
      firstAt_cons_iff]
    simp only [places, Nat.add_zero]

end Cells

theorem checkPoints_eq_error_iff {points : Array Point} {error : MeshError} :
    checkPoints points = .error error ↔ NonFinite points error := by
  unfold checkPoints NonFinite
  cases found : points.toList.findIdx? fun point => !point.isFinite with
  | none =>
    simp only [reduceCtorEq, false_iff]
    rintro ⟨place, point, here, ⟨bad, _⟩, _⟩
    have finite := List.findIdx?_eq_none_iff.1 found point (List.mem_of_getElem? here)
    simp [bad] at finite
  | some id =>
    obtain ⟨bound, bad, earlier⟩ := List.findIdx?_eq_some_iff_getElem.1 found
    have finite : ∀ early < id, ∀ other, points.toList[early]? = some other →
        other.isFinite = true := by
      intro early before other there
      obtain ⟨inside, rfl⟩ := List.getElem?_eq_some_iff.1 there
      simpa using earlier early before
    simp only [Except.error.injEq]
    constructor
    · rintro rfl
      exact ⟨id, _, List.getElem?_eq_getElem bound, ⟨by simpa using bad, rfl⟩, finite⟩
    · rintro ⟨place, point, here, ⟨unbounded, rfl⟩, others⟩
      -- There is only one first place: each of two would come before the other.
      rcases Nat.lt_trichotomy place id with before | rfl | behind
      · simp [finite place before point here] at unbounded
      · rfl
      · have good : points.toList[id].isFinite = true :=
          others id behind _ (List.getElem?_eq_getElem bound)
        rw [good] at bad
        cases bad

end Mesh
end MeshSkin
