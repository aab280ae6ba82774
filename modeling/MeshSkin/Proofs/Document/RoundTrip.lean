import MeshSkin.Proofs.Document.Reading

/-!
# Stored and read back

What is stored is read back as it was: every connectivity, and every mesh whose attributes hold
no float that is not finite (`Mesh.reading_toDocument_iff`). Nothing else can be lost. The points of
a mesh are finite, a kind is stored by its name or as an unknown code, which stays unknown even
where the code has a name, and the checks on reading only ask for what a connectivity and a mesh
have in any case. So arrays come back as they are, with values left over or under one name too.
-/

namespace MeshSkin

namespace Document

variable {α β : Type}

theorem map_eq_ok_iff {result : Except DecodeError α} {f : α → β} {value : β} :
    result.map f = .ok value ↔ ∃ read, result = .ok read ∧ f read = value := by
  cases result <;> simp [Except.map]

theorem toByte_ofNat (value : UInt8) : (ofNat value.toNat).toByte = .ok value := by
  have inside : (0 : Int) ≤ value.toNat ∧ (value.toNat : Int) < 256 := by
    have bound := value.toNat_lt
    omega
  simp [toByte, ofNat, toIntIn, inside, Except.map]

theorem toInt64_integer (value : Int64) : (integer value.toInt).toInt64 = .ok value := by
  have inside : Int64.minValue.toInt ≤ value.toInt ∧ value.toInt < Int64.maxValue.toInt + 1 := by
    have low := value.minValue_le_toInt
    have high := value.toInt_le
    omega
  rw [toInt64, toIntIn, if_pos inside]
  simp [Except.map]

/-- A float is read back if it is finite; else nothing is stored in its place. -/
theorem toReal_ofReal_iff {x : Float} : (ofReal x).toReal = .ok x ↔ x.isFinite = true := by
  unfold ofReal
  cases x.isFinite <;> simp [toReal]

/-- A list is read back if each of its items is. -/
theorem toList_ofList_iff {write : α → Document} {read : Document → Except DecodeError α}
    {items : List α} :
    (ofList write items).toList read = .ok items ↔ ∀ item ∈ items, read (write item) = .ok item := by
  change (items.map write).mapM read = .ok items ↔ _
  induction items with
  | nil => simp [pure, Except.pure]
  | cons item rest ih =>
    rw [List.map_cons, List.mapM_cons, List.forall_mem_cons, ← ih]
    cases read (write item) with
    | error error => simp [bind, Except.bind]
    | ok first =>
      cases (rest.map write).mapM read with
      | error error => simp [bind, Except.bind]
      | ok later => simp [bind, Except.bind, pure, Except.pure]

end Document

open Document

theorem CellKind.ofDocument_toDocument (kind : CellKind) :
    CellKind.ofDocument kind.toDocument = .ok kind := by
  cases kind with
  | unknown code =>
    change (ofNat code.toNat).toByte.map CellKind.unknown = _
    rw [toByte_ofNat]
    rfl
  | _ => rfl

/-- The code of the hexahedron stays an unknown one. -/
example : CellKind.ofCode 12 = .hexahedron ∧
    CellKind.ofDocument (CellKind.unknown 12).toDocument = .ok (.unknown 12) := by
  decide

theorem Point.ofDocument_toDocument {point : Point} (finite : point.isFinite = true) :
    Point.ofDocument point.toDocument = .ok point := by
  simp only [Point.isFinite, Bool.and_eq_true] at finite
  obtain ⟨⟨x, y⟩, z⟩ := finite
  simp only [Point.ofDocument, Point.toDocument, toReal_ofReal_iff.2 x, toReal_ofReal_iff.2 y,
    toReal_ofReal_iff.2 z]
  rfl

/-- Every connectivity is read back, for it has what its check asks for. -/
theorem Connectivity.ofDocument_toDocument (cells : Connectivity) :
    Connectivity.ofDocument cells.toDocument = .ok cells := by
  have numbers : ∀ items : List Nat, (ofList ofNat items).toList toNat = .ok items :=
    fun items => toList_ofList_iff.2 fun _ _ => rfl
  have packed : ofOffsets cells.offsets cells.ids = .ok cells := ofOffsets_eq_ok_iff.2 ⟨rfl, rfl⟩
  change ((ofList ofNat cells.offsets.toList).toList toNat >>= fun offsets =>
    (ofList ofNat cells.ids.toList).toList toNat >>= fun ids =>
      (ofOffsets offsets.toArray ids.toArray).mapError fun fault =>
        DecodeError.refused (.invalid (.malformedOffsets fault))) = _
  rw [numbers, numbers]
  change (ofOffsets cells.offsets cells.ids).mapError _ = _
  rw [packed]
  rfl

/-- All floats among the values are finite. -/
def Values.Finite : Values → Prop
  | .reals values => ∀ x ∈ values, x.isFinite = true
  | _ => True

theorem Values.ofDocument_toDocument_iff {values : Values} :
    Values.ofDocument values.toDocument = .ok values ↔ values.Finite := by
  cases values with
  | bytes values =>
    have read : (ofList (fun value => ofNat value.toNat) values.toList).toList toByte =
      .ok values.toList := toList_ofList_iff.2 fun value _ => toByte_ofNat value
    change ((ofList (fun value : UInt8 => ofNat value.toNat) values.toList).toList toByte).map _ =
      _ ↔ True
    rw [read]
    simp [Except.map]
  | integers values =>
    have read : (ofList (fun value => integer value.toInt) values.toList).toList toInt64 =
      .ok values.toList := toList_ofList_iff.2 fun value _ => toInt64_integer value
    change ((ofList (fun value : Int64 => integer value.toInt) values.toList).toList toInt64).map _ =
      _ ↔ True
    rw [read]
    simp [Except.map]
  | reals values =>
    change ((ofList ofReal values.toList).toList toReal).map (fun read => Values.reals read.toArray) =
      _ ↔ ∀ x ∈ values, x.isFinite = true
    have same : ∀ read : List Float,
        Values.reals read.toArray = .reals values ↔ read = values.toList := fun read => by
      simp [← Array.toList_inj]
    simp only [map_eq_ok_iff, same, exists_eq_right, toList_ofList_iff, toReal_ofReal_iff,
      Array.mem_toList_iff]

theorem Attribute.ofDocument_toDocument_iff {array : Attribute} :
    Attribute.ofDocument array.toDocument = .ok array ↔ array.values.Finite := by
  rw [← Values.ofDocument_toDocument_iff]
  obtain ⟨name, components, values⟩ := array
  change (Values.ofDocument values.toDocument).map (Attribute.mk name components) = _ ↔ _
  simp [map_eq_ok_iff]

namespace AttributeTable

/-- All floats in the table are finite. -/
def Finite (table : AttributeTable) : Prop := ∀ array ∈ table.arrays, array.values.Finite

theorem ofDocument_toDocument_iff {table : AttributeTable} :
    ofDocument table.toDocument = .ok table ↔ table.Finite := by
  change ((ofList Attribute.toDocument table.arrays).toList Attribute.ofDocument).map mk = _ ↔ _
  obtain ⟨arrays⟩ := table
  simp [map_eq_ok_iff, toList_ofList_iff, Attribute.ofDocument_toDocument_iff, Finite]

end AttributeTable

namespace Mesh

/-- The parts of a stored mesh are read back but for floats that are not finite. -/
theorem partsOfDocument_toDocument_iff {mesh : Mesh} :
    Parts.ofDocument mesh.toDocument = .ok mesh.parts ↔
      mesh.pointData.Finite ∧ mesh.cellData.Finite := by
  have points : (ofList Point.toDocument mesh.points.toList).toList Point.ofDocument =
      .ok mesh.points.toList :=
    toList_ofList_iff.2 fun point member =>
      Point.ofDocument_toDocument (mesh.valid.finite point (by simpa using member))
  have kinds : (ofList CellKind.toDocument mesh.kinds.toList).toList CellKind.ofDocument =
      .ok mesh.kinds.toList :=
    toList_ofList_iff.2 fun kind _ => CellKind.ofDocument_toDocument kind
  change ((ofList Point.toDocument mesh.points.toList).toList Point.ofDocument >>= fun points =>
    (ofList CellKind.toDocument mesh.kinds.toList).toList CellKind.ofDocument >>= fun kinds =>
      Connectivity.ofDocument mesh.cells.toDocument >>= fun cells =>
        AttributeTable.ofDocument mesh.pointData.toDocument >>= fun pointData =>
          AttributeTable.ofDocument mesh.cellData.toDocument >>= fun cellData =>
            pure (Parts.mk points.toArray kinds.toArray cells pointData cellData)) = _ ↔ _
  rw [points, kinds, Connectivity.ofDocument_toDocument, ← AttributeTable.ofDocument_toDocument_iff,
    ← AttributeTable.ofDocument_toDocument_iff]
  cases AttributeTable.ofDocument mesh.pointData.toDocument with
  | error error => simp [bind, Except.bind]
  | ok pointData =>
    cases AttributeTable.ofDocument mesh.cellData.toDocument with
    | error error => simp [bind, Except.bind]
    | ok cellData => simp [bind, Except.bind, pure, Except.pure, parts]

/-- Storing a mesh and reading it back gives the same mesh exactly if the floats of its attributes
are finite; a connectivity by itself is always read back. -/
theorem reading_toDocument_iff (mesh : Mesh) (cells : Connectivity) :
    (ofDocument mesh.toDocument = .ok mesh ↔ mesh.pointData.Finite ∧ mesh.cellData.Finite) ∧
      Connectivity.ofDocument cells.toDocument = .ok cells := by
  refine ⟨?_, cells.ofDocument_toDocument⟩
  rw [ofDocument_eq_ok_iff, partsOfDocument_toDocument_iff]

end Mesh
end MeshSkin
