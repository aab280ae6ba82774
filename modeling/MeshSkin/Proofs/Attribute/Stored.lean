import MeshSkin.Proofs.Attribute.Appended
import MeshSkin.Proofs.Binary64.Whole

/-!
# Stored sums

What an array keeps of a sum: an array of numbers the sum itself, one of bytes or integers the nearest
whole number within the limits of its type (`Scalar.keeps_ofSum`). So it is with the components of an
appended tuple (`Attribute.Appended.weighedAt`).
-/

namespace MeshSkin
namespace Scalar

open Binary64 (whole whole_bounds roundInto_eq_whole)

/-- The value is what can be stored of a sum. -/
def Keeps (sum : Float) : Scalar → Prop
  | .byte value => (value.toNat : Int) = whole 0 255 sum
  | .integer value => value.toInt = whole (-2 ^ 63) (2 ^ 63 - 1) sum
  | .real value => value = sum

@[simp] theorem storage_ofSum (sum : Float) (kind : StorageKind) : (ofSum sum kind).storage = kind := by
  cases kind <;> rfl

theorem keeps_ofSum (sum : Float) (kind : StorageKind) : (ofSum sum kind).Keeps sum := by
  cases kind with
  | byte =>
    obtain ⟨low, high⟩ : 0 ≤ whole 0 255 sum ∧ whole 0 255 sum ≤ 255 :=
      whole_bounds (by decide) (by decide) sum
    have small : (whole 0 255 sum).toNat < UInt8.size := by
      have size : UInt8.size = 256 := rfl
      omega
    show ((UInt8.ofNat (roundInto .awayFromZero 0 255 sum).toNat).toNat : Int) = whole 0 255 sum
    rw [roundInto_eq_whole, UInt8.toNat_ofNat_of_lt' small, Int.toNat_of_nonneg low]
  | integer =>
    obtain ⟨low, high⟩ : -2 ^ 63 ≤ whole (-2 ^ 63) (2 ^ 63 - 1) sum ∧
        whole (-2 ^ 63) (2 ^ 63 - 1) sum ≤ 2 ^ 63 - 1 :=
      whole_bounds (by decide) (by decide) sum
    have least : Int64.minValue.toInt = -2 ^ 63 := by decide
    have greatest : Int64.maxValue.toInt = 2 ^ 63 - 1 := by decide
    show (Int64.ofInt
      (roundInto .awayFromZero Int64.minValue.toInt Int64.maxValue.toInt sum)).toInt = _
    rw [roundInto_eq_whole, least, greatest, Int64.toInt_ofInt_of_le (by omega) (by omega)]
  | real => rfl

end Scalar

namespace Attribute

/-- An attribute has at a row the weighted sums of the components that a stencil names, added up in its
order and stored. -/
structure WeighedAt (row : Nat) (stencil : Stencil) (original made : Attribute) : Prop
    extends Like original made where
  sum : ∀ k < original.components, ∃ (read : Nat → Scalar) (stored : Scalar),
    (∀ entry ∈ stencil, original.component? entry.1 k = some (read entry.1)) ∧
      made.component? row k = some stored ∧ stored.storage = original.values.storage ∧
      stored.Keeps (sumOf (fun point => (read point).toFloat) stencil)

theorem Appended.weighedAt {count j : Nat} {stencils : List Stencil} {stencil : Stencil}
    {original made : Attribute} (appended : Appended count stencils original made)
    (listed : stencils[j]? = some stencil) : WeighedAt (count + j) stencil original made where
  toLike := appended.toLike
  sum k inside := by
    obtain ⟨read, reads, found⟩ := appended.new j stencil listed k inside
    exact ⟨read, _, reads, found, Scalar.storage_ofSum _ _, Scalar.keeps_ofSum _ _⟩

end Attribute
end MeshSkin
