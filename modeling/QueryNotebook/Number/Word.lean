/-!
# Words

Arithmetic on words of 64 bits that stops at either end of their range.  The operations of the core
library start over at the other end, so each of these looks first whether that would happen.
-/

namespace QueryNotebook.Word

/-- The greatest word. -/
def greatest : UInt64 :=
  0xFFFFFFFFFFFFFFFF

/-- A sum, or the greatest word when the sum is too large. -/
def add (left right : UInt64) : UInt64 :=
  if left + right < left then greatest else left + right

/-- A difference, or zero when there is less than is taken away. -/
def subtract (left right : UInt64) : UInt64 :=
  if left < right then 0 else left - right

/-- How far a signed word is from zero.  The least one has no opposite among the signed words, but
the bits that its opposite wraps to are this distance. -/
def magnitude (word : Int64) : UInt64 :=
  word.abs.toUInt64

/-- Where the sum is too large, it comes out smaller than either part. -/
@[simp] theorem toNat_add (left right : UInt64) :
    (add left right).toNat = min (left.toNat + right.toNat) (Nat.pow 2 64 - 1) := by
  have bound : Nat.pow 2 64 = 2 ^ 64 := rfl
  have small := left.toNat_lt
  have smallRight := right.toNat_lt
  have wraps : left + right < left ↔ 2 ^ 64 ≤ left.toNat + right.toNat := by
    rw [UInt64.lt_iff_toNat_lt, UInt64.toNat_add]
    omega
  unfold add
  split
  · next beyond =>
    have greatestValue : greatest.toNat = 2 ^ 64 - 1 := rfl
    have wrapped := wraps.mp beyond
    omega
  · next fits =>
    rw [wraps] at fits
    rw [UInt64.toNat_add]
    omega

@[simp] theorem toNat_subtract (left right : UInt64) :
    (subtract left right).toNat = left.toNat - right.toNat := by
  unfold subtract
  split
  · next less =>
    have less := UInt64.lt_iff_toNat_lt.mp less
    rw [UInt64.toNat_zero]
    omega
  · next enough =>
    exact UInt64.toNat_sub_of_le _ _ (UInt64.not_lt.mp enough)

@[simp] theorem toNat_magnitude (word : Int64) : (magnitude word).toNat = word.toInt.natAbs := by
  have small := word.toBitVec.isLt
  rw [magnitude, ← UInt64.toNat_toBitVec, Int64.toBitVec_toUInt64, Int64.toBitVec_abs,
    BitVec.toNat_abs, ← Int64.toInt_toBitVec, BitVec.toInt_eq_msb_cond]
  split <;> omega

/-- A signed word that is not negative is the same unsigned word. -/
theorem toNat_toUInt64 {word : Int64} (nonnegative : ¬ word < 0) :
    (word.toUInt64.toNat : Int) = word.toInt := by
  rw [Int64.toInt_eq_toNatClampNeg (Int64.not_lt.mp nonnegative),
    Int64.toNat_toUInt64_of_le (Int64.not_lt.mp nonnegative)]

end QueryNotebook.Word
