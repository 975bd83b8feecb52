import Mathlib
import Workplan.Overload

/-!
# Percentages

Percentages are binary floating-point numbers, some of which are not numbers. All others are in
one order, with the two zeros in the same place: by kind and sign, then by exponent and mantissa,
which count backwards below zero. Comparing them is comparing keys of a linear order, so that a
ranking by percentages is a ranking as long as all of them are numbers.

Those with a plus sign stay numbers when they are added up, as no two of them cancel each other.

## Main definitions

* `percentKey`: the place of a percentage in the order
* `IsAmount`: a percentage that is a number with a plus sign

## Main results

* `lt_iff_percentKey_lt`, `beq_iff_percentKey_eq`, `comparePercent_eq_compare`: percentages that
  are numbers are compared by their keys
* `IsAmount.add`, `isAmount_foldl`: amounts add up to amounts
-/

namespace Workplan

open Float.Model Float.Model.UnpackedFloat

variable {u v : UnpackedFloat} {x y : Float} {spec : Format}

/-! ## The order of numbers -/

/-- The place of a number among others: its kind and sign, then its exponent, then its mantissa. -/
def numberKey : UnpackedFloat → ℤ ×ₗ ℤ ×ₗ ℤ
  | .infinity .negative => toLex (-2, toLex (0, 0))
  | .finite .negative mantissa exponent _ => toLex (-1, toLex (-exponent, -mantissa))
  | .notANumber | .zero _ => toLex (0, toLex (0, 0))
  | .finite .positive mantissa exponent _ => toLex (1, toLex (exponent, mantissa))
  | .infinity .positive => toLex (2, toLex (0, 0))

theorem compare_toLex {α β : Type} [LinearOrder α] [LinearOrder β] (a a' : α) (b b' : β) :
    compare (toLex (a, b)) (toLex (a', b')) = (compare a a').then (compare b b') := by
  rw [Prod.Lex.compare_def]
  rfl

theorem compare_neg (a b : ℤ) : compare (-a) (-b) = (compare a b).swap := by
  rw [← Std.OrientedOrd.eq_swap]
  simp only [compare, compareOfLessAndEq]
  grind

theorem compare_natCast (a b : ℕ) : compare (a : ℤ) (b : ℤ) = compare a b := by
  simp only [compare, compareOfLessAndEq]
  grind

/-- **Numbers are compared by their keys.** Exponents and mantissas count only between numbers on
the same side of zero, and below zero the other way round. -/
theorem compare_eq_compare_numberKey (hu : u ≠ .notANumber) (hv : v ≠ .notANumber) :
    u.compare v = some (compare (numberKey u) (numberKey v)) := by
  cases u with
  | notANumber => exact absurd rfl hu
  | infinity s =>
    cases v with
    | notANumber => exact absurd rfl hv
    | infinity s' => cases s <;> cases s' <;> rfl
    | zero => cases s <;> rfl
    | finite s' => cases s <;> cases s' <;> rfl
  | zero =>
    cases v with
    | notANumber => exact absurd rfl hv
    | infinity s' => cases s' <;> rfl
    | zero => rfl
    | finite s' => cases s' <;> rfl
  | finite s m e =>
    cases v with
    | notANumber => exact absurd rfl hv
    | infinity s' => cases s <;> cases s' <;> rfl
    | zero => cases s <;> rfl
    | finite s' m' e' =>
      cases s <;> cases s'
      · simp [UnpackedFloat.compare, numberKey, compare_toLex, compare_neg, compare_natCast,
          Ordering.swap_then]
      · rfl
      · rfl
      · simp [UnpackedFloat.compare, numberKey, compare_toLex, compare_natCast]

/-! ## The order of percentages -/

/-- **The place of a percentage in the order of numbers.** -/
def percentKey (x : Float) : ℤ ×ₗ ℤ ×ₗ ℤ := numberKey x.toModel.unpack

theorem lt_iff_unpack_lt : x < y ↔ x.toModel.unpack.lt y.toModel.unpack := decide_eq_true_iff

theorem le_iff_unpack_le : x ≤ y ↔ x.toModel.unpack.le y.toModel.unpack := decide_eq_true_iff

theorem unpack_ne_notANumber (hx : ¬ x.isNaN) : x.toModel.unpack ≠ .notANumber := by
  intro hnan
  refine hx ?_
  rw [Float.isNaN, Float.Model.isNaN, hnan]
  rfl

theorem lt_iff_percentKey_lt (hx : ¬ x.isNaN) (hy : ¬ y.isNaN) :
    x < y ↔ percentKey x < percentKey y := by
  rw [lt_iff_unpack_lt, UnpackedFloat.lt, compare_eq_compare_numberKey (unpack_ne_notANumber hx)
    (unpack_ne_notANumber hy), beq_iff_eq, Option.some_inj, compare_lt_iff_lt, percentKey,
    percentKey]

theorem beq_iff_percentKey_eq (hx : ¬ x.isNaN) (hy : ¬ y.isNaN) :
    x == y ↔ percentKey x = percentKey y := by
  change x.toModel.unpack.beq y.toModel.unpack ↔ _
  rw [UnpackedFloat.beq, compare_eq_compare_numberKey (unpack_ne_notANumber hx)
    (unpack_ne_notANumber hy), beq_iff_eq, Option.some_inj, compare_eq_iff_eq, percentKey,
    percentKey]

theorem le_iff_percentKey_le (hx : ¬ x.isNaN) (hy : ¬ y.isNaN) :
    x ≤ y ↔ percentKey x ≤ percentKey y := by
  rw [le_iff_unpack_le, UnpackedFloat.le, compare_eq_compare_numberKey (unpack_ne_notANumber hx)
    (unpack_ne_notANumber hy), Option.any_some, Ordering.isLE_iff_ne_gt, ← ne_eq, compare_le_iff_le,
    percentKey, percentKey]

/-- Only numbers are below each other. -/
theorem not_isNaN_of_le (h : x ≤ y) : ¬ x.isNaN ∧ ¬ y.isNaN := by
  change ¬ x.toModel.unpack.isNaN = true ∧ ¬ y.toModel.unpack.isNaN = true
  rw [le_iff_unpack_le] at h
  generalize x.toModel.unpack = u, y.toModel.unpack = v at h
  cases u with
  | notANumber => cases h
  | infinity | zero | finite =>
    cases v with
    | notANumber => cases h
    | infinity | zero | finite => exact ⟨Bool.false_ne_true, Bool.false_ne_true⟩

/-- Percentages that are not told apart have the same place. -/
theorem percentKey_eq_of_le_of_not_lt (hle : x ≤ y) (hlt : ¬ x < y) :
    percentKey x = percentKey y := by
  obtain ⟨hx, hy⟩ := not_isNaN_of_le hle
  rw [lt_iff_percentKey_lt hx hy] at hlt
  exact le_antisymm ((le_iff_percentKey_le hx hy).mp hle) (not_lt.mp hlt)

/-- **Percentages that are numbers are compared by their keys.** -/
theorem comparePercent_eq_compare (hx : ¬ x.isNaN) (hy : ¬ y.isNaN) :
    comparePercent x y = compare (percentKey x) (percentKey y) := by
  unfold comparePercent
  simp only [lt_iff_percentKey_lt hx hy, lt_iff_percentKey_lt hy hx]
  split
  · next hlt => exact (compare_lt_iff_lt.mpr hlt).symm
  · next hle =>
    split
    · next hgt => exact (compare_gt_iff_gt.mpr hgt).symm
    · next hge =>
      exact (compare_eq_iff_eq.mpr (le_antisymm (not_lt.mp hge) (not_lt.mp hle))).symm

/-! ## Sums -/

/-- A number with a plus sign. -/
inductive HasPlus : UnpackedFloat → Prop
  | zero : HasPlus (.zero .positive)
  | finite (mantissa : ℕ) (exponent : ℤ) (pos : 0 < mantissa) :
    HasPlus (.finite .positive mantissa exponent pos)
  | infinity : HasPlus (.infinity .positive)

theorem hasPlus_round (mantissa : ℕ) (exponent : ℤ) :
    HasPlus (UnpackedFloat.round spec .positive mantissa exponent) := by
  unfold UnpackedFloat.round roundWithAccuracy
  dsimp only
  split
  · exact .zero
  · exact .finite _ _ _

/-- A sum of numbers with a plus sign has one, as the sum of their mantissas is not below zero. -/
theorem HasPlus.add (hu : HasPlus u) (hv : HasPlus v) : HasPlus (UnpackedFloat.add spec u v) := by
  cases hu with
  | infinity => cases hv <;> exact .infinity
  | zero =>
    cases hv with
    | infinity => exact .infinity
    | zero => exact .zero
    | finite m e h => exact .finite m e h
  | finite m e h =>
    cases hv with
    | infinity => exact .infinity
    | zero => exact .finite m e h
    | finite m' e' h' =>
      unfold UnpackedFloat.add UnpackedFloat.normalize
      dsimp only
      split
      · next hneg =>
        rw [compare_lt_iff_lt] at hneg
        simp only [Sign.apply] at hneg
        omega
      · exact .zero
      · exact hasPlus_round _ _

/-- With a plus sign, a number is unpacked unless the exponent stands for what is none. -/
theorem hasPlus_unpack {exponent : BitVec spec.exponentBits}
    {mantissa : BitVec spec.mantissaBitsWithoutImplicit}
    (h : exponent = -1#_ → mantissa = 0#_) :
    HasPlus (unpack spec (packComponents spec .positive exponent mantissa)) := by
  unfold UnpackedFloat.unpack
  simp only [unpackMantissa_packComponents, unpackExponent_packComponents,
    unpackSign_packComponents, Sign.ofBitVec_toBitVec]
  split
  · next hspecial =>
    rw [if_pos (h hspecial)]
    exact .infinity
  · split
    · split
      · exact .zero
      · exact .finite _ _ _
    · exact .finite _ _ _

/-- Packing a number with a plus sign keeps the sign, and what it is packed into is a number. -/
theorem HasPlus.unpack_pack (h : HasPlus u) : HasPlus (unpack spec (pack spec u)) := by
  cases h with
  | infinity => exact hasPlus_unpack fun _ => rfl
  | zero => exact hasPlus_unpack fun _ => rfl
  | finite m e _ =>
    unfold UnpackedFloat.pack
    dsimp only
    split
    · -- too large, and so infinity
      exact hasPlus_unpack fun _ => rfl
    · next hsmall =>
      -- no exponent in the range is the one that stands for what is not a number
      split
      · refine hasPlus_unpack fun hspecial => ?_
        have hvalue := congrArg BitVec.toNat hspecial
        rw [BitVec.toNat_ofNat, Nat.mod_eq_of_lt (by omega), BitVec.neg_one_eq_allOnes,
          BitVec.toNat_allOnes] at hvalue
        omega
      · refine hasPlus_unpack fun hspecial => ?_
        have hvalue := congrArg BitVec.toNat hspecial
        rw [BitVec.toNat_zero, BitVec.neg_one_eq_allOnes, BitVec.toNat_allOnes] at hvalue
        have hbits := Nat.one_lt_two_pow spec.he.ne'
        omega

/-- **A percentage that is a number with a plus sign**; percentages that are booked are. -/
def IsAmount (x : Float) : Prop := HasPlus x.toModel.unpack

theorem unpack_zero : (0.0 : Float).toModel.unpack = .zero .positive := by rfl

theorem isAmount_zero : IsAmount 0.0 := by
  rw [IsAmount, unpack_zero]
  exact .zero

theorem IsAmount.not_isNaN (h : IsAmount x) : ¬ x.isNaN := by
  change ¬ x.toModel.unpack.isNaN = true
  unfold IsAmount at h
  generalize x.toModel.unpack = u at h
  cases h <;> exact Bool.false_ne_true

/-- A percentage that counts is an amount. -/
theorem isAmount_of_not_le_zero (hx : ¬ x.isNaN) (hpos : ¬ x ≤ 0.0) : IsAmount x := by
  have hnumber := unpack_ne_notANumber hx
  rw [le_iff_unpack_le, unpack_zero] at hpos
  unfold IsAmount
  generalize x.toModel.unpack = u at hnumber hpos
  cases u with
  | notANumber => exact absurd rfl hnumber
  | zero => exact absurd rfl hpos
  | infinity s =>
    cases s with
    | negative => exact absurd rfl hpos
    | positive => exact .infinity
  | finite s m e h =>
    cases s with
    | negative => exact absurd rfl hpos
    | positive => exact .finite m e h

theorem IsAmount.add (hx : IsAmount x) (hy : IsAmount y) : IsAmount (x + y) :=
  (HasPlus.add hx hy).unpack_pack

/-- **Amounts add up to an amount.** -/
theorem isAmount_foldl {α : Type} {f : α → Float} {l : List α} {start : Float}
    (hstart : IsAmount start) (h : ∀ a ∈ l, IsAmount (f a)) :
    IsAmount (l.foldl (fun sum a => sum + f a) start) := by
  induction l generalizing start with
  | nil => exact hstart
  | cons a rest ih =>
    obtain ⟨ha, hrest⟩ := List.forall_mem_cons.mp h
    exact ih (hstart.add ha) hrest

end Workplan
