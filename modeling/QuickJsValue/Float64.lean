import Mathlib.Data.BitVec

/-!
# Binary64 bit patterns

`quickjs.h` never computes with a `double`; it reads one's 64 bits through a union, tests them
for NaN and stores them. So a `double` here is its bit pattern, a `BitVec 64`, and the two
floating-point facts the header depends on are stated on bits: the NaN test both layouts write,
and the value `(double)n` that `JS_NewInt64` and `JS_NewUint32` store for an integer out of `int`
range.

The conversion is IEEE 754 round-to-nearest, ties-to-even, the default mode C converts integers
in. It is computed exactly, on the integer's binary digits, so it evaluates; what the header needs
of it is `isNan_ofInt`: an integer below `2^64` never converts to a NaN. `Rounding.lean` shows
that the conversion is the one IEEE 754 asks for.
-/

namespace QuickJs

namespace Float64

/-- The test `(u.u64 & 0x7fffffffffffffff) > 0x7ff0000000000000` that `__JS_NewFloat64` (NaN
boxing) and `JS_VALUE_IS_NAN` (struct layout) apply to a double's bits: exponent all ones and a
nonzero mantissa, of either sign. -/
def isNan (d : BitVec 64) : Bool := decide (0x7ff0000000000000 < d &&& 0x7fffffffffffffff)

/-- The quiet NaN `0x7ff8000000000000`: the `NAN` of `<math.h>` as GCC and Clang define it, and
the double the NaN-boxed `JS_NAN` decodes to. -/
def nan : BitVec 64 := 0x7ff8000000000000

theorem isNan_iff (d : BitVec 64) : isNan d = true ↔ 0x7ff0000000000000 < d.toNat % 2 ^ 63 := by
  simp only [isNan, decide_eq_true_eq, BitVec.lt_def, BitVec.toNat_and]
  rw [show (0x7fffffffffffffff : BitVec 64).toNat = 2 ^ 63 - 1 by decide,
    Nat.and_pow_two_sub_one_eq_mod]
  rfl

theorem isNan_eq_false_iff (d : BitVec 64) :
    isNan d = false ↔ d.toNat % 2 ^ 63 ≤ 0x7ff0000000000000 := by
  rw [← Bool.not_eq_true, isNan_iff, Nat.not_lt]

theorem isNan_nan : isNan nan = true := by decide

/-! ### `(double)n` -/

/-- The number of binary digits of `m`, looking at no more than `fuel` of them. -/
def bitLength : Nat → Nat → Nat
  | 0, _ => 0
  | fuel + 1, m => if m = 0 then 0 else bitLength fuel (m / 2) + 1

/-- The 53-bit significand of an `m` with `2^e ≤ m < 2^(e+1)`, rounded to nearest with ties to
even; it is `2^53` when rounding carries into the next binade. -/
def roundSignificand (m e : Nat) : Nat :=
  if e ≤ 52 then m * 2 ^ (52 - e)
  else
    let s := e - 52
    let q := m / 2 ^ s
    let r := m % 2 ^ s
    if 2 ^ (s - 1) < r ∨ (r = 2 ^ (s - 1) ∧ q % 2 = 1) then q + 1 else q

theorem roundSignificand_of_le {m e : Nat} (he : e ≤ 52) :
    roundSignificand m e = m * 2 ^ (52 - e) :=
  if_pos he

/-- Above `2^52` the significand is `m` divided by the place `2^(e - 52)` of its last kept bit,
plus one when the remainder is over half that place, or exactly half with an odd quotient. -/
theorem roundSignificand_of_lt {m e : Nat} (he : 52 < e) :
    roundSignificand m e =
      if 2 ^ (e - 53) < m % 2 ^ (e - 52) ∨
          (m % 2 ^ (e - 52) = 2 ^ (e - 53) ∧ m / 2 ^ (e - 52) % 2 = 1)
      then m / 2 ^ (e - 52) + 1 else m / 2 ^ (e - 52) := by
  rw [roundSignificand, if_neg (Nat.not_le.mpr he)]
  dsimp only
  rw [show e - 52 - 1 = e - 53 by omega]

/-- The bits of `(double)n` for an integer `|n| < 2^64`: sign, biased exponent `e + 1023` and
the rounded significand without its leading one. A carry out of the significand adds one to the
exponent field, so it needs no case of its own. -/
def ofInt (n : Int) : BitVec 64 :=
  let m := n.natAbs
  if m = 0 then 0
  else
    let e := bitLength 64 m - 1
    BitVec.ofNat 64
      ((if n < 0 then 2 ^ 63 else 0) + (e + 1023) * 2 ^ 52 + roundSignificand m e - 2 ^ 52)

theorem bitLength_spec (fuel m : Nat) (hpos : 0 < m) (hlt : m < 2 ^ fuel) :
    0 < bitLength fuel m ∧ bitLength fuel m ≤ fuel ∧
      2 ^ (bitLength fuel m - 1) ≤ m ∧ m < 2 ^ bitLength fuel m := by
  induction fuel generalizing m with
  | zero => simp at hlt; omega
  | succ fuel ih =>
    rw [bitLength, if_neg (by omega)]
    by_cases hone : m = 1
    · subst hone
      cases fuel <;> simp [bitLength]
    · have hhalf : m / 2 < 2 ^ fuel := by rw [pow_succ] at hlt; omega
      obtain ⟨hpos', hle, hlo, hhi⟩ := ih (m / 2) (by omega) hhalf
      have hpow : 2 ^ bitLength fuel (m / 2) = 2 ^ (bitLength fuel (m / 2) - 1) * 2 := by
        rw [← pow_succ, Nat.sub_add_cancel hpos']
      refine ⟨by omega, by omega, ?_, ?_⟩
      · rw [Nat.add_sub_cancel]; omega
      · rw [pow_succ]; omega

theorem roundSignificand_bounds {m e : Nat} (hlo : 2 ^ e ≤ m) (hhi : m < 2 ^ (e + 1)) :
    2 ^ 52 ≤ roundSignificand m e ∧ roundSignificand m e ≤ 2 ^ 53 := by
  by_cases hsmall : e ≤ 52
  · rw [roundSignificand_of_le hsmall]
    have hsplit : 2 ^ e * 2 ^ (52 - e) = 2 ^ 52 := by rw [← pow_add, Nat.add_sub_cancel' hsmall]
    constructor
    · calc 2 ^ 52 = 2 ^ e * 2 ^ (52 - e) := hsplit.symm
        _ ≤ m * 2 ^ (52 - e) := Nat.mul_le_mul_right _ hlo
    · calc m * 2 ^ (52 - e) ≤ 2 ^ (e + 1) * 2 ^ (52 - e) := Nat.mul_le_mul_right _ hhi.le
        _ = 2 ^ 53 := by rw [pow_succ, Nat.mul_right_comm, hsplit]; rfl
  · have hexp : e = 52 + (e - 52) := by omega
    have hqlo : 2 ^ 52 ≤ m / 2 ^ (e - 52) := by
      rw [Nat.le_div_iff_mul_le (Nat.two_pow_pos _), ← pow_add, ← hexp]; exact hlo
    have hqhi : m / 2 ^ (e - 52) < 2 ^ 53 := by
      rw [Nat.div_lt_iff_lt_mul (Nat.two_pow_pos _), ← pow_add]
      rwa [show 53 + (e - 52) = e + 1 by omega]
    rw [roundSignificand_of_lt (by omega)]
    split <;> omega

/-- The value of `ofInt n` for `0 < |n| < 2^64`: the sign, exponent and fraction fields side by
side, with no carry between them. -/
theorem ofInt_toNat (n : Int) (hpos : 0 < n.natAbs) (hn : n.natAbs < 2 ^ 64) :
    (ofInt n).toNat = (if n < 0 then 1 else 0) * 2 ^ 63 +
      (bitLength 64 n.natAbs - 1 + 1023) * 2 ^ 52 +
      (roundSignificand n.natAbs (bitLength 64 n.natAbs - 1) - 2 ^ 52) := by
  obtain ⟨hbpos, hle, hlo, hhi⟩ := bitLength_spec 64 n.natAbs hpos hn
  have hround := roundSignificand_bounds hlo (by rwa [Nat.sub_add_cancel hbpos])
  rw [ofInt, if_neg (by omega), BitVec.toNat_ofNat, Nat.add_sub_assoc hround.1, Nat.mod_eq_of_lt]
  · split <;> simp only [Nat.one_mul, Nat.zero_mul]
  · split <;> omega

/-- An integer of magnitude below `2^64` converts to a finite double, its exponent field at most
`1087`. -/
theorem ofInt_magnitude_le (n : Int) (hn : n.natAbs < 2 ^ 64) :
    (ofInt n).toNat % 2 ^ 63 ≤ 1087 * 2 ^ 52 := by
  rcases Nat.eq_zero_or_pos n.natAbs with hzero | hpos
  · rw [ofInt, if_pos hzero]; decide
  · obtain ⟨hbpos, hle, hlo, hhi⟩ := bitLength_spec 64 n.natAbs hpos hn
    have hround := roundSignificand_bounds hlo (by rwa [Nat.sub_add_cancel hbpos])
    rw [ofInt_toNat n hpos hn]
    omega

theorem isNan_ofInt (n : Int) (hn : n.natAbs < 2 ^ 64) : isNan (ofInt n) = false := by
  rw [isNan_eq_false_iff]
  have := ofInt_magnitude_le n hn
  omega

end Float64

end QuickJs
