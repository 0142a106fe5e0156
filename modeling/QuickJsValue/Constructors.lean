import QuickJsValue.Refinement
import QuickJsValue.Rounding

/-!
# The integer constructors

`JS_NewInt64` keeps an `int64_t` inline when it fits an `int` and stores `(double)val` when it
does not; `JS_NewUint32` is the same choice for a `uint32_t`, and it is `JS_NewInt64` of the
widened argument in both builds. Out of range the stored double is the encoding of a finite
double, so everything `Refinement.lean` says of doubles applies to it: it is a number, owns no
reference and is not a NaN. The double is `v` itself up to `2^53`, and above that `v` rounded to
nearest, ties to even.

`__JS_NewShortBigInt` is the exception to "decoding undoes encoding". In the NaN-boxed build its
parameter is an `int32_t` and every argument comes back. The struct build declares the parameter
`int64_t` but stores it in the `int32_t` member `short_big_int`, so an argument outside `int`
comes back reduced modulo `2^32`.
-/

namespace QuickJs

theorem toInt_setWidth_eq_iff (v : BitVec 64) :
    (v.setWidth 32).toInt = v.toInt ↔ int32Min ≤ v.toInt ∧ v.toInt ≤ int32Max := by
  have := v.isLt
  rw [int32Min, int32Max, BitVec.toInt_eq_toNat_cond, BitVec.toInt_eq_toNat_cond,
    BitVec.toNat_setWidth]
  split <;> split <;> omega

theorem toInt_setWidth_uint32 (u : BitVec 32) : (u.setWidth 64).toInt = u.toNat := by
  have := u.isLt
  rw [BitVec.toInt_eq_toNat_cond, BitVec.toNat_setWidth, if_pos (by omega),
    Nat.mod_eq_of_lt (by omega)]

theorem natAbs_toInt_lt (v : BitVec 64) : v.toInt.natAbs < 2 ^ 64 := by
  have := v.isLt
  rw [BitVec.toInt_eq_toNat_cond]
  split <;> omega

namespace Layout

variable (L : Layout)

theorem jsNewInt64_of_inRange {v : BitVec 64} (hv : int32Min ≤ v.toInt ∧ v.toInt ≤ int32Max) :
    L.jsNewInt64 v = L.encode (.inline .int (v.setWidth 32)) := if_pos hv

theorem jsNewInt64_of_not_inRange {v : BitVec 64}
    (hv : ¬(int32Min ≤ v.toInt ∧ v.toInt ≤ int32Max)) :
    L.jsNewInt64 v = L.encode (.float64 (Float64.ofInt v.toInt)) := if_neg hv

theorem jsNewUint32_eq_jsNewInt64 (u : BitVec 32) :
    L.jsNewUint32 u = L.jsNewInt64 (u.setWidth 64) := by
  have hlow : (u.setWidth 64).setWidth 32 = u := by
    rw [BitVec.setWidth_setWidth_of_le u (by decide), BitVec.setWidth_eq]
  unfold jsNewUint32 jsNewInt64
  rw [toInt_setWidth_uint32, hlow]
  by_cases hle : (u.toNat : Int) ≤ int32Max
  · rw [if_pos hle, if_pos ⟨by rw [int32Min]; omega, hle⟩]
  · rw [if_neg hle, if_neg (fun h => hle h.2)]

namespace Lawful

variable {L : Layout} (hL : L.Lawful)
include hL

theorem getTag_newFloat64_ne_int (d : BitVec 64) :
    L.jsValueGetTag (L.jsNewFloat64Raw d) ≠ jsTagInt := fun h =>
  hL.not_nonFloatTag_of_tagIsFloat64 (hL.tagIsFloat64_newFloat64 d) (h ▸ by decide)

theorem jsNewInt64_int_iff (v : BitVec 64) :
    (L.jsValueGetTag (L.jsNewInt64 v) = jsTagInt ∧
        (L.jsValueGetInt (L.jsNewInt64 v)).toInt = v.toInt) ↔
      (int32Min ≤ v.toInt ∧ v.toInt ≤ int32Max) := by
  by_cases hv : int32Min ≤ v.toInt ∧ v.toInt ≤ int32Max
  · rw [jsNewInt64_of_inRange L hv]
    exact iff_of_true ⟨hL.getTag_mkval _ _, by
      rw [encode, hL.getInt_mkval, (toInt_setWidth_eq_iff v).mpr hv]⟩ hv
  · rw [jsNewInt64_of_not_inRange L hv]
    exact iff_of_false (fun h => hL.getTag_newFloat64_ne_int _ h.1) hv

/-- Out of `int`, `JS_NewInt64` stores `(double)v`, a double that is not a NaN: a number with
no reference count. -/
theorem jsNewInt64_of_not_inRange_spec {v : BitVec 64}
    (hv : ¬(int32Min ≤ v.toInt ∧ v.toInt ≤ int32Max)) :
    L.jsNewInt64 v = L.jsNewFloat64 (Float64.ofInt v.toInt) ∧
      Float64.isNan (Float64.ofInt v.toInt) = false ∧
      L.jsValueIsNan (L.jsNewInt64 v) = false ∧
      L.jsValueHasRefCount (L.jsNewInt64 v) = false ∧
      L.jsIsNumber (L.jsNewInt64 v) = true := by
  have hfinite := Float64.isNan_ofInt v.toInt (natAbs_toInt_lt v)
  rw [L.jsNewInt64_of_not_inRange hv]
  refine ⟨rfl, hfinite, ?_, hL.jsValueHasRefCount_encode _, ?_⟩
  · rw [hL.jsValueIsNan_encode]; exact hfinite
  · rw [hL.jsIsNumber_encode]; rfl

theorem jsValueGetFloat64_jsNewInt64 {v : BitVec 64}
    (hv : ¬(int32Min ≤ v.toInt ∧ v.toInt ≤ int32Max)) :
    L.jsValueGetFloat64 (L.jsNewInt64 v) = Float64.ofInt v.toInt := by
  rw [L.jsNewInt64_of_not_inRange hv]
  exact hL.getFloat64_newFloat64 _ (Float64.isNan_ofInt _ (natAbs_toInt_lt v))

end Lawful

end Layout

/-! ### `JS_NewInt64` and `JS_NewUint32` -/

/-- In both builds `JS_NewInt64(v)` is an `int` holding `v` exactly when `v` fits in `int`, and
otherwise the encoding of `(double)v`, a double that is not a NaN, so the value is a number with
no reference count. `JS_NewUint32(u)` is `JS_NewInt64((int64_t)u)`: an `int` holding `u` exactly
when `u <= INT32_MAX`, and the encoding of `(double)u` otherwise. -/
theorem jsNewInt64_jsNewUint32_spec (b : Build) :
    let L := b.layout
    (∀ v : BitVec 64,
      ((L.jsValueGetTag (L.jsNewInt64 v) = jsTagInt ∧
          (L.jsValueGetInt (L.jsNewInt64 v)).toInt = v.toInt) ↔
        (int32Min ≤ v.toInt ∧ v.toInt ≤ int32Max)) ∧
      (¬(int32Min ≤ v.toInt ∧ v.toInt ≤ int32Max) →
        L.jsNewInt64 v = L.jsNewFloat64 (Float64.ofInt v.toInt) ∧
          Float64.isNan (Float64.ofInt v.toInt) = false ∧
          L.jsValueIsNan (L.jsNewInt64 v) = false ∧
          L.jsValueHasRefCount (L.jsNewInt64 v) = false ∧
          L.jsIsNumber (L.jsNewInt64 v) = true)) ∧
    (∀ u : BitVec 32,
      L.jsNewUint32 u = L.jsNewInt64 (u.setWidth 64) ∧
        ((L.jsValueGetTag (L.jsNewUint32 u) = jsTagInt ∧
            (L.jsValueGetInt (L.jsNewUint32 u)).toInt = u.toNat) ↔
          (u.toNat : Int) ≤ int32Max) ∧
        (¬(u.toNat : Int) ≤ int32Max →
          L.jsNewUint32 u = L.jsNewFloat64 (Float64.ofInt u.toNat))) := by
  intro L
  have hL : L.Lawful := b.lawful
  refine ⟨fun v => ⟨hL.jsNewInt64_int_iff v, fun hv => hL.jsNewInt64_of_not_inRange_spec hv⟩,
    fun u => ?_⟩
  have hrange : (int32Min ≤ (u.toNat : Int) ∧ (u.toNat : Int) ≤ int32Max) ↔
      (u.toNat : Int) ≤ int32Max := by
    rw [int32Min]; omega
  have hint := hL.jsNewInt64_int_iff (u.setWidth 64)
  rw [toInt_setWidth_uint32] at hint
  rw [L.jsNewUint32_eq_jsNewInt64]
  refine ⟨rfl, hint.trans hrange, fun hu => ?_⟩
  rw [← toInt_setWidth_uint32]
  exact (hL.jsNewInt64_of_not_inRange_spec (by rw [toInt_setWidth_uint32]; exact mt hrange.mp hu)).1

/-- Out of `int` but within `2^53` of zero, `JS_NewInt64(v)` loses nothing: in both builds
`JS_VALUE_GET_FLOAT64` reads back a normal double of `v`'s sign whose value is `|v|`. -/
theorem jsNewInt64_float64_exact (b : Build) (v : BitVec 64)
    (hv : ¬(int32Min ≤ v.toInt ∧ v.toInt ≤ int32Max)) (hle : v.toInt.natAbs ≤ 2 ^ 53) :
    let d := b.layout.jsValueGetFloat64 (b.layout.jsNewInt64 v)
    Float64.signBit d = (if v.toInt < 0 then 1 else 0) ∧ 1023 ≤ Float64.biasedExponent d ∧
      (Float64.fraction d + 2 ^ 52) * 2 ^ (Float64.biasedExponent d - 1023) =
        v.toInt.natAbs * 2 ^ 52 := by
  have hpos : 0 < v.toInt.natAbs := by
    rw [int32Min, int32Max] at hv; omega
  intro d
  rw [show d = Float64.ofInt v.toInt from b.lawful.jsValueGetFloat64_jsNewInt64 hv]
  exact Float64.ofInt_exact _ hpos hle

theorem jsNewInt64_float64_exact_two_pow_31 :
    ¬(int32Min ≤ (0x80000000 : BitVec 64).toInt ∧
        (0x80000000 : BitVec 64).toInt ≤ int32Max) ∧
      (0x80000000 : BitVec 64).toInt.natAbs ≤ 2 ^ 53 ∧
      let d := Build.nanBoxing.layout.jsValueGetFloat64
        (Build.nanBoxing.layout.jsNewInt64 0x80000000)
      Float64.signBit d = (if (0x80000000 : BitVec 64).toInt < 0 then 1 else 0) ∧
        1023 ≤ Float64.biasedExponent d ∧
        (Float64.fraction d + 2 ^ 52) * 2 ^ (Float64.biasedExponent d - 1023) =
          (0x80000000 : BitVec 64).toInt.natAbs * 2 ^ 52 :=
  ⟨by decide, by decide, jsNewInt64_float64_exact .nanBoxing 0x80000000 (by decide) (by decide)⟩

/-- Above `2^53`, `JS_NewInt64(v)` stores `v` rounded to nearest, ties to even: in both builds
`JS_VALUE_GET_FLOAT64` reads back a whole double of `v`'s sign within half a unit in the last
place of `|v|`, with an even fraction on a tie. -/
theorem jsNewInt64_float64_nearest (b : Build) (v : BitVec 64) (hbig : 2 ^ 53 < v.toInt.natAbs) :
    let d := b.layout.jsValueGetFloat64 (b.layout.jsNewInt64 v)
    Float64.signBit d = (if v.toInt < 0 then 1 else 0) ∧ 1075 ≤ Float64.biasedExponent d ∧
      Float64.integerMagnitude d ≤ v.toInt.natAbs + 2 ^ (Nat.log2 v.toInt.natAbs - 53) ∧
      v.toInt.natAbs ≤ Float64.integerMagnitude d + 2 ^ (Nat.log2 v.toInt.natAbs - 53) ∧
      (Float64.integerMagnitude d + 2 ^ (Nat.log2 v.toInt.natAbs - 53) = v.toInt.natAbs ∨
          v.toInt.natAbs + 2 ^ (Nat.log2 v.toInt.natAbs - 53) = Float64.integerMagnitude d →
        Float64.fraction d % 2 = 0) := by
  have hv : ¬(int32Min ≤ v.toInt ∧ v.toInt ≤ int32Max) := by
    rw [int32Min, int32Max]; omega
  intro d
  rw [show d = Float64.ofInt v.toInt from b.lawful.jsValueGetFloat64_jsNewInt64 hv]
  exact Float64.ofInt_nearest _ hbig (natAbs_toInt_lt v)

theorem jsNewInt64_float64_nearest_two_pow_53_add_one :
    let v : BitVec 64 := 0x20000000000001
    2 ^ 53 < v.toInt.natAbs ∧
      let d := Build.struct.layout.jsValueGetFloat64 (Build.struct.layout.jsNewInt64 v)
      Float64.signBit d = (if v.toInt < 0 then 1 else 0) ∧ 1075 ≤ Float64.biasedExponent d ∧
        Float64.integerMagnitude d ≤ v.toInt.natAbs + 2 ^ (Nat.log2 v.toInt.natAbs - 53) ∧
        v.toInt.natAbs ≤ Float64.integerMagnitude d + 2 ^ (Nat.log2 v.toInt.natAbs - 53) ∧
        (Float64.integerMagnitude d + 2 ^ (Nat.log2 v.toInt.natAbs - 53) = v.toInt.natAbs ∨
            v.toInt.natAbs + 2 ^ (Nat.log2 v.toInt.natAbs - 53) = Float64.integerMagnitude d →
          Float64.fraction d % 2 = 0) :=
  ⟨by decide, jsNewInt64_float64_nearest .struct 0x20000000000001 (by decide)⟩

/-! ### `__JS_NewShortBigInt` -/

namespace Layout.Lawful

variable {L : Layout} (hL : L.Lawful)
include hL

theorem jsValueGetShortBigInt_jsNewShortBigIntRaw (d : BitVec L.shortBigIntBits) :
    L.jsValueGetShortBigInt (L.jsNewShortBigIntRaw d) = d.setWidth 32 := by
  rw [hL.newShortBigInt_eq, hL.getShortBigInt_mkval]

end Layout.Lawful

/-- The NaN-boxed build gives back every `int32_t` argument. The struct build gives back an
`int64_t` argument exactly when it lies in `int`, and on `int` arguments the two builds agree. -/
theorem jsNewShortBigIntRaw_round_trip :
    (∀ d : BitVec 32, NanBoxing.jsValueGetShortBigInt (NanBoxing.jsNewShortBigIntRaw d) = d) ∧
    (∀ d : BitVec 64,
      (Struct.jsValueGetShortBigInt (Struct.jsNewShortBigIntRaw d)).toInt = d.toInt ↔
        int32Min ≤ d.toInt ∧ d.toInt ≤ int32Max) ∧
    (∀ d : BitVec 32,
      Struct.jsValueGetShortBigInt (Struct.jsNewShortBigIntRaw (d.signExtend 64)) =
        NanBoxing.jsValueGetShortBigInt (NanBoxing.jsNewShortBigIntRaw d)) := by
  have hnan :
      ∀ d : BitVec 32, NanBoxing.jsValueGetShortBigInt (NanBoxing.jsNewShortBigIntRaw d) = d :=
    fun d => (Layout.nanBoxing_lawful.jsValueGetShortBigInt_jsNewShortBigIntRaw d).trans
      (BitVec.setWidth_eq d)
  refine ⟨hnan, fun d => ?_, fun d => ?_⟩
  · rw [Struct.jsValueGetShortBigInt_jsNewShortBigIntRaw, toInt_setWidth_eq_iff]
  · rw [hnan, Struct.jsValueGetShortBigInt_jsNewShortBigIntRaw, setWidth_signExtend]

/-- The struct build's `__JS_NewShortBigInt` at `2^31`, an `int64_t` one above `INT32_MAX`:
`JS_VALUE_GET_SHORT_BIG_INT` reads back `-2^31`. -/
theorem jsNewShortBigIntRaw_struct_two_pow_31 :
    (BitVec.ofInt 64 2147483648).toInt = 2147483648 ∧
      (Struct.jsValueGetShortBigInt
        (Struct.jsNewShortBigIntRaw (BitVec.ofInt 64 2147483648))).toInt = -2147483648 := by
  decide

end QuickJs
