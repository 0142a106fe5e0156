import QuickJsValue.Tag

/-!
# The NaN-boxed layout

`quickjs.h` selects this layout when `INTPTR_MAX < INT64_MAX`, so pointers here are 32 bits. A
value is one `uint64_t`: the tag in the high word and the payload in the low word, except that a
double takes the whole word less `JS_FLOAT64_TAG_ADDEND << 32`. The addend moves the quiet-NaN
high word `0x7ff80000` to `JS_TAG_FIRST - 1`, so the canonical NaN gets the tag just below the
heap tags and every other double a high word far from the tag window.

Everything below is computed on the word's value, `toNat`, with `omega` for the range analysis.
The one fact with content is `jsValueGetTag_jsNewFloat64Raw`: `__JS_NewFloat64` gives a NaN input
the tag `-10` and any other double a tag outside `[INT32_MAX - 8, INT32_MAX]` and outside the
window, on either sign bit. All of `Layout.lean`'s laws for this layout follow from it and from
the value of `JS_MKVAL`.
-/

namespace QuickJs

namespace NanBoxing

/-- `typedef uint64_t JSValue`. -/
abbrev JsValue := BitVec 64

/-- `JS_VALUE_GET_TAG`: `(int)((v) >> 32)`. -/
def jsValueGetTag (v : JsValue) : BitVec 32 := (v >>> 32).setWidth 32

/-- `JS_VALUE_GET_INT`: `(int)(v)`. -/
def jsValueGetInt (v : JsValue) : BitVec 32 := v.setWidth 32

/-- `JS_VALUE_GET_BOOL`: `(int)(v)`. -/
def jsValueGetBool (v : JsValue) : BitVec 32 := v.setWidth 32

/-- `JS_VALUE_GET_SHORT_BIG_INT`: `(int)(v)`. -/
def jsValueGetShortBigInt (v : JsValue) : BitVec 32 := v.setWidth 32

/-- `JS_VALUE_GET_PTR`: `(void *)(intptr_t)(v)`, with a 32-bit `intptr_t`. -/
def jsValueGetPtr (v : JsValue) : BitVec 32 := v.setWidth 32

/-- `JS_MKVAL`: `(((uint64_t)(tag) << 32) | (uint32_t)(val))`. -/
def jsMkval (tag val : BitVec 32) : JsValue := (tag.signExtend 64 <<< 32) ||| val.setWidth 64

/-- `JS_MKPTR`: `(((uint64_t)(tag) << 32) | (uintptr_t)(ptr))`, with a 32-bit `uintptr_t`. -/
def jsMkptr (tag ptr : BitVec 32) : JsValue := (tag.signExtend 64 <<< 32) ||| ptr.setWidth 64

/-- `JS_FLOAT64_TAG_ADDEND`: `(0x7ff80000 - JS_TAG_FIRST + 1)`, an `int`. -/
def jsFloat64TagAddend : BitVec 32 := 0x7ff80000 - jsTagFirst + 1

/-- `JS_VALUE_GET_FLOAT64`: the word plus `(uint64_t)JS_FLOAT64_TAG_ADDEND << 32`, read as a
double. -/
def jsValueGetFloat64 (v : JsValue) : BitVec 64 := v + (jsFloat64TagAddend.signExtend 64 <<< 32)

/-- `JS_NAN`: `(0x7ff8000000000000 - ((uint64_t)JS_FLOAT64_TAG_ADDEND << 32))`. -/
def jsNan : JsValue := 0x7ff8000000000000 - (jsFloat64TagAddend.signExtend 64 <<< 32)

/-- `__JS_NewFloat64`: a NaN of any sign or payload becomes `JS_NAN`, any other double its bits
less the addend. -/
def jsNewFloat64Raw (d : BitVec 64) : JsValue :=
  if Float64.isNan d then jsNan else d - (jsFloat64TagAddend.signExtend 64 <<< 32)

/-- `__JS_NewShortBigInt`, whose parameter is an `int32_t` in this layout. -/
def jsNewShortBigIntRaw (d : BitVec 32) : JsValue := jsMkval jsTagShortBigInt d

/-- `JS_TAG_IS_FLOAT64`: `((unsigned)((tag) - JS_TAG_FIRST) >= (JS_TAG_FLOAT64 - JS_TAG_FIRST))`.
`JS_VALUE_GET_NORM_TAG` applies it to a `uint32_t` and `JS_IsNumber` to an `int`; both compute
`tag + 9` modulo `2^32`, the `int` one only while it does not overflow, which
`Refinement.lean` shows of every value the header builds. -/
def jsTagIsFloat64 (tag : BitVec 32) : Bool :=
  decide (jsTagFloat64 - jsTagFirst ≤ tag - jsTagFirst)

/-- `JS_VALUE_GET_NORM_TAG`. -/
def jsValueGetNormTag (v : JsValue) : BitVec 32 :=
  let tag := jsValueGetTag v
  if jsTagIsFloat64 tag then jsTagFloat64 else tag

/-- `JS_VALUE_IS_NAN`: `tag == (JS_NAN >> 32)`, the `uint32_t` tag widened to compare. -/
def jsValueIsNan (v : JsValue) : Bool := (jsValueGetTag v).setWidth 64 == jsNan >>> 32

/-! ### Values of the words -/

theorem addend_toNat : (jsFloat64TagAddend.signExtend 64 <<< 32).toNat = 0x7ff8000a * 2 ^ 32 := by
  decide

theorem jsNan_toNat : jsNan.toNat = 0xfffffff6 * 2 ^ 32 := by decide

theorem jsValueGetTag_toNat (v : JsValue) : (jsValueGetTag v).toNat = v.toNat / 2 ^ 32 := by
  rw [jsValueGetTag, BitVec.toNat_setWidth, BitVec.toNat_ushiftRight, Nat.shiftRight_eq_div_pow,
    Nat.mod_eq_of_lt (Nat.div_lt_of_lt_mul (show v.toNat < 2 ^ 32 * 2 ^ 32 from v.isLt))]

theorem tag_shift_toNat (tag : BitVec 32) :
    (tag.signExtend 64 <<< 32).toNat = tag.toNat * 2 ^ 32 := by
  rw [BitVec.toNat_shiftLeft, Nat.shiftLeft_eq, show 2 ^ 64 = 2 ^ 32 * 2 ^ 32 from rfl,
    Nat.mul_mod_mul_right, toNat_signExtend_mod]

theorem jsMkval_toNat (tag val : BitVec 32) :
    (jsMkval tag val).toNat = tag.toNat * 2 ^ 32 + val.toNat := by
  have hval := val.isLt
  rw [jsMkval, BitVec.toNat_or, tag_shift_toNat, BitVec.toNat_setWidth,
    Nat.mod_eq_of_lt (by omega : val.toNat < 2 ^ 64), Nat.mul_comm, ← Nat.mul_add_lt_is_or hval]

theorem jsMkptr_eq_jsMkval (tag ptr : BitVec 32) : jsMkptr tag ptr = jsMkval tag ptr := rfl

theorem setWidth_jsMkval (tag val : BitVec 32) : (jsMkval tag val).setWidth 32 = val := by
  apply BitVec.eq_of_toNat_eq
  rw [BitVec.toNat_setWidth, jsMkval_toNat, Nat.add_comm, Nat.add_mul_mod_self_right,
    Nat.mod_eq_of_lt val.isLt]

theorem jsMkval_jsValueGetTag (v : JsValue) : jsMkval (jsValueGetTag v) (jsValueGetInt v) = v := by
  apply BitVec.eq_of_toNat_eq
  rw [jsMkval_toNat, jsValueGetTag_toNat, jsValueGetInt, BitVec.toNat_setWidth, Nat.mul_comm,
    Nat.div_add_mod]

theorem jsNewShortBigIntRaw_eq (d : BitVec 32) :
    jsNewShortBigIntRaw d = jsMkval jsTagShortBigInt (d.setWidth 32) := by
  rw [BitVec.setWidth_eq]; rfl

theorem jsValueGetTag_jsMkval (tag val : BitVec 32) : jsValueGetTag (jsMkval tag val) = tag := by
  apply BitVec.eq_of_toNat_eq
  rw [jsValueGetTag_toNat, jsMkval_toNat, Nat.add_comm,
    Nat.add_mul_div_right _ _ (Nat.two_pow_pos 32), Nat.div_eq_of_lt val.isLt, Nat.zero_add]

/-! ### Doubles -/

theorem jsNewFloat64Raw_of_isNan {d : BitVec 64} (hd : Float64.isNan d = true) :
    jsNewFloat64Raw d = jsNan := if_pos hd

theorem jsNewFloat64Raw_toNat {d : BitVec 64} (hd : Float64.isNan d = false) :
    (jsNewFloat64Raw d).toNat = (d.toNat + 2 ^ 64 - 0x7ff8000a * 2 ^ 32) % 2 ^ 64 := by
  rw [jsNewFloat64Raw, if_neg (by simp [hd]), BitVec.toNat_sub, addend_toNat]
  omega

/-- The tag `__JS_NewFloat64` leaves in the high word. A NaN gets `JS_TAG_FIRST - 1`. Any other
double has a high word of at most `0x7ff00000` besides its sign bit, so its tag, sign bit aside,
lies in `[0x7fff6, 0x7ff7fff6]`: the high words that would land in the window or at the top of
`int` are the quiet NaNs `0x7ff80001 ..` and `0xfff80001 ..`, which the normalization removed. -/
theorem jsValueGetTag_jsNewFloat64Raw (d : BitVec 64) :
    (Float64.isNan d = true → (jsValueGetTag (jsNewFloat64Raw d)).toNat = 0xfffffff6) ∧
    (Float64.isNan d = false →
      0x7fff6 ≤ (jsValueGetTag (jsNewFloat64Raw d)).toNat % 2 ^ 31 ∧
        (jsValueGetTag (jsNewFloat64Raw d)).toNat % 2 ^ 31 ≤ 0x7ff7fff6) := by
  rw [jsValueGetTag_toNat]
  refine ⟨fun hd => ?_, fun hd => ?_⟩
  · rw [jsNewFloat64Raw_of_isNan hd, jsNan_toNat]; rfl
  · have hmag := (Float64.isNan_eq_false_iff d).mp hd
    have := d.isLt
    rw [jsNewFloat64Raw_toNat hd]
    omega

theorem jsValueGetFloat64_jsNan : jsValueGetFloat64 jsNan = Float64.nan := by decide

theorem jsValueGetFloat64_jsNewFloat64Raw {d : BitVec 64} (hd : Float64.isNan d = false) :
    jsValueGetFloat64 (jsNewFloat64Raw d) = d := by
  rw [jsNewFloat64Raw, if_neg (by simp [hd]), jsValueGetFloat64, BitVec.sub_add_cancel]

theorem jsNewFloat64Raw_jsValueGetFloat64_of_not_isNan {v : JsValue}
    (hv : Float64.isNan (jsValueGetFloat64 v) = false) :
    jsNewFloat64Raw (jsValueGetFloat64 v) = v := by
  rw [jsNewFloat64Raw, if_neg (by simp [hv]), jsValueGetFloat64, BitVec.add_sub_cancel]

theorem isNan_jsValueGetFloat64_jsNewFloat64Raw (d : BitVec 64) :
    Float64.isNan (jsValueGetFloat64 (jsNewFloat64Raw d)) = Float64.isNan d := by
  cases hd : Float64.isNan d
  · rw [jsValueGetFloat64_jsNewFloat64Raw hd, hd]
  · rw [jsNewFloat64Raw_of_isNan hd, jsValueGetFloat64_jsNan, Float64.isNan_nan]

/-- Normalizing twice is normalizing once: decoding a stored double and storing it again gives
back the same word, for NaNs too since `JS_NAN` decodes to a NaN. -/
theorem jsNewFloat64Raw_jsValueGetFloat64 (d : BitVec 64) :
    jsNewFloat64Raw (jsValueGetFloat64 (jsNewFloat64Raw d)) = jsNewFloat64Raw d := by
  cases hd : Float64.isNan d
  · rw [jsValueGetFloat64_jsNewFloat64Raw hd]
  · rw [jsNewFloat64Raw_of_isNan hd, jsValueGetFloat64_jsNan,
      jsNewFloat64Raw_of_isNan Float64.isNan_nan]

/-! ### Tag tests -/

theorem jsTagIsFloat64_iff (tag : BitVec 32) : jsTagIsFloat64 tag = true ↔ ¬NonFloatTag tag := by
  rw [jsTagIsFloat64, decide_eq_true_eq, nonFloatTag_iff, BitVec.le_def, BitVec.toNat_sub,
    BitVec.toNat_sub, show jsTagFirst.toNat = 2 ^ 32 - 9 by decide,
    show jsTagFloat64.toNat = 8 by decide]
  omega

theorem jsValueGetNormTag_of_ne {v : JsValue} (hv : jsValueGetNormTag v ≠ jsTagFloat64) :
    jsValueGetNormTag v = jsValueGetTag v := by
  by_cases hfloat : jsTagIsFloat64 (jsValueGetTag v)
  · exact absurd (if_pos hfloat) hv
  · exact if_neg hfloat

theorem jsValueIsNan_iff (v : JsValue) :
    jsValueIsNan v = true ↔ (jsValueGetTag v).toNat = 0xfffffff6 := by
  rw [jsValueIsNan, beq_iff_eq, BitVec.toNat_eq, BitVec.toNat_setWidth,
    BitVec.toNat_ushiftRight, jsNan_toNat, Nat.shiftRight_eq_div_pow]
  have := (jsValueGetTag v).isLt
  omega

theorem jsTagIsFloat64_of_nonFloatTag {tag : BitVec 32} (htag : NonFloatTag tag) :
    jsTagIsFloat64 tag = false := by
  rw [← Bool.not_eq_true, jsTagIsFloat64_iff, not_not]; exact htag

theorem jsValueIsNan_of_nonFloatTag {v : JsValue} (hv : NonFloatTag (jsValueGetTag v)) :
    jsValueIsNan v = false := by
  rw [← Bool.not_eq_true, jsValueIsNan_iff]
  intro htag
  rw [nonFloatTag_iff, htag] at hv
  exact absurd hv (by decide)

theorem jsTagIsFloat64_jsNewFloat64Raw (d : BitVec 64) :
    jsTagIsFloat64 (jsValueGetTag (jsNewFloat64Raw d)) = true := by
  rw [jsTagIsFloat64_iff, nonFloatTag_iff]
  have hrange := jsValueGetTag_jsNewFloat64Raw d
  have := (jsValueGetTag (jsNewFloat64Raw d)).isLt
  cases hd : Float64.isNan d
  · have := hrange.2 hd; omega
  · have := hrange.1 hd; omega

theorem jsValueIsNan_jsNewFloat64Raw (d : BitVec 64) :
    jsValueIsNan (jsNewFloat64Raw d) = Float64.isNan d := by
  have hrange := jsValueGetTag_jsNewFloat64Raw d
  cases hd : Float64.isNan d
  · rw [← Bool.not_eq_true, jsValueIsNan_iff]
    have := hrange.2 hd; omega
  · rw [jsValueIsNan_iff]; exact hrange.1 hd

end NanBoxing

end QuickJs
