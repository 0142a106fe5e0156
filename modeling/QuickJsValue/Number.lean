import QuickJsValue.Constructors
import QuickJsValue.Decode

/-!
# The number a value holds

`JS_IsNumber` accepts two kinds, and a reader of a number takes `JS_VALUE_GET_INT` of an `int`
and `JS_VALUE_GET_FLOAT64` of a double. `Layout.numberValue?` is that reading, scaled by `2^1074`
as `Float64.scaledValue?` scales a double, so that both kinds are whole numbers on one scale. It
gives nothing for a NaN, an infinity or any other kind.

`Logical.numberValue?` says the same of a logical value, and `numberValue?_encode` connects the
two in every lawful layout. Every constructor of the header then holds the number it is given,
`JS_NewFloat64` of a NaN included, where the NaN-boxed build stores `JS_NAN` instead: it is a NaN
too and holds no number. `JS_NewInt64` becomes a statement about numbers: whichever
representation it picks, the value holds `roundedValue v`, the number IEEE 754 gives `(double)v`.
So a reader cannot tell which branch was taken, and since rounding is monotone, two arguments
never come back in the other order, also when one is an `int` and the other a double.
-/

namespace QuickJs

namespace Logical

variable {w : Nat}

/-- The number a logical value holds, scaled by `2^1074`: a finite double's value or an `int`
payload. -/
def numberValue? : Logical w → Option Int
  | .float64 d => Float64.scaledValue? d
  | .inline .int i => some (i.toInt * 2 ^ 1074)
  | _ => none

end Logical

namespace Layout

variable (L : Layout)

/-- The number a value holds, scaled by `2^1074`: the payload of a value tagged `JS_TAG_INT`, the
value of a finite double behind a float tag, and nothing otherwise. -/
def numberValue? (v : L.JsValue) : Option Int :=
  let tag := L.jsValueGetTag v
  if tag = jsTagInt then some ((L.jsValueGetInt v).toInt * 2 ^ 1074)
  else if L.jsTagIsFloat64 tag then Float64.scaledValue? (L.jsValueGetFloat64 v)
  else none

namespace Lawful

variable {L : Layout} (hL : L.Lawful)
include hL

theorem numberValue?_of_nonFloatTag {v : L.JsValue} (hv : NonFloatTag (L.jsValueGetTag v)) :
    L.numberValue? v =
      if L.jsValueGetTag v = jsTagInt then some ((L.jsValueGetInt v).toInt * 2 ^ 1074)
      else none := by
  unfold numberValue?
  dsimp only
  rw [hL.tagIsFloat64_of_nonFloat _ hv]
  rfl

theorem numberValue?_jsNewFloat64Raw (d : BitVec 64) :
    L.numberValue? (L.jsNewFloat64Raw d) =
      Float64.scaledValue? (L.jsValueGetFloat64 (L.jsNewFloat64Raw d)) := by
  unfold numberValue?
  dsimp only
  rw [if_neg (hL.getTag_newFloat64_ne_int d), if_pos (hL.tagIsFloat64_newFloat64 d)]

theorem numberValue?_encode (x : Logical L.ptrBits) (hx : x.isNan = false) :
    L.numberValue? (L.encode x) = x.numberValue? := by
  cases x with
  | float64 d =>
    rw [encode, hL.numberValue?_jsNewFloat64Raw, hL.getFloat64_newFloat64 d hx]
    rfl
  | heap t p =>
    rw [encode, hL.numberValue?_of_nonFloatTag (by rw [hL.getTag_mkptr]; exact t.nonFloatTag),
      hL.getTag_mkptr, if_neg (by cases t <;> decide)]
    rfl
  | inline t i =>
    rw [encode, hL.numberValue?_of_nonFloatTag (by rw [hL.getTag_mkval]; exact t.nonFloatTag),
      hL.getTag_mkval, hL.getInt_mkval]
    cases t <;> rfl

theorem numberValue?_jsNewInt64 (v : BitVec 64) :
    L.numberValue? (L.jsNewInt64 v) = some (Float64.roundedValue v.toInt) := by
  by_cases hv : int32Min ≤ v.toInt ∧ v.toInt ≤ int32Max
  · have hsmall : v.toInt.natAbs ≤ 2 ^ 53 := by
      rw [int32Min, int32Max] at hv; omega
    rw [L.jsNewInt64_of_inRange hv, hL.numberValue?_encode (.inline .int _) rfl,
      Logical.numberValue?, (toInt_setWidth_eq_iff v).mpr hv, Float64.roundedValue_exact hsmall]
  · have hfinite := Float64.isNan_ofInt _ (natAbs_toInt_lt v)
    rw [L.jsNewInt64_of_not_inRange hv, hL.numberValue?_encode (.float64 _) hfinite,
      Logical.numberValue?, Float64.scaledValue?_ofInt _ (natAbs_toInt_lt v)]

theorem numberValue?_jsNewFloat64 (d : BitVec 64) :
    L.numberValue? (L.jsNewFloat64 d) = Float64.scaledValue? d := by
  cases hd : Float64.isNan d
  · exact hL.numberValue?_encode (.float64 d) hd
  · have hnan : Float64.isNan (L.jsValueGetFloat64 (L.jsNewFloat64Raw d)) = true :=
      (hL.isNan_getFloat64_newFloat64 d).trans hd
    rw [jsNewFloat64, hL.numberValue?_jsNewFloat64Raw, Float64.scaledValue?_of_isNan hnan,
      Float64.scaledValue?_of_isNan hd]

end Lawful

end Layout

/-- The logical values of `JS_NULL`, `JS_UNDEFINED`, `JS_FALSE`, `JS_TRUE`, `JS_EXCEPTION` and
`JS_UNINITIALIZED`, in that order. -/
def specialValues (w : Nat) : List (Logical w) :=
  [.inline .null 0, .inline .undefined 0, .inline .bool 0, .inline .bool 1, .inline .exception 0,
    .inline .uninitialized 0]

theorem specialValues_numberValue? (w : Nat) :
    ∀ x ∈ specialValues w, x.isNan = false ∧ x.numberValue? = none := by
  intro x hx
  simp only [specialValues, List.mem_cons, List.not_mem_nil, or_false] at hx
  rcases hx with rfl | rfl | rfl | rfl | rfl | rfl <;> exact ⟨rfl, rfl⟩

/-! ### The constructors as numbers -/

/-- In both builds each constructor of the header holds the number it is given:
`JS_NewInt32(val)` holds `val` and `JS_NewFloat64(d)` the number `d` stands for, none for a NaN or
an infinity. `JS_NewBool`, `JS_NewCatchOffset`, `__JS_NewShortBigInt` and the six special values
hold none. -/
theorem constructors_numberValue (b : Build) :
    let L := b.layout
    (∀ val : BitVec 32, L.numberValue? (L.jsNewInt32 val) = some (val.toInt * 2 ^ 1074)) ∧
      (∀ d : BitVec 64, L.numberValue? (L.jsNewFloat64 d) = Float64.scaledValue? d) ∧
      (∀ val : Bool, L.numberValue? (L.jsNewBool val) = none) ∧
      (∀ val : BitVec 32, L.numberValue? (L.jsNewCatchOffset val) = none) ∧
      (∀ d : BitVec L.shortBigIntBits, L.numberValue? (L.jsNewShortBigIntRaw d) = none) ∧
      ∀ v ∈ [L.jsNull, L.jsUndefined, L.jsFalse, L.jsTrue, L.jsException, L.jsUninitialized],
        L.numberValue? v = none := by
  intro L
  have hL : L.Lawful := b.lawful
  refine ⟨fun val => hL.numberValue?_encode (.inline .int val) rfl, hL.numberValue?_jsNewFloat64,
    fun val => hL.numberValue?_encode (.inline .bool _) rfl,
    fun val => hL.numberValue?_encode (.inline .catchOffset val) rfl, fun d => ?_, ?_⟩
  · rw [hL.newShortBigInt_eq]
    exact hL.numberValue?_encode (.inline .shortBigInt _) rfl
  · have hvs : [L.jsNull, L.jsUndefined, L.jsFalse, L.jsTrue, L.jsException, L.jsUninitialized] =
        (specialValues L.ptrBits).map L.encode := rfl
    rw [hvs, List.forall_mem_map]
    intro x hx
    obtain ⟨hnan, hnone⟩ := specialValues_numberValue? _ x hx
    rw [hL.numberValue?_encode x hnan, hnone]

/-! ### `JS_NewInt64` and `JS_NewUint32` as numbers -/

/-- In both builds the number `JS_NewInt64(v)` holds is `(double)v` as IEEE 754 rounds it,
whichever representation the value takes; within `2^53` of zero that is `v` itself.
`JS_NewUint32(u)` holds `u`. -/
theorem jsNewInt64_numberValue (b : Build) :
    let L := b.layout
    (∀ v : BitVec 64, L.numberValue? (L.jsNewInt64 v) = some (Float64.roundedValue v.toInt)) ∧
      (∀ v : BitVec 64, v.toInt.natAbs ≤ 2 ^ 53 →
        L.numberValue? (L.jsNewInt64 v) = some (v.toInt * 2 ^ 1074)) ∧
      (∀ u : BitVec 32,
        L.numberValue? (L.jsNewUint32 u) = some ((u.toNat : Int) * 2 ^ 1074)) := by
  intro L
  have hL : L.Lawful := b.lawful
  refine ⟨hL.numberValue?_jsNewInt64, fun v hv => ?_, fun u => ?_⟩
  · rw [hL.numberValue?_jsNewInt64, Float64.roundedValue_exact hv]
  · have hu : ((u.setWidth 64).toInt).natAbs ≤ 2 ^ 53 := by
      rw [toInt_setWidth_uint32, Int.natAbs_ofNat]; have := u.isLt; omega
    rw [L.jsNewUint32_eq_jsNewInt64, hL.numberValue?_jsNewInt64, Float64.roundedValue_exact hu,
      toInt_setWidth_uint32]

/-- In both builds `JS_NewInt64(v)` holds `v` itself exactly when `|v|` has at most 53 significant
bits, that is when the bits of `|v|` below its 53 leading ones are zero. -/
theorem jsNewInt64_numberValue_eq_iff (b : Build) (v : BitVec 64) :
    b.layout.numberValue? (b.layout.jsNewInt64 v) = some (v.toInt * 2 ^ 1074) ↔
      v.toInt.natAbs % 2 ^ (Nat.log2 v.toInt.natAbs - 52) = 0 := by
  rw [b.lawful.numberValue?_jsNewInt64, Option.some_inj, Float64.roundedValue_eq_iff]

/-- In both builds `JS_NewInt64` keeps the order of its arguments: the numbers two values hold
compare as the arguments do, whether each became an `int` or a double. -/
theorem jsNewInt64_numberValue_mono (b : Build) (v w : BitVec 64) (hvw : v.toInt ≤ w.toInt) :
    ∃ x y, b.layout.numberValue? (b.layout.jsNewInt64 v) = some x ∧
      b.layout.numberValue? (b.layout.jsNewInt64 w) = some y ∧ x ≤ y :=
  ⟨_, _, b.lawful.numberValue?_jsNewInt64 v, b.lawful.numberValue?_jsNewInt64 w,
    Float64.roundedValue_mono hvw⟩

theorem jsNewInt64_numberValue_mono_int32Max :
    (0x7fffffff : BitVec 64).toInt ≤ (0x80000000 : BitVec 64).toInt ∧
      ∃ x y, Build.nanBoxing.layout.numberValue? (Build.nanBoxing.layout.jsNewInt64 0x7fffffff) =
          some x ∧
        Build.nanBoxing.layout.numberValue? (Build.nanBoxing.layout.jsNewInt64 0x80000000) =
          some y ∧ x ≤ y :=
  ⟨by decide, jsNewInt64_numberValue_mono .nanBoxing 0x7fffffff 0x80000000 (by decide)⟩

end QuickJs
