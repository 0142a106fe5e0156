import QuickJsValue.Layout

/-!
# The shared part of the header

The macros and inline functions `quickjs.h` writes once, after the layouts: the special values,
the constructors `JS_NewBool` to `JS_NewUint32` and `JS_ToBoolean`, and the tag queries
`JS_IsNumber` to `JS_IsModule` with `JS_VALUE_HAS_REF_COUNT`. Each takes the layout where C takes
it from the preprocessor. The constructors' `JSContext *` is only ever `(void)&ctx` or passed on,
so it is left out, and `JS_ToBoolean` takes the `int` that `JS_ToBool`, defined in `quickjs.c`,
returns.

`JS_NewInt64` and `JS_NewUint32` choose between an `int` and a double by comparing the argument
with `INT32_MIN` and `INT32_MAX`; C compares the values, so the model compares `toInt` and
`toNat`. The double they store is `(double)val`, `Float64.ofInt`.
-/

namespace QuickJs

namespace Layout

variable (L : Layout)

/-- `JS_VALUE_IS_BOTH_INT`: `((JS_VALUE_GET_TAG(v1) | JS_VALUE_GET_TAG(v2)) == 0)`. -/
def jsValueIsBothInt (v1 v2 : L.JsValue) : Bool :=
  (L.jsValueGetTag v1 ||| L.jsValueGetTag v2) == 0

/-- `JS_VALUE_IS_BOTH_FLOAT`. -/
def jsValueIsBothFloat (v1 v2 : L.JsValue) : Bool :=
  L.jsTagIsFloat64 (L.jsValueGetTag v1) && L.jsTagIsFloat64 (L.jsValueGetTag v2)

/-- `JS_VALUE_HAS_REF_COUNT`: `((unsigned)JS_VALUE_GET_TAG(v) >= (unsigned)JS_TAG_FIRST)`. -/
def jsValueHasRefCount (v : L.JsValue) : Bool := decide (jsTagFirst ≤ L.jsValueGetTag v)

def jsNull : L.JsValue := L.jsMkval jsTagNull 0
def jsUndefined : L.JsValue := L.jsMkval jsTagUndefined 0
def jsFalse : L.JsValue := L.jsMkval jsTagBool 0
def jsTrue : L.JsValue := L.jsMkval jsTagBool 1
def jsException : L.JsValue := L.jsMkval jsTagException 0
def jsUninitialized : L.JsValue := L.jsMkval jsTagUninitialized 0

/-- `JS_NewBool`: `JS_MKVAL(JS_TAG_BOOL, (val != 0))`. -/
def jsNewBool (val : Bool) : L.JsValue := L.jsMkval jsTagBool (if val then 1 else 0)

/-- `JS_ToBoolean`: `JS_NewBool(ctx, JS_ToBool(ctx, val))`, over the `int` that `JS_ToBool`
returns, `-1` for an exception; passing it to the `bool` parameter converts it, `!= 0`. -/
def jsToBoolean (toBool : BitVec 32) : L.JsValue := L.jsNewBool (toBool != 0)

/-- `JS_NewInt32`. -/
def jsNewInt32 (val : BitVec 32) : L.JsValue := L.jsMkval jsTagInt val

/-- `JS_NewFloat64`. -/
def jsNewFloat64 (val : BitVec 64) : L.JsValue := L.jsNewFloat64Raw val

/-- `JS_NewCatchOffset`. -/
def jsNewCatchOffset (val : BitVec 32) : L.JsValue := L.jsMkval jsTagCatchOffset val

/-- `JS_NewInt64`: an `int` when `val >= INT32_MIN && val <= INT32_MAX`, else `(double)val`. -/
def jsNewInt64 (val : BitVec 64) : L.JsValue :=
  if int32Min ≤ val.toInt ∧ val.toInt ≤ int32Max then L.jsNewInt32 (val.setWidth 32)
  else L.jsNewFloat64 (Float64.ofInt val.toInt)

/-- `JS_NewUint32`: an `int` when `val <= INT32_MAX`, else `(double)val`. -/
def jsNewUint32 (val : BitVec 32) : L.JsValue :=
  if (val.toNat : Int) ≤ int32Max then L.jsNewInt32 val
  else L.jsNewFloat64 (Float64.ofInt val.toNat)

/-- `JS_IsNumber`: `tag == JS_TAG_INT || JS_TAG_IS_FLOAT64(tag)` on the `int` tag. -/
def jsIsNumber (v : L.JsValue) : Bool :=
  let tag := L.jsValueGetTag v
  tag == jsTagInt || L.jsTagIsFloat64 tag

/-- `JS_IsBigInt`: `tag == JS_TAG_BIG_INT || tag == JS_TAG_SHORT_BIG_INT`. -/
def jsIsBigInt (v : L.JsValue) : Bool :=
  let tag := L.jsValueGetTag v
  tag == jsTagBigInt || tag == jsTagShortBigInt

/-- The body of `JS_IsBool` to `JS_IsModule`: `JS_VALUE_GET_TAG(v) == t` for one tag `t`. -/
def jsValueTagIs (t : BitVec 32) (v : L.JsValue) : Bool := L.jsValueGetTag v == t

def jsIsBool : L.JsValue → Bool := L.jsValueTagIs jsTagBool
def jsIsNull : L.JsValue → Bool := L.jsValueTagIs jsTagNull
def jsIsUndefined : L.JsValue → Bool := L.jsValueTagIs jsTagUndefined
def jsIsException : L.JsValue → Bool := L.jsValueTagIs jsTagException
def jsIsUninitialized : L.JsValue → Bool := L.jsValueTagIs jsTagUninitialized
def jsIsString : L.JsValue → Bool := L.jsValueTagIs jsTagString
def jsIsSymbol : L.JsValue → Bool := L.jsValueTagIs jsTagSymbol
def jsIsObject : L.JsValue → Bool := L.jsValueTagIs jsTagObject
def jsIsModule : L.JsValue → Bool := L.jsValueTagIs jsTagModule

/-- A value has a reference count exactly when its tag, as an unsigned word, is one of the nine
below `2^32`. -/
theorem jsValueHasRefCount_iff (v : L.JsValue) :
    L.jsValueHasRefCount v = true ↔ 2 ^ 32 - 9 ≤ (L.jsValueGetTag v).toNat := by
  rw [jsValueHasRefCount, decide_eq_true_eq, BitVec.le_def,
    show jsTagFirst.toNat = 2 ^ 32 - 9 by decide]

theorem jsIsBigInt_eq (v : L.JsValue) :
    L.jsIsBigInt v = (L.jsValueTagIs jsTagBigInt v || L.jsValueTagIs jsTagShortBigInt v) := rfl

end Layout

end QuickJs
